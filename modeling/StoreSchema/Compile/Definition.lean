import StoreSchema.Compile.Context
import StoreSchema.Definition.Shape
import StoreSchema.Storage.Facet

/-!
Compiling definitions and their properties.

A reference to another definition embeds what that definition compiles to. A reference back to the
definition being compiled is stored as an identifier instead; with the cycle guard on, so is one to
any definition that is being compiled further out.

Compiling a shape is given what to do with a reference, and is a step of whatever kind that is. In
a run it is a step that counts the references that may still be followed in a row.
-/

set_option autoImplicit false

namespace StoreSchema

/-- What to do with a reference from inside an owner. -/
abbrev Resolve (m : Type → Type) :=
  (owner field : Scalar) → (target : String) → (many : Bool) → m (Option Value)

/-- Compiles the definition that a field refers to, in a list if there are many. -/
abbrev Embed (m : Type → Type) :=
  (field : Scalar) → (target : String) → (many : Bool) → m (Option Value)

/-- How a step is run for a definition that is being compiled. -/
abbrev Enter := {α : Type} → (name : Scalar) → Compile α → Compile α

namespace Value

/-- A list of the value if there are many. -/
def manyOf (v : Value) (many : Bool) : Value :=
  if many then .list [v] else v

/-- The identifier of a document of another definition. -/
def referenceTo (target : String) (includeRef : Bool) : Value :=
  .map ((.text "type", .type .identifier) ::
    if includeRef then [(.text "ref", .text target)] else [])

end Value

namespace Context

/-- The reference that an extension block asks for, and whether it is named in the descriptor. -/
def overrideReference (ctx : Context) (extension base : Entries Data) : Option (Data × Bool) :=
  if ctx.isLegacy then
    let reference := Entries.value base "$ref"
    if reference.isTruthy && (Entries.value extension "type").isText "objectId" then
      match Entries.value extension "includeSwaggerRef" with
      | .bool false => some (reference, false)
      | _ => some (reference, true)
    else none
  else
    let reference := Entries.value extension "$ref"
    if reference.isTruthy then some (reference, true) else none

/-- The value with its type mapped, if it is a bare descriptor; what the type was read from is
dropped. -/
def mapSimple (described : Entries Data) (v : Entries Value) : Except Fault (Entries Value) :=
  if FieldType.isSimple (.map described) then do
    let type ← FieldType.ofEntries described
    pure (Entries.erase (Entries.erase (Entries.put v (.text "type") type.toValue)
      (.text "items")) (.text "format"))
  else .ok v

/-- The descriptor that an extension block makes of the node it is laid on. -/
def override (ctx : Context) (extension base : Data) (many : Bool) : Except Fault Value := do
  let base ← orMisuse base.members
  let extension ← orMisuse extension.members
  match ctx.overrideReference extension base with
  | some (reference, includeRef) =>
    let target ← Pointer.target reference
    let _ ← ctx.requireDefinition (.text target)
    pure ((Value.referenceTo target includeRef).manyOf many)
  | none =>
    let stripped := Entries.erase base (.text ctx.extensionKey)
    let validator := Entries.value extension "validator"
    if validator.isTruthy then
      let function ← ctx.validator validator
      let v ← mapSimple stripped
        (Entries.put (Value.ofEntries stripped) (.text "validate") (.validator function))
      pure ((Value.map v).manyOf many)
    else
      let merged := Entries.overlay stripped extension
      let v ← mapSimple merged (Value.ofEntries merged)
      pure ((Value.map v).manyOf many)

/-- The descriptor of a mapped type and the values it is restricted to. -/
def typedDescriptor (type : FieldType) (choices : Option (List Data)) : Value :=
  .map ((.text "type", type.toValue) ::
    match choices with
    | some values => [(.text "enum", .list (Value.ofItems values))]
    | none => [])

section Shape

variable {m : Type → Type} [Monad m] [MonadExceptOf Fault m]

mutual
/-- Compiles the property of a given shape; none if the field is left out. -/
def compileShape (ctx : Context) (resolve : Resolve m) (owner field : Scalar) (required : Data) :
    Shape → m (Option Value)
  | .notMapping value => throw (.propertyNotMapping field owner value)
  | .endless => throw .endless
  | .noFields => throw (.misuse .noMember)
  | .malformed reference => throw (.malformedReference reference)
  | .composed => pure none
  | .override extension base many => do
    let v ← Compile.ofExcept (ctx.override extension base many)
    pure (some (v.fillRequired field required))
  | .reference target many => do
    let v ← resolve owner field target many
    pure (v.map fun v => v.fillRequired field required)
  | .typed type choices => do
    let type ← Compile.ofExcept type
    pure (some ((typedDescriptor type choices).fillRequired field required))
  | .fields inner members => do
    let fields ← ctx.compileMembers resolve field inner members
    pure (some ((Value.embedded fields).fillRequired field required))
  | .withDefault shape default => do
    let v ← ctx.compileShape resolve owner field required shape
    pure (v.map fun v => v.withDefault default)

/-- Compiles the fields of a set in order, leaving out the reserved ones. -/
def compileMembers (ctx : Context) (resolve : Resolve m) (owner : Scalar) (required : Data) :
    List (Scalar × Shape) → m (Entries Value)
  | [] => pure []
  | (name, shape) :: rest => do
    let v ← (if ctx.isReserved name then pure none
      else ctx.compileShape resolve owner name required shape)
    let more ← ctx.compileMembers resolve owner required rest
    match v with
    | some v => pure ((name, v) :: more)
    | none => pure more
end

/-- Compiles one property of an owner; none if the field is left out. -/
def compilePropertyWith (ctx : Context) (resolve : Resolve m) (property : Data) (field : Scalar)
    (required : Data) (owner : Scalar) : m (Option Value) :=
  if ctx.isReserved field then pure none
  else ctx.compileShape resolve owner field required (Shape.ofProperty ctx.extensionKey property)

/-- Compiles what a node declares, given its shape: its fields in order, or its type. -/
def compileNode (ctx : Context) (resolve : Resolve m) (owner : Scalar) : Shape → m Value
  | .fields required members => do
    let fields ← ctx.compileMembers resolve owner required members
    pure (.embedded fields)
  | .typed type _ => do
    let type ← Compile.ofExcept type
    pure (typedDescriptor type none)
  | .endless => throw .endless
  | _ => throw (.misuse .noMember)

def compileSetWith (ctx : Context) (lookup : Scalar → m Data) (resolve : Resolve m)
    (owner : Scalar) (node : Data) : m Value := do
  let entries ← (if Composition.isComposed node then merge lookup node
    else Compile.ofExcept (orMisuse node.members))
  ctx.compileNode resolve owner (Shape.ofNode ctx.extensionKey entries)

/-- A definition that is embedded whole: an array, an object, or one without a type that declares
properties or a composition. -/
def isContainer (definition : Entries Data) : Bool :=
  match Entries.value definition "type" with
  | .null => Entries.has definition (.text "properties") || Entries.has definition (.text "allOf")
  | type => type.isText "array" || type.isText "object"

/-- Compiles a definition for the field that refers to it, given what to do with the references
inside it. -/
def compileTarget (ctx : Context) (lookup : Scalar → m Data) (resolve : Resolve m)
    (name field : Scalar) (many : Bool) (node : Data) : m (Option Value) := do
  let definition ← Compile.ofExcept (orMisuse node.members)
  if isContainer definition then
    if (Entries.value definition "type").isText "array" then
      let declared := Entries.value definition "items"
      let items := if declared.isTruthy then declared else .map []
      let v ← ctx.compilePropertyWith resolve items name .null name
      pure (some (.list [v.getD (.scalar .null)]))
    else
      let v ← ctx.compileSetWith lookup resolve name node
      pure (some (v.manyOf many))
  else
    let stripped := Entries.erase definition (.text ctx.extensionKey)
    let v ← ctx.compilePropertyWith resolve (.map stripped) field .null name
    pure (if many then some (.list [v.getD (.scalar .null)]) else v)

end Shape

/-- A reference from inside `owner` that is stored as an identifier. -/
def isSelfReference (ctx : Context) (owner : Scalar) (target : String)
    (resolving : List Scalar) : Bool :=
  owner.same (.text target) ||
    (ctx.settings.detectCycles && resolving.any fun name => name.same (.text target))

/-- What a reference compiles to before facets are attached. Whether it is embedded or stored as an
identifier, its target has to be registered. -/
def resolve (ctx : Context) (embed : Embed Compile) : Resolve Compile :=
  fun owner field target many => do
    let _ ← Compile.ofExcept (ctx.requireDefinition (.text target))
    if ctx.isSelfReference owner target (← get).resolving then
      pure (some ((Value.referenceTo target true).manyOf many))
    else embed field target many

/-- Compiles the definition that a field refers to, following at most `depth` references in a
row. -/
def embed (ctx : Context) (enter : Enter) : Nat → Embed Compile
  | 0 => fun _ _ _ => throw .endless
  | depth + 1 => fun field target many => do
    let name := Scalar.text target
    let node ← ctx.definition name
    let resolve := ctx.resolve (ctx.embed enter depth)
    enter name (ctx.compileTarget ctx.definition resolve name field many node)

/-- The number of references that can be followed in a row without coming back to the same one.
What a reference compiles to depends on its target, and for a target that is no container on which
definition, if any, the field is named after. -/
def referenceBound (ctx : Context) : Nat :=
  (ctx.definitions.length + 1) * (ctx.definitions.length + 1)

def resolveInRun (ctx : Context) (enter : Enter) : Resolve Compile :=
  ctx.resolve (ctx.embed enter ctx.referenceBound)

def compileProperty (ctx : Context) (property : Data) (field : Scalar) (required : Data)
    (owner : Scalar) : Compile (Option Value) :=
  ctx.compilePropertyWith (ctx.resolveInRun Compile.within) property field required owner

def compileSet (ctx : Context) (owner : Scalar) (node : Data) : Compile Value :=
  ctx.compileSetWith ctx.definition (ctx.resolveInRun Compile.within) owner node

def formOf (ctx : Context) (property : Data) (field owner : Scalar) : Except Fault Form :=
  match property with
  | .map entries =>
    match Form.ofEntries ctx.extensionKey entries with
    | .malformed reference => .error (.malformedReference reference)
    | form => .ok form
  | _ => .error (.propertyNotMapping field owner property)

/-- What a property that is a reference compiles to before facets are attached; any other property
refers to nothing. -/
def resolveProperty (ctx : Context) (property : Data) (field owner : Scalar) :
    Compile (Option Value) := do
  match ← Compile.ofExcept (ctx.formOf property field owner) with
  | .reference target many =>
    ctx.resolveInRun Compile.within owner field target many
  | _ => throw (.unresolvedReference .null)

end Context

/-- What a definition compiles to. -/
structure Compiled where
  name : Scalar
  properties : Value
  options : Entries Data
  index : Option Index
deriving Inhabited

namespace Context

/-- Compiles additional properties, each the extension block of a property of its own. -/
def compileAdditional {m : Type → Type} [Monad m] [MonadExceptOf Fault m] (ctx : Context)
    (resolve : Resolve m) (name : Scalar) : Entries Data → m (Entries Value)
  | [] => pure []
  | (field, property) :: rest => do
    let entries ← Compile.ofExcept (orMisuse property.members)
    let wrapped := Data.map [(.text ctx.extensionKey, property)]
    let v ← ctx.compilePropertyWith resolve wrapped field (Entries.value entries "required") name
    let more ← ctx.compileAdditional resolve name rest
    match v with
    | some v => pure ((field, v) :: more)
    | none => pure more

/-- The compiled fields with others laid on them. -/
def addFields (properties : Value) (fields : Entries Value) : Value :=
  match properties with
  | .map entries => .map (Entries.overlay entries fields)
  | .embedded entries => .embedded (Entries.overlay entries fields)
  | other => other

/-- Compiles a definition, given the step that compiles its own fields; none if it is excluded. -/
def compileDefinitionWith {m : Type → Type} [Monad m] [MonadExceptOf Fault m] (ctx : Context)
    (fields : m Value) (resolve : Resolve m) (name : Scalar) : m (Option Compiled) :=
  if ctx.extensions.isExcluded name then pure none
  else do
    let properties ← fields
    let additional ← ctx.compileAdditional resolve name (ctx.extensions.additionalFor name)
    let index ← Compile.ofExcept (ctx.extensions.indexFor name)
    pure (some
      { name
        properties := addFields properties additional
        options := ctx.extensions.optionsFor name
        index })

/-- Compiles a definition, given how definitions are entered. -/
def compileDefinitionBy (ctx : Context) (enter : Enter) (name : Scalar) :
    Compile (Option Compiled) :=
  let resolve := ctx.resolveInRun enter
  let fields : Compile Value := do
    let node ← ctx.definition name
    enter name (ctx.compileSetWith ctx.definition resolve name node)
  ctx.compileDefinitionWith fields resolve name

/-- Compiles a definition; none if it is excluded. -/
def compileDefinition (ctx : Context) (name : Scalar) : Compile (Option Compiled) :=
  ctx.compileDefinitionBy Compile.within name

def compileEach {m : Type → Type} [Monad m] (compile : Scalar → m (Option Compiled)) :
    List Scalar → m (List Compiled)
  | [] => pure []
  | name :: rest => do
    let first ← compile name
    let more ← compileEach compile rest
    pure (first.toList ++ more)

/-- Compiles every definition from the start of a run. -/
def compileAll (ctx : Context) : Except Fault (List Compiled) :=
  ((compileEach ctx.compileDefinition (Entries.keys ctx.definitions)).run.run {}).1

end Context

end StoreSchema
