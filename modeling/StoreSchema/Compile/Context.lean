import StoreSchema.Definition.Shape
import StoreSchema.Definition.Extension
import StoreSchema.Settings.Basic

set_option autoImplicit false

namespace StoreSchema

open StoreSchema.Number (Binary64)

structure Context where
  definitions : Entries Data
  settings : CompilerSettings := {}
  version : Option Binary64 := none
  extensions : Extensions := {}
  /-- Validators by name, each with the name of its function. -/
  validators : List (String × String) := []
deriving Inhabited

/-- What a run remembers. -/
structure Progress where
  /-- The definitions being compiled, outermost first. -/
  resolving : List Scalar := []
  /-- The definitions met so far, with their compositions merged. -/
  normalized : Entries Data := []
deriving Inhabited

/-- A step of a run, which may fail; its progress is kept in either case. -/
abbrev Compile := ExceptT Fault (StateM Progress)

namespace Compile

variable {m : Type → Type} [Monad m] [MonadExceptOf Fault m] {α : Type}

/-- An outcome as a step of any kind that may fail. -/
def ofExcept (outcome : Except Fault α) : m α :=
  match outcome with
  | .ok value => pure value
  | .error fault => throw fault

/-- A step during which a definition is on the stack; it is taken off whatever the outcome. -/
def within (name : Scalar) (step : Compile α) : Compile α := fun progress =>
  let (outcome, after) :=
    step.run.run { progress with resolving := progress.resolving ++ [name] }
  (outcome, { after with resolving := after.resolving.dropLast })

/-- The definition of a name: the one that is remembered, or else the one that a step reads, which
is remembered for the rest of the run. -/
def remembered (name : Scalar) (read : Compile Data) : Compile Data := do
  match Entries.get? (← get).normalized name with
  | some known => pure known
  | none =>
    let node ← read
    modify fun progress =>
      { progress with normalized := Entries.put progress.normalized name node }
    pure node

end Compile

namespace Context

/-- The document is older than version 2, or has no version. -/
def isLegacy (ctx : Context) : Bool :=
  match ctx.version with
  | none => true
  | some version => version.isBelow 2

def extensionKey (ctx : Context) : String :=
  if ctx.isLegacy then ctx.settings.legacyExtensionKey else ctx.settings.extensionKey

/-- The extension block of a definition or property; null if there is none. -/
def extensionOf (ctx : Context) (node : Data) : Data :=
  node.value ctx.extensionKey

def isReserved (ctx : Context) (field : Scalar) : Bool :=
  ctx.settings.reservedFields.any fun name => field.same (.text name)

def hasDefinition (ctx : Context) (name : Scalar) : Bool :=
  Entries.has ctx.definitions name

def rawDefinition (ctx : Context) (name : Scalar) : Except Fault Data :=
  match Entries.get? ctx.definitions name with
  | some raw => .ok raw
  | none => .error (.unresolvedReference name)

/-- A name, provided that a definition is registered under it. -/
def requireDefinition (ctx : Context) (name : Scalar) : Except Fault Scalar :=
  (ctx.rawDefinition name).map fun _ => name

def validator (ctx : Context) (name : Data) : Except Fault String := do
  match ← orMisuse name.key with
  | .text word =>
    match ctx.validators.lookup word with
    | some function => pure function
    | none => throw (notFound name)
  | _ => throw (notFound name)
where
  /-- The fault of a validator that is not registered. -/
  notFound (name : Data) : Fault :=
    .validatorNotFound name ((ctx.validators.map Prod.fst).mergeSort fun a b => decide (a ≤ b))

section Composed

variable {m : Type → Type} [Monad m] [MonadExceptOf Fault m]

/-- The node that a source of a fragment stands for. -/
def nodeOf (lookup : Scalar → m Data) : Composition.Source → m Data
  | .named target => lookup (.text target)
  | .inline node => pure node

/-- Adds the fragments of a node to what was gathered, looking named ones up. -/
def gather (lookup : Scalar → m Data) (gathered : Composition.Gathered) :
    List Data → m Composition.Gathered
  | [] => pure gathered
  | fragment :: rest => do
    let source ← Compile.ofExcept (Composition.source fragment)
    let node ← nodeOf lookup source
    let gathered ← Compile.ofExcept (orMisuse (gathered.add node))
    gather lookup gathered rest

def merge (lookup : Scalar → m Data) (node : Data) : m (Entries Data) := do
  let entries ← Compile.ofExcept (orMisuse node.members)
  let fragments ← Compile.ofExcept (orMisuse (Composition.fragments entries))
  let gathered ← gather lookup .empty fragments
  pure (gathered.finish entries)

/-- A definition with its composition merged, given how to look the others up. -/
def readDefinition (ctx : Context) (lookup : Scalar → m Data) (name : Scalar) : m Data := do
  let raw ← Compile.ofExcept (ctx.rawDefinition name)
  if Composition.isComposed raw then
    let entries ← merge lookup raw
    pure (.map entries)
  else pure raw

end Composed

/-- A definition with its composition merged, following at most `depth` references in a row. -/
def normalize (ctx : Context) : Nat → Scalar → Compile Data
  | 0, _ => throw .endless
  | depth + 1, name => Compile.remembered name (ctx.readDefinition (ctx.normalize depth) name)

/-- A definition with its composition merged. A chain of compositions that is longer than the
number of definitions comes back to one of them and never ends. -/
def definition (ctx : Context) (name : Scalar) : Compile Data :=
  ctx.normalize (ctx.definitions.length + 1) name

end Context

end StoreSchema
