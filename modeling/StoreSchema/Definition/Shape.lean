import StoreSchema.Fault
import StoreSchema.Storage.FieldType
import StoreSchema.Text.Characters

/-!
Shapes: properties and definitions read to the leaves of their inline objects, before any
reference is followed. The shape is a function of the node and of the extension key alone.

An extension block on a property comes first, then one on its items, then a reference, a
composition, an embedded object, an array, and last a scalar. A node gives its fields under
`properties`; one that has neither those nor a type lists its fields directly.
-/

set_option autoImplicit false

namespace StoreSchema.Pointer

open StoreSchema.Text.WordCharacter (isWord)

def lead : String := "#/definitions/"

def ofName (name : String) : String := lead ++ name

/-- The name that a pointer text leads to. -/
def name? (pointer : String) : Option String :=
  let chars := pointer.toList
  if lead.toList.isPrefixOf chars then
    let rest := chars.drop lead.toList.length
    let name := rest.takeWhile isWord
    let after := rest.dropWhile isWord
    if name ≠ [] ∧ (after = [] ∨ after = ['\n']) then some (String.ofList name) else none
  else none

def target (reference : Data) : Except Fault String :=
  match reference with
  | .text pointer =>
    match name? pointer with
    | some name => .ok name
    | none => .error (.malformedReference reference)
  | _ => .error (.malformedReference reference)

end StoreSchema.Pointer

namespace StoreSchema

namespace Composition

def isComposed (node : Data) : Bool :=
  (node.value "allOf").isTruthy

def fragments (node : Entries Data) : Except Misuse (List Data) :=
  let listed := Entries.value node "allOf"
  if listed.isTruthy then listed.items else .ok []

/-- Where the declarations of a fragment stand: under the definition it names, or in itself. -/
inductive Source where
  | named (target : String)
  | inline (node : Data)

def source (fragment : Data) : Except Fault Source := do
  if ← orMisuse (fragment.mentions "$ref") then
    match fragment with
    | .map entries => pure (.named (← Pointer.target (Entries.value entries "$ref")))
    | _ => .error (.misuse .wrongKind)
  else pure (.inline fragment)

/-- What the fragments read so far declare. -/
structure Gathered where
  properties : Entries Data
  required : List Scalar

namespace Gathered

def empty : Gathered := ⟨[], []⟩

def addRequired (names : List Scalar) (name : Scalar) : List Scalar :=
  if names.any (·.same name) then names else names ++ [name]

def propertiesOf (node : Entries Data) : Except Misuse (Entries Data) :=
  let declared := Entries.value node "properties"
  if declared.isTruthy then declared.toEntries else .ok []

/-- The names that a node requires by a list. -/
def requiredOf (node : Entries Data) : Except Misuse (List Scalar) :=
  match Entries.value node "required" with
  | .list names => names.mapM Data.key
  | .pair first second _ => do pure [← first.key, ← second.key]
  | _ => .ok []

def add (gathered : Gathered) (node : Data) : Except Misuse Gathered := do
  let entries ← node.members
  let properties ← propertiesOf entries
  let required ← requiredOf entries
  pure ⟨Entries.overlay gathered.properties properties,
    required.foldl addRequired gathered.required⟩

/-- The node with what was gathered in the place of its fragments. Where nothing was gathered the
node's own declaration stays. -/
def finish (gathered : Gathered) (node : Entries Data) : Entries Data :=
  let plain := Entries.erase node (.text "allOf")
  let withProperties :=
    if gathered.properties.isEmpty then plain
    else Entries.put plain (.text "properties") (.map gathered.properties)
  if gathered.required.isEmpty then withProperties
  else Entries.put withProperties (.text "required") (.list (gathered.required.map .scalar))

end Gathered

end Composition

inductive Form where
  /-- An extension block and the node that it is laid on; `many` if that node is the items. -/
  | override (extension base : Data) (many : Bool)
  | malformed (reference : Data)
  | reference (target : String) (many : Bool)
  | composed
  | embedded
  | array
  | scalar

namespace Form

/-- The reference that a property stands for: its own, or that of the items of an array. -/
def referenceOf (entries : Entries Data) : Data :=
  let own := Entries.value entries "$ref"
  if own.isNull && (Entries.value entries "type").isText "array" then
    (Entries.value entries "items").value "$ref"
  else own

/-- The form of a property with the given entries, extension blocks being found under `key`. -/
def ofEntries (key : String) (entries : Entries Data) : Form :=
  let own := Entries.value entries key
  let items := Entries.value entries "items"
  let inItems := items.value key
  let reference := referenceOf entries
  let type := Entries.value entries "type"
  if own.isTruthy then .override own (.map entries) false
  else if inItems.isTruthy then .override inItems items true
  else if !reference.isNull then
    match Pointer.target reference with
    | .ok target => .reference target items.isMap
    | .error _ => .malformed reference
  else if (Entries.value entries "allOf").isTruthy then .composed
  else if !type.isTruthy || type.isText "object" then .embedded
  else if type.isText "array" then .array
  else .scalar

end Form

/-- The shape of a property or of a set of fields. -/
inductive Shape where
  | notMapping (value : Data)
  /-- A property or fields inside themselves. -/
  | endless
  /-- Fields that are no mapping. -/
  | noFields
  | override (extension base : Data) (many : Bool)
  | malformed (reference : Data)
  | reference (target : String) (many : Bool)
  | composed
  | typed (type : Except Fault FieldType) (choices : Option (List Data))
  | fields (required : Data) (members : List (Scalar × Shape))
  | withDefault (shape : Shape) (default : Data)
deriving Inhabited

namespace Shape

def keywords : List String :=
  ["additionalProperties", "default", "example", "externalDocs", "items", "xml"]

/-- An entry of a node without properties and type that is a field of it. -/
def isDirectField (key : String) (name : Scalar) (value : Data) : Bool :=
  value.isMap && !name.same (.text key) && !keywords.any fun word => name.same (.text word)

/-- The values that a property is restricted to. -/
def choicesOf (entries : Entries Data) : Option (List Data) :=
  match Entries.value entries "enum" with
  | .list values => some values
  | _ => none

mutual
def ofProperty (key : String) (d : Data) : Shape :=
  match d with
  | .map entries =>
    let shape := match Form.ofEntries key entries with
      | .override extension base many => .override extension base many
      | .malformed pointer => .malformed pointer
      | .reference target many => .reference target many
      | .composed => .composed
      | .embedded => ofNode key entries
      | .array | .scalar => .typed (FieldType.ofEntries entries) (choicesOf entries)
    match Entries.get? entries (.text "default") with
    | some default => .withDefault shape default
    | none => shape
  | .recurrence true => .endless
  | _ => .notMapping d
termination_by 3 * sizeOf d

/-- The shape of the fields that a node declares; of its type if it declares a type instead. -/
def ofNode (key : String) (entries : List (Scalar × Data)) : Shape :=
  let required := Entries.value entries "required"
  match h : Entries.value entries "properties" with
  | .map properties =>
    have := Entries.sizeOf_lt_of_value h
    .fields required (members key false properties)
  | .null =>
    match Entries.value entries "type" with
    | .null => .fields required (members key true entries)
    | type =>
      if type.isText "object" then .fields required []
      else .typed (FieldType.ofEntries entries) none
  | .recurrence true => .endless
  | _ => .noFields
termination_by 3 * sizeOf entries + 1
decreasing_by
  all_goals try simp only [Data.map.sizeOf_spec] at this
  all_goals omega

/-- The shapes of named properties; of the direct fields alone if `direct`. -/
def members (key : String) (direct : Bool) (entries : List (Scalar × Data)) :
    List (Scalar × Shape) :=
  match entries with
  | [] => []
  | (name, d) :: rest =>
    let more := members key direct rest
    if direct && !isDirectField key name d then more else (name, ofProperty key d) :: more
termination_by 3 * sizeOf entries
end

end Shape

end StoreSchema
