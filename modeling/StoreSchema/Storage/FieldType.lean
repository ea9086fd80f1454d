import StoreSchema.Fault
import StoreSchema.Storage.Value

set_option autoImplicit false

namespace StoreSchema

/-- What a field is stored as: a scalar, or a list of one item type. -/
inductive FieldType where
  | scalar (storage : StorageType)
  | listOf (item : FieldType)
deriving DecidableEq, Inhabited

namespace FieldType

/-- The type names that stand for a scalar by themselves. -/
def scalarTypes : List (String × StorageType) :=
  [("integer", .number), ("long", .number), ("float", .number), ("double", .number),
    ("string", .text), ("password", .text), ("boolean", .flag), ("date", .moment),
    ("dateTime", .moment)]

def numberFormats : List String :=
  ["integer", "long", "float", "double"]

def typeNames : List String :=
  ["number", "integer", "long", "float", "double", "string", "password", "boolean", "date",
    "dateTime", "array"]

theorem typeNames_perm : typeNames.Perm ("number" :: "array" :: scalarTypes.map Prod.fst) := by
  decide

def scalarType? (name : String) : Option StorageType :=
  scalarTypes.lookup name

def isTypeName : Data → Bool
  | .text name => typeNames.contains name
  | _ => false

def isNumberFormat : Data → Bool
  | .text name => numberFormats.contains name
  | _ => false

/-- A mapping whose type is a name of the grammar. -/
def isSimple : Data → Bool
  | .map entries => isTypeName (Entries.value entries "type")
  | _ => false

def ofEntries (entries : List (Scalar × Data)) : Except Fault FieldType :=
  match Entries.value entries "type" with
  | .text name =>
    if name = "number" then
      let format := Entries.value entries "format"
      if isNumberFormat format then .ok (.scalar .number) else .error (.unknownFormat format)
    else if name = "array" then
      match h : Entries.get? entries (.text "items") with
      | some (.map items) =>
        have := Entries.sizeOf_lt_of_get? h
        (ofEntries items).map .listOf
      | some (.recurrence true) => .error .endless
      | _ => .error .noItems
    else match scalarType? name with
      | some storage => .ok (.scalar storage)
      | none => .error (.unknownType (.text name))
  | other => .error (.unknownType other)
termination_by sizeOf entries
decreasing_by
  simp only [Data.map.sizeOf_spec] at this
  omega

def ofData : Data → Except Fault FieldType
  | .map entries => ofEntries entries
  | _ => .error (.misuse .noMember)

/-- A field type as a compiled value: a list type is a list of its one item. -/
def toValue : FieldType → Value
  | .scalar storage => .type storage
  | .listOf item => .list [item.toValue]

/-- The name of a field type, in one pair of brackets for each list. -/
def name : FieldType → String
  | .scalar storage => storage.name
  | .listOf item => "[" ++ item.name ++ "]"

theorem typeName_toValue (t : FieldType) : t.toValue.typeName = t.name := by
  induction t with
  | scalar storage => simp [toValue, Value.typeName, name]
  | listOf item ih => simp [toValue, Value.typeName, name, ih]

end FieldType

end StoreSchema
