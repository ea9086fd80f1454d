import StoreSchema.Storage.FieldType

set_option autoImplicit false

namespace StoreSchema

/-- A rule for one value of a document; `choices` lists the only values that are accepted. -/
inductive CollectionRule where
  | unrestricted (choices : Option (List Value))
  | storedAs (storage : StorageType) (choices : Option (List Value))
  | arrayOf (item : Option CollectionRule) (choices : Option (List Value))
  | object (fields : List (Scalar × CollectionRule)) (required : List Scalar)
      (choices : Option (List Value))
deriving Inhabited

namespace CollectionRule

def anything : CollectionRule := .unrestricted none

def isAnything : CollectionRule → Bool
  | .unrestricted none => true
  | _ => false

/-- The rule restricted to a list of values. -/
def among (values : List Value) : CollectionRule → CollectionRule
  | .unrestricted _ => .unrestricted (some values)
  | .storedAs storage _ => .storedAs storage (some values)
  | .arrayOf item _ => .arrayOf item (some values)
  | .object fields required _ => .object fields required (some values)

/-- The rule for what a descriptor holds, restricted to its list of values if it has one. -/
def withChoices (entries : Entries Value) (rule : CollectionRule) : CollectionRule :=
  match Entries.get? entries (.text "enum") with
  | some (.list values) => rule.among values
  | _ => rule

/-- An array rule, which says nothing of items that may be anything. -/
def arrayRule (item : Option CollectionRule) : CollectionRule :=
  .arrayOf (item.filter fun rule => !rule.isAnything) none

/-- The value is a descriptor that is required. -/
def isRequired (v : Value) : Bool :=
  match v with
  | .map entries => v.isDescriptor &&
    (match Entries.get? entries (.text "required") with
      | some (.bool true) => true
      | _ => false)
  | _ => false

theorem isRequired_map {entries : Entries Value} : isRequired (.map entries) = true ↔
    (Value.map entries).isDescriptor = true ∧
      Entries.get? entries (.text "required") = some (.bool true) := by
  rw [isRequired, Bool.and_eq_true]
  refine and_congr_right fun _ => ?_
  split
  case h_1 hflag => simp [hflag]
  case h_2 hflag => simpa using hflag

mutual
def ofField (v : Value) : CollectionRule :=
  match v with
  | .list items => ofItems items
  | .type storage => .storedAs storage none
  | .embedded fields => ofFields fields
  | .map entries =>
    match h : Entries.get? entries (.text "type") with
    | some (.map inner) =>
      have := Entries.sizeOf_lt_of_get? h
      withChoices entries (ofFields inner)
    | some (.embedded inner) =>
      have := Entries.sizeOf_lt_of_get? h
      withChoices entries (ofFields inner)
    | some (.list items) =>
      have := Entries.sizeOf_lt_of_get? h
      withChoices entries (ofItems items)
    | some (.type storage) => withChoices entries (.storedAs storage none)
    | some (.scalar (.text _)) | some (.kept (.recurrence _)) => withChoices entries anything
    | _ => ofFields entries
  | _ => anything
termination_by 2 * sizeOf v
decreasing_by
  all_goals simp_wf
  all_goals try simp only [Value.map.sizeOf_spec, Value.embedded.sizeOf_spec,
    Value.list.sizeOf_spec] at this
  all_goals omega

def ofItems (items : List Value) : CollectionRule :=
  match items with
  | [] => arrayRule none
  | item :: _ => arrayRule (some (ofField item))
termination_by 2 * sizeOf items

def ofFields (fields : List (Scalar × Value)) : CollectionRule :=
  .object (fieldRules fields)
    ((fields.filter fun field => isRequired field.2).map Prod.fst) none
termination_by 2 * sizeOf fields + 1

def fieldRules (fields : List (Scalar × Value)) : List (Scalar × CollectionRule) :=
  match fields with
  | [] => []
  | (name, v) :: rest => (name, ofField v) :: fieldRules rest
termination_by 2 * sizeOf fields
end

/-- The names that the store gives a storage type. -/
def storeNames : StorageType → Value
  | .number => .list [.text "double", .text "int", .text "long", .text "decimal"]
  | .text => .text "string"
  | .flag => .text "bool"
  | .moment => .text "date"
  | .identifier => .text "objectId"

/-- The entry for the values that are accepted, if they are listed. -/
def choicesEntry : Option (List Value) → List (Scalar × Value)
  | none => []
  | some values => [(.text "enum", .list values)]

mutual
def toValue : CollectionRule → Value
  | .unrestricted choices => .map (choicesEntry choices)
  | .storedAs storage choices =>
    .map ((.text "bsonType", storeNames storage) :: choicesEntry choices)
  | .arrayOf none choices => .map ((.text "bsonType", .text "array") :: choicesEntry choices)
  | .arrayOf (some item) choices =>
    .map ((.text "bsonType", .text "array") :: (.text "items", toValue item) ::
      choicesEntry choices)
  | .object fields required choices =>
    .map ((.text "bsonType", .text "object") :: (.text "properties", .map (fieldValues fields)) ::
      ((if required.isEmpty then [] else [(.text "required", .list (required.map .scalar))]) ++
        choicesEntry choices))

def fieldValues : List (Scalar × CollectionRule) → List (Scalar × Value)
  | [] => []
  | (name, rule) :: rest => (name, toValue rule) :: fieldValues rest
end

end CollectionRule

end StoreSchema
