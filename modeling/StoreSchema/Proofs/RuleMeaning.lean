import StoreSchema.Proofs.Registry
import StoreSchema.Storage.CollectionRule

/-!
Values of the store that conform to a compiled field map.

A compiled map is read by itself: storage types by their kinds of values, arrays by their item,
descriptors by their type and choices, maps by their fields. Main statement of this module: the
values that the schema of a compiled definition permits are those that conform to it, where the map
itself and a mapping that a descriptor has for its type are read as field maps even if they are
descriptors.
-/

set_option autoImplicit false

namespace StoreSchema

/-- The kinds of values in a store that hold no other values. -/
inductive BsonKind where
  | double
  | int
  | long
  | decimal
  | string
  | bool
  | date
  | objectId
  | null
  | binary
  | regex
  | timestamp
  | javascript
  | javascriptWithScope
  | symbol
  | dbPointer
  | undefined
  | minKey
  | maxKey
deriving DecidableEq

namespace BsonKind

def name : BsonKind → String
  | double => "double"
  | int => "int"
  | long => "long"
  | decimal => "decimal"
  | string => "string"
  | bool => "bool"
  | date => "date"
  | objectId => "objectId"
  | null => "null"
  | binary => "binData"
  | regex => "regex"
  | timestamp => "timestamp"
  | javascript => "javascript"
  | javascriptWithScope => "javascriptWithScope"
  | symbol => "symbol"
  | dbPointer => "dbPointer"
  | undefined => "undefined"
  | minKey => "minKey"
  | maxKey => "maxKey"

end BsonKind

/-- A value in a store: one of a kind with its content, or an array or object of values. -/
inductive Bson where
  | leaf (kind : BsonKind) (content : List UInt8)
  | array (items : List Bson)
  | object (fields : List (String × Bson))

/-- The kinds of values that a storage type is stored as. -/
def StorageType.kinds : StorageType → List BsonKind
  | .number => [.double, .int, .long, .decimal]
  | .text => [.string]
  | .flag => [.bool]
  | .moment => [.date]
  | .identifier => [.objectId]

namespace Bson

def typeName : Bson → String
  | leaf kind _ => kind.name
  | array _ => "array"
  | object _ => "object"

def field? (fields : List (String × Bson)) (name : Scalar) : Option Bson :=
  match name with
  | .text s => fields.lookup s
  | _ => none

/-- The value is of one of the kinds of a storage type. -/
def IsStoredAs (storage : StorageType) (b : Bson) : Prop :=
  ∃ kind ∈ storage.kinds, ∃ content, b = leaf kind content

/-- The type of the value is the one that is named, or one of several. -/
def IsOfType (names : Value) (b : Bson) : Prop :=
  match names with
  | .text name => b.typeName = name
  | .list names => ∃ name ∈ names, name = .text b.typeName
  | _ => True

/-- Every name of a list is that of a field. -/
def HasFields (names : Value) (fields : List (String × Bson)) : Prop :=
  match names with
  | .list names => ∀ name ∈ names, ∀ field, name = .scalar field → (field? fields field).isSome
  | _ => True

end Bson

section Meaning

variable (equals : Value → Bson → Prop)

/-- One of the listed values equals the value. -/
def Bson.IsAmong (values : Value) (b : Bson) : Prop :=
  match values with
  | .list values => ∃ v ∈ values, equals v b
  | _ => True

mutual
/-- The schema permits the value, given which compiled values equal which values of the store. -/
def Value.Permits : Value → Bson → Prop
  | .map keywords, b => PermitsAll keywords b
  | _, _ => True

/-- Each keyword holds of the value, or says nothing of it. -/
def Value.PermitsAll : List (Scalar × Value) → Bson → Prop
  | [], _ => True
  | (keyword, v) :: rest, b =>
    (keyword = .text "bsonType" → b.IsOfType v) ∧
    (keyword = .text "properties" →
      ∀ fields, b = .object fields → Value.PermitsProperties v fields) ∧
    (keyword = .text "required" → ∀ fields, b = .object fields → Bson.HasFields v fields) ∧
    (keyword = .text "items" →
      ∀ items, b = .array items → ∀ item ∈ items, Value.Permits v item) ∧
    (keyword = .text "enum" → b.IsAmong equals v) ∧
    Value.PermitsAll rest b

/-- Schemas by name permit the fields of an object. -/
def Value.PermitsProperties : Value → List (String × Bson) → Prop
  | .map properties, fields => Value.PermitsFields properties fields
  | _, _ => True

/-- Each field that is there is permitted by the schema under its name. -/
def Value.PermitsFields : List (Scalar × Value) → List (String × Bson) → Prop
  | [], _ => True
  | (name, v) :: rest, fields =>
    (∀ b, Bson.field? fields name = some b → Value.Permits v b) ∧
    Value.PermitsFields rest fields
end

/-- The value is one of those that are listed, if any are. -/
def Bson.IsChosen (choices : Option (List Value)) (b : Bson) : Prop :=
  ∀ values, choices = some values → ∃ v ∈ values, equals v b

mutual
/-- The rule accepts the value. -/
def CollectionRule.Accepts : CollectionRule → Bson → Prop
  | .unrestricted choices, b => b.IsChosen equals choices
  | .storedAs storage choices, b => b.IsStoredAs storage ∧ b.IsChosen equals choices
  | .arrayOf none choices, b => (∃ items, b = .array items) ∧ b.IsChosen equals choices
  | .arrayOf (some item) choices, b =>
    (∃ items, b = .array items ∧ ∀ b ∈ items, CollectionRule.Accepts item b) ∧
      b.IsChosen equals choices
  | .object rules required choices, b =>
    (∃ fields, b = .object fields ∧ CollectionRule.AcceptsFields rules fields ∧
      ∀ name ∈ required, (Bson.field? fields name).isSome) ∧ b.IsChosen equals choices

def CollectionRule.AcceptsFields :
    List (Scalar × CollectionRule) → List (String × Bson) → Prop
  | [], _ => True
  | (name, rule) :: rest, fields =>
    (∀ b, Bson.field? fields name = some b → CollectionRule.Accepts rule b) ∧
    CollectionRule.AcceptsFields rest fields
end

variable {equals}

section Rendered

private theorem permitsAll_append {first second : List (Scalar × Value)} {b : Bson} :
    Value.PermitsAll equals (first ++ second) b ↔
      Value.PermitsAll equals first b ∧ Value.PermitsAll equals second b := by
  induction first with
  | nil => simp [Value.PermitsAll]
  | cons e rest ih =>
    obtain ⟨keyword, v⟩ := e
    simp only [List.cons_append, Value.PermitsAll, ih, and_assoc]

private theorem permitsAll_choicesEntry {choices : Option (List Value)} {b : Bson} :
    Value.PermitsAll equals (CollectionRule.choicesEntry choices) b ↔
      b.IsChosen equals choices := by
  cases choices with
  | none => simp [CollectionRule.choicesEntry, Value.PermitsAll, Bson.IsChosen]
  | some values =>
    simp [CollectionRule.choicesEntry, Value.PermitsAll, Bson.IsChosen, Bson.IsAmong]

private theorem permitsAll_bsonType {names : Value} {rest : List (Scalar × Value)} {b : Bson} :
    Value.PermitsAll equals ((.text "bsonType", names) :: rest) b ↔
      b.IsOfType names ∧ Value.PermitsAll equals rest b := by
  simp [Value.PermitsAll]

private theorem permitsAll_items {item : Value} {rest : List (Scalar × Value)} {b : Bson} :
    Value.PermitsAll equals ((.text "items", item) :: rest) b ↔
      (∀ items, b = .array items → ∀ item' ∈ items, item.Permits equals item') ∧
        Value.PermitsAll equals rest b := by
  simp [Value.PermitsAll]

private theorem permitsAll_properties {properties rest : List (Scalar × Value)} {b : Bson} :
    Value.PermitsAll equals ((.text "properties", .map properties) :: rest) b ↔
      (∀ fields, b = .object fields → Value.PermitsFields equals properties fields) ∧
        Value.PermitsAll equals rest b := by
  simp [Value.PermitsAll, Value.PermitsProperties]

private theorem isOfType_storeNames {storage : StorageType} {b : Bson} :
    b.IsOfType (CollectionRule.storeNames storage) ↔ b.IsStoredAs storage := by
  cases b with
  | leaf kind content =>
    cases storage <;> cases kind <;> simp [Bson.IsOfType, CollectionRule.storeNames,
      Bson.typeName, BsonKind.name, Bson.IsStoredAs, StorageType.kinds]
  | array items =>
    cases storage <;> simp [Bson.IsOfType, CollectionRule.storeNames, Bson.typeName,
      Bson.IsStoredAs]
  | object fields =>
    cases storage <;> simp [Bson.IsOfType, CollectionRule.storeNames, Bson.typeName,
      Bson.IsStoredAs]

private theorem isOfType_array {b : Bson} :
    b.IsOfType (.text "array") ↔ ∃ items, b = .array items := by
  cases b with
  | leaf kind content => cases kind <;> simp [Bson.IsOfType, Bson.typeName, BsonKind.name]
  | array items => simp [Bson.IsOfType, Bson.typeName]
  | object fields => simp [Bson.IsOfType, Bson.typeName]

private theorem isOfType_object {b : Bson} :
    b.IsOfType (.text "object") ↔ ∃ fields, b = .object fields := by
  cases b with
  | leaf kind content => cases kind <;> simp [Bson.IsOfType, Bson.typeName, BsonKind.name]
  | array items => simp [Bson.IsOfType, Bson.typeName]
  | object fields => simp [Bson.IsOfType, Bson.typeName]

private theorem permitsAll_required {required : List Scalar} {b : Bson} :
    Value.PermitsAll equals (if required.isEmpty then []
        else [(.text "required", .list (required.map .scalar))]) b ↔
      ∀ fields, b = .object fields → ∀ name ∈ required, (Bson.field? fields name).isSome := by
  cases required with
  | nil => simp [Value.PermitsAll]
  | cons first rest =>
    simp [Value.PermitsAll, Bson.HasFields]

mutual
/-- What a rule is rendered as permits what the rule accepts. -/
theorem CollectionRule.permits_toValue (rule : CollectionRule) (b : Bson) :
    rule.toValue.Permits equals b ↔ rule.Accepts equals b := by
  match rule with
  | .unrestricted choices =>
    rw [CollectionRule.toValue, Value.Permits, CollectionRule.Accepts, permitsAll_choicesEntry]
  | .storedAs storage choices =>
    rw [CollectionRule.toValue, Value.Permits, CollectionRule.Accepts, permitsAll_bsonType,
      permitsAll_choicesEntry, isOfType_storeNames]
  | .arrayOf none choices =>
    rw [CollectionRule.toValue, Value.Permits, CollectionRule.Accepts, permitsAll_bsonType,
      permitsAll_choicesEntry, isOfType_array]
  | .arrayOf (some item) choices =>
    have hitem : ∀ b : Bson, item.toValue.Permits equals b ↔ item.Accepts equals b :=
      fun b => permits_toValue item b
    rw [CollectionRule.toValue, Value.Permits, CollectionRule.Accepts, permitsAll_bsonType,
      permitsAll_items, permitsAll_choicesEntry, isOfType_array]
    simp only [hitem]
    cases b <;> simp
  | .object rules required choices =>
    have hrules : ∀ fields : List (String × Bson),
        Value.PermitsFields equals (CollectionRule.fieldValues rules) fields ↔
          CollectionRule.AcceptsFields equals rules fields :=
      fun fields => permitsFields_fieldValues rules fields
    rw [CollectionRule.toValue, Value.Permits, CollectionRule.Accepts, permitsAll_bsonType,
      permitsAll_properties, permitsAll_append, permitsAll_required, permitsAll_choicesEntry,
      isOfType_object]
    simp only [hrules]
    cases b <;> simp [and_assoc]

theorem CollectionRule.permitsFields_fieldValues (rules : List (Scalar × CollectionRule))
    (fields : List (String × Bson)) :
    Value.PermitsFields equals (CollectionRule.fieldValues rules) fields ↔
      CollectionRule.AcceptsFields equals rules fields := by
  match rules with
  | [] => rw [CollectionRule.fieldValues, Value.PermitsFields, CollectionRule.AcceptsFields]
  | (name, rule) :: rest =>
    rw [CollectionRule.fieldValues, Value.PermitsFields, CollectionRule.AcceptsFields,
      permitsFields_fieldValues rest fields]
    simp only [permits_toValue rule]
end

end Rendered

/-- The values that a descriptor lists, if it lists any. -/
def Value.listed (entries : Entries Value) : Option (List Value) :=
  match Entries.get? entries (.text "enum") with
  | some (.list values) => some values
  | _ => none

/-- The field holds a descriptor with the flag that makes it required. -/
def Value.IsRequired (v : Value) : Prop :=
  v.isDescriptor ∧ ∃ entries, v = .map entries ∧
    Entries.get? entries (.text "required") = some (.bool true)

/-- The fields of an object, where the value is a mapping of whatever entries. A mapping that has a
type is a descriptor where it is read as it stands, and is none here. -/
def Value.asFields : Value → Value
  | .map fields => .embedded fields
  | v => v

variable (equals) (reading : Value → Value) in
mutual
/-- The value conforms to a compiled value. A type is what it is read as where a descriptor has
it. -/
inductive Value.Conforms : Value → Bson → Prop
  | stored {storage : StorageType} {b : Bson} (stored : b.IsStoredAs storage) :
      Value.Conforms (.type storage) b
  | anyItems (items : List Bson) : Value.Conforms (.list []) (.array items)
  | items {item : Value} {rest : List Value} {items : List Bson}
      (conform : ∀ b ∈ items, Value.Conforms item b) :
      Value.Conforms (.list (item :: rest)) (.array items)
  | embedded {fields : List (Scalar × Value)} {b : Bson} (conforms : Value.ConformsTo fields b) :
      Value.Conforms (.embedded fields) b
  | plain {fields : List (Scalar × Value)} {b : Bson}
      (plain : (Value.map fields).isDescriptor = false) (conforms : Value.ConformsTo fields b) :
      Value.Conforms (.map fields) b
  | descriptor {entries : List (Scalar × Value)} {type : Value} {b : Bson}
      (under : Entries.get? entries (.text "type") = some type) (canBe : type.canBeType)
      (conforms : Value.Conforms (reading type) b)
      (chosen : b.IsChosen equals (Value.listed entries)) :
      Value.Conforms (.map entries) b
  | scalar (value : Scalar) (b : Bson) : Value.Conforms (.scalar value) b
  | validator (name : String) (b : Bson) : Value.Conforms (.validator name) b
  | kept (d : Data) (b : Bson) : Value.Conforms (.kept d) b

/-- The value is an object that conforms to a field map: fields that are there conform, and those
that are required are there. -/
inductive Value.ConformsTo : List (Scalar × Value) → Bson → Prop
  | object {fields : List (Scalar × Value)} {given : List (String × Bson)}
      (conform : ∀ name v, (name, v) ∈ fields →
        ∀ b, Bson.field? given name = some b → Value.Conforms v b)
      (present : ∀ name v, (name, v) ∈ fields → v.IsRequired →
        (Bson.field? given name).isSome) :
      Value.ConformsTo fields (.object given)
end

/-- At any depth, no descriptor has another one for its type. -/
def Value.TypesApart : Value → Prop :=
  Value.Throughout (fun entries => ∀ inner, Entries.get? entries (.text "type") =
    some (.map inner) → (Value.map inner).isDescriptor = false) fun _ => True

section Conformance

private theorem isRequired_iff {v : Value} : CollectionRule.isRequired v ↔ v.IsRequired := by
  cases v with
  | map entries => simp [CollectionRule.isRequired_map, Value.IsRequired]
  | _ => simp [CollectionRule.isRequired, Value.IsRequired]

private theorem accepts_anything {b : Bson} : CollectionRule.anything.Accepts equals b := by
  simp [CollectionRule.anything, CollectionRule.Accepts, Bson.IsChosen]

private theorem eq_anything {rule : CollectionRule} (h : rule.isAnything) :
    rule = .anything := by
  cases rule with
  | unrestricted choices => cases choices <;> simp_all [CollectionRule.isAnything,
      CollectionRule.anything]
  | _ => simp [CollectionRule.isAnything] at h

private theorem accepts_arrayRule {item : CollectionRule} {b : Bson} :
    (CollectionRule.arrayRule (some item)).Accepts equals b ↔
      ∃ items, b = .array items ∧ ∀ b ∈ items, item.Accepts equals b := by
  rw [CollectionRule.arrayRule, Option.filter_some]
  cases hitem : item.isAnything with
  | true =>
    rw [eq_anything hitem]
    simp [CollectionRule.Accepts, Bson.IsChosen, accepts_anything]
  | false => simp [CollectionRule.Accepts, Bson.IsChosen]

private theorem accepts_arrayRule_none {b : Bson} :
    (CollectionRule.arrayRule none).Accepts equals b ↔ ∃ items, b = .array items := by
  simp [CollectionRule.arrayRule, CollectionRule.Accepts, Bson.IsChosen]

private def choices : CollectionRule → Option (List Value)
  | .unrestricted choices => choices
  | .storedAs _ choices => choices
  | .arrayOf _ choices => choices
  | .object _ _ choices => choices

private theorem accepts_among {rule : CollectionRule} {values : List Value} {b : Bson}
    (hrule : choices rule = none) :
    (rule.among values).Accepts equals b ↔
      rule.Accepts equals b ∧ b.IsChosen equals (some values) := by
  have hnone : b.IsChosen equals none := by simp [Bson.IsChosen]
  cases rule with
  | unrestricted listed =>
    cases hrule
    simp [CollectionRule.among, CollectionRule.Accepts, hnone]
  | storedAs storage listed =>
    cases hrule
    simp [CollectionRule.among, CollectionRule.Accepts, hnone]
  | arrayOf item listed =>
    cases hrule
    cases item <;> simp [CollectionRule.among, CollectionRule.Accepts, hnone]
  | object rules required listed =>
    cases hrule
    simp [CollectionRule.among, CollectionRule.Accepts, hnone]

private theorem accepts_withChoices {entries : Entries Value} {rule : CollectionRule} {b : Bson}
    (hrule : choices rule = none) :
    (CollectionRule.withChoices entries rule).Accepts equals b ↔
      rule.Accepts equals b ∧ b.IsChosen equals (Value.listed entries) := by
  rw [CollectionRule.withChoices]
  split
  case h_1 values hvalues =>
    have hlisted : Value.listed entries = some values := by rw [Value.listed, hvalues]
    rw [hlisted]
    exact accepts_among hrule
  case h_2 hvalues =>
    have hlisted : Value.listed entries = none := by
      rw [Value.listed]
      split
      case h_1 values h => exact absurd h (hvalues values)
      case h_2 => rfl
    simp [hlisted, Bson.IsChosen]

private theorem choices_ofItems {items : List Value} :
    choices (CollectionRule.ofItems items) = none := by
  cases items <;> rw [CollectionRule.ofItems, CollectionRule.arrayRule, choices]

private theorem choices_ofFields {fields : Entries Value} :
    choices (CollectionRule.ofFields fields) = none := by
  rw [CollectionRule.ofFields, choices]

private theorem acceptsFields_iff {fields : Entries Value} {given : List (String × Bson)} :
    CollectionRule.AcceptsFields equals (CollectionRule.fieldRules fields) given ↔
      ∀ name v, (name, v) ∈ fields → ∀ b, Bson.field? given name = some b →
        (CollectionRule.ofField v).Accepts equals b := by
  induction fields with
  | nil => simp [CollectionRule.fieldRules, CollectionRule.AcceptsFields]
  | cons e rest ih =>
    obtain ⟨name, v⟩ := e
    rw [CollectionRule.fieldRules, CollectionRule.AcceptsFields, ih]
    simp only [List.mem_cons, Prod.mk.injEq]
    constructor
    · rintro ⟨hfirst, hrest⟩ n w (⟨rfl, rfl⟩ | hw)
      · exact hfirst
      · exact hrest n w hw
    · exact fun h => ⟨h name v (.inl ⟨rfl, rfl⟩), fun n w hw => h n w (.inr hw)⟩

private theorem accepts_ofFields_iff {fields : Entries Value} {b : Bson} :
    (CollectionRule.ofFields fields).Accepts equals b ↔
      ∃ given, b = .object given ∧
        (∀ name v, (name, v) ∈ fields → ∀ b, Bson.field? given name = some b →
          (CollectionRule.ofField v).Accepts equals b) ∧
        ∀ name v, (name, v) ∈ fields → v.IsRequired → (Bson.field? given name).isSome := by
  rw [CollectionRule.ofFields, CollectionRule.Accepts]
  simp [acceptsFields_iff, Bson.IsChosen, isRequired_iff]

section Readings

variable {reading : Value → Value}

private theorem conformsTo_iff {fields : Entries Value} {b : Bson} :
    Value.ConformsTo equals reading fields b ↔
      ∃ given, b = .object given ∧
        (∀ name v, (name, v) ∈ fields → ∀ b, Bson.field? given name = some b →
          v.Conforms equals reading b) ∧
        ∀ name v, (name, v) ∈ fields → v.IsRequired → (Bson.field? given name).isSome := by
  constructor
  · rintro ⟨hconform, hpresent⟩
    exact ⟨_, rfl, hconform, hpresent⟩
  · rintro ⟨given, rfl, hconform, hpresent⟩
    exact .object hconform hpresent

private theorem conforms_embedded {fields : Entries Value} {b : Bson} :
    Value.Conforms equals reading (.embedded fields) b ↔ Value.ConformsTo equals reading fields b :=
  ⟨fun | .embedded h => h, .embedded⟩

private theorem conforms_anyItems {b : Bson} :
    Value.Conforms equals reading (.list []) b ↔ ∃ items, b = .array items := by
  constructor
  · rintro ⟨⟩
    case anyItems items => exact ⟨items, rfl⟩
  · rintro ⟨items, rfl⟩
    exact .anyItems items

private theorem conforms_items {item : Value} {rest : List Value} {b : Bson} :
    Value.Conforms equals reading (.list (item :: rest)) b ↔
      ∃ items, b = .array items ∧ ∀ b ∈ items, item.Conforms equals reading b := by
  constructor
  · rintro ⟨⟩
    case items items hconform => exact ⟨items, rfl, hconform⟩
  · rintro ⟨items, rfl, hconform⟩
    exact .items hconform

private theorem conforms_type {storage : StorageType} {b : Bson} :
    Value.Conforms equals reading (.type storage) b ↔ b.IsStoredAs storage :=
  ⟨fun | .stored h => h, .stored⟩

private theorem conforms_plain {fields : Entries Value} {b : Bson}
    (hplain : (Value.map fields).isDescriptor = false) :
    Value.Conforms equals reading (.map fields) b ↔ Value.ConformsTo equals reading fields b := by
  constructor
  · intro h
    cases h with
    | plain _ hconforms => exact hconforms
    | descriptor hunder hcan => simp [Value.isDescriptor, hunder, hcan] at hplain
  · exact .plain hplain

private theorem conforms_descriptor {entries : Entries Value} {type : Value} {b : Bson}
    (hunder : Entries.get? entries (.text "type") = some type) (hcan : type.canBeType) :
    Value.Conforms equals reading (.map entries) b ↔
      (reading type).Conforms equals reading b ∧ b.IsChosen equals (Value.listed entries) := by
  constructor
  · intro h
    cases h with
    | plain hplain => simp [Value.isDescriptor, hunder, hcan] at hplain
    | descriptor hunder' _ hconforms hchosen =>
      cases hunder.symm.trans hunder'
      exact ⟨hconforms, hchosen⟩
  · exact fun ⟨hconforms, hchosen⟩ => .descriptor hunder hcan hconforms hchosen

end Readings

private theorem exists_type_of_descriptor {entries : Entries Value}
    (h : (Value.map entries).isDescriptor = true) :
    ∃ type, Entries.get? entries (.text "type") = some type ∧ type.canBeType := by
  simpa [Value.isDescriptor, Option.getD_eq_iff] using h

private theorem ofField_scalar {value : Scalar} :
    CollectionRule.ofField (.scalar value) = .anything := by
  rw [CollectionRule.ofField] <;> simp

private theorem ofField_validator {name : String} :
    CollectionRule.ofField (.validator name) = .anything := by
  rw [CollectionRule.ofField] <;> simp

private theorem ofField_kept {d : Data} : CollectionRule.ofField (.kept d) = .anything := by
  rw [CollectionRule.ofField] <;> simp

theorem CollectionRule.ofField_plain {fields : Entries Value}
    (hplain : (Value.map fields).isDescriptor = false) :
    CollectionRule.ofField (.map fields) = .ofFields fields := by
  rw [CollectionRule.ofField]
  split <;> simp_all [Value.isDescriptor, Value.canBeType]

private theorem choices_asFields {type : Value} (hcan : type.canBeType) :
    choices (CollectionRule.ofField type.asFields) = none := by
  cases type with
  | map fields | embedded fields =>
    simp only [Value.asFields, CollectionRule.ofField, choices_ofFields]
  | list items => simp only [Value.asFields, CollectionRule.ofField, choices_ofItems]
  | type storage => simp only [Value.asFields, CollectionRule.ofField, choices]
  | scalar value => simp only [Value.asFields, ofField_scalar, CollectionRule.anything, choices]
  | kept d => simp only [Value.asFields, ofField_kept, CollectionRule.anything, choices]
  | validator name => cases hcan

/-- The rule of a descriptor is that of its type, which is a field map if it is a mapping. -/
theorem CollectionRule.ofField_descriptor {entries : Entries Value} {type : Value}
    (hunder : Entries.get? entries (.text "type") = some type) (hcan : type.canBeType) :
    ofField (.map entries) = withChoices entries (ofField type.asFields) := by
  rw [CollectionRule.ofField]
  split
  case h_1 inner h | h_2 inner h =>
    cases hunder.symm.trans h
    simp only [Value.asFields, CollectionRule.ofField]
  case h_3 items h =>
    cases hunder.symm.trans h
    simp only [Value.asFields, CollectionRule.ofField]
  case h_4 storage h =>
    cases hunder.symm.trans h
    simp only [Value.asFields, CollectionRule.ofField]
  case h_5 name h =>
    cases hunder.symm.trans h
    simp only [Value.asFields, ofField_scalar]
  case h_6 isMap h =>
    cases hunder.symm.trans h
    simp only [Value.asFields, ofField_kept]
  case h_7 =>
    cases type <;> simp_all [Value.canBeType]

private theorem sizeOf_asFields (v : Value) : sizeOf v.asFields = sizeOf v := by
  cases v <;> simp [Value.asFields]

mutual
/-- The rule of a compiled value accepts what conforms to it. -/
theorem CollectionRule.accepts_ofField (v : Value) (b : Bson) :
    (CollectionRule.ofField v).Accepts equals b ↔ v.Conforms equals Value.asFields b := by
  match v with
  | .list [] =>
    rw [CollectionRule.ofField, CollectionRule.ofItems, accepts_arrayRule_none, conforms_anyItems]
  | .list (item :: rest) =>
    have hitem : ∀ b : Bson, (CollectionRule.ofField item).Accepts equals b ↔
        item.Conforms equals Value.asFields b := fun b => accepts_ofField item b
    rw [CollectionRule.ofField, CollectionRule.ofItems, accepts_arrayRule, conforms_items]
    simp only [hitem]
  | .type storage =>
    rw [CollectionRule.ofField, CollectionRule.Accepts, conforms_type]
    simp [Bson.IsChosen]
  | .embedded fields =>
    rw [CollectionRule.ofField, accepts_ofFields fields b, conforms_embedded]
  | .map entries =>
    cases hdescriptor : (Value.map entries).isDescriptor with
    | false =>
      rw [ofField_plain hdescriptor, accepts_ofFields entries b, conforms_plain hdescriptor]
    | true =>
      obtain ⟨type, hunder, hcan⟩ := exists_type_of_descriptor hdescriptor
      have hlt : sizeOf type.asFields < sizeOf entries := by
        rw [sizeOf_asFields]
        exact Entries.sizeOf_lt_of_get? hunder
      rw [ofField_descriptor hunder hcan, accepts_withChoices (choices_asFields hcan),
        conforms_descriptor hunder hcan, accepts_ofField type.asFields b]
  | .scalar value =>
    rw [ofField_scalar]
    exact iff_of_true accepts_anything (.scalar value b)
  | .validator name =>
    rw [ofField_validator]
    exact iff_of_true accepts_anything (.validator name b)
  | .kept d =>
    rw [ofField_kept]
    exact iff_of_true accepts_anything (.kept d b)
termination_by 2 * sizeOf v

theorem CollectionRule.accepts_ofFields (fields : List (Scalar × Value)) (b : Bson) :
    (CollectionRule.ofFields fields).Accepts equals b ↔
      Value.ConformsTo equals Value.asFields fields b := by
  have hfields : ∀ name v, (name, v) ∈ fields → ∀ b : Bson,
      (CollectionRule.ofField v).Accepts equals b ↔ v.Conforms equals Value.asFields b := by
    intro name v hv b
    have hlt : sizeOf v < sizeOf fields := Entries.sizeOf_lt_of_mem hv
    exact accepts_ofField v b
  rw [accepts_ofFields_iff, conformsTo_iff]
  refine exists_congr fun given => and_congr_right fun _ => and_congr_left fun _ => ?_
  exact forall₃_congr fun name v hv => forall₂_congr fun b _ => hfields name v hv b
termination_by 2 * sizeOf fields + 1
end

mutual
/-- Where no descriptor has another one for its type, all types are read as what they are. -/
theorem Value.conforms_asFields_iff (v : Value) (h : v.TypesApart) (b : Bson) :
    v.Conforms equals Value.asFields b ↔ v.Conforms equals id b := by
  match v with
  | .list [] => rw [conforms_anyItems, conforms_anyItems]
  | .list (item :: rest) =>
    have hitem : ∀ b : Bson, item.Conforms equals Value.asFields b ↔ item.Conforms equals id b :=
      fun b => Value.conforms_asFields_iff item h.1 b
    rw [conforms_items, conforms_items]
    simp only [hitem]
  | .type storage => rw [conforms_type, conforms_type]
  | .embedded fields =>
    rw [conforms_embedded, conforms_embedded]
    exact conformsTo_asFields_iff fields (Value.throughoutEntries_iff.mp h.2) b
  | .map entries =>
    have hinside := Value.throughoutEntries_iff.mp h.2
    cases hdescriptor : (Value.map entries).isDescriptor with
    | false =>
      rw [conforms_plain hdescriptor, conforms_plain hdescriptor]
      exact conformsTo_asFields_iff entries hinside b
    | true =>
      obtain ⟨type, hunder, hcan⟩ := exists_type_of_descriptor hdescriptor
      have hlt : sizeOf type < sizeOf entries := Entries.sizeOf_lt_of_get? hunder
      obtain ⟨key, hmem, -⟩ := Entries.exists_mem_of_get? hunder
      have htype := Value.conforms_asFields_iff type (hinside _ hmem) b
      rw [conforms_descriptor hunder hcan, conforms_descriptor hunder hcan, id]
      refine and_congr_left fun _ => Iff.trans ?_ htype
      cases type with
      | map inner => rw [Value.asFields, conforms_embedded, conforms_plain (h.1 inner hunder)]
      | _ => rfl
  | .scalar value => exact iff_of_true (.scalar value b) (.scalar value b)
  | .validator name => exact iff_of_true (.validator name b) (.validator name b)
  | .kept d => exact iff_of_true (.kept d b) (.kept d b)
termination_by 2 * sizeOf v

private theorem conformsTo_asFields_iff (fields : List (Scalar × Value))
    (h : ∀ e ∈ fields, e.2.TypesApart) (b : Bson) :
    Value.ConformsTo equals Value.asFields fields b ↔ Value.ConformsTo equals id fields b := by
  have hfields : ∀ name v, (name, v) ∈ fields → ∀ b : Bson,
      v.Conforms equals Value.asFields b ↔ v.Conforms equals id b := by
    intro name v hv b
    have hlt : sizeOf v < sizeOf fields := Entries.sizeOf_lt_of_mem hv
    exact Value.conforms_asFields_iff v (h _ hv) b
  rw [conformsTo_iff, conformsTo_iff]
  refine exists_congr fun given => and_congr_right fun _ => and_congr_left fun _ => ?_
  exact forall₃_congr fun name v hv => forall₂_congr fun b _ => hfields name v hv b
termination_by 2 * sizeOf fields + 1
end

end Conformance

end Meaning

namespace Session

variable {session : Session} {source extra : Source} {compiled : List Compiled}

theorem exists_entries_of_compileDefinitions
    (h : (session.compileDefinitions source extra).outcome = .ok compiled) :
    ∀ c ∈ compiled, ∃ fields, c.properties.entries? = some fields := by
  intro c hc
  obtain ⟨ctx, -, hall⟩ := exists_contextOf h
  rw [Context.compileAll_eq] at hall
  obtain ⟨name, -, hname⟩ := Context.exists_of_mem_compileEach hall hc
  obtain ⟨-, own, added, hassembles⟩ := Context.exists_of_definitionMeaning hname
  obtain ⟨node, -, hown⟩ := exists_of_bind_eq_ok hassembles.own
  rw [hassembles.properties]
  cases Context.isSet_compileSetWith (Context.resolvesSoundly_meaning _) hown with
  | embedded _ => exact ⟨_, rfl⟩
  | typed _ => exact ⟨_, rfl⟩

/-- Of whatever a document compiles to, the schema of a definition permits the values that conform
to its fields, where the compiled map itself and a mapping that a descriptor has for its type are
read as fields. Those are the values that conform to the compiled map as it stands, unless one of
the two is a descriptor. -/
theorem permits_compileDefinitions (equals : Value → Bson → Prop)
    (h : (session.compileDefinitions source extra).outcome = .ok compiled) :
    ∀ c ∈ compiled, ∃ fields, c.properties.entries? = some fields ∧ ∀ b,
      ((CollectionRule.ofFields fields).toValue.Permits equals b ↔
        c.properties.asFields.Conforms equals Value.asFields b) ∧
      (c.properties.isDescriptor = false → c.properties.TypesApart →
        ((CollectionRule.ofFields fields).toValue.Permits equals b ↔
          c.properties.Conforms equals id b)) := by
  intro c hc
  obtain ⟨fields, hfields⟩ := exists_entries_of_compileDefinitions h c hc
  have hrule : ∀ b, (CollectionRule.ofFields fields).toValue.Permits equals b ↔
      Value.ConformsTo equals Value.asFields fields b := fun b =>
    (CollectionRule.permits_toValue _ b).trans (CollectionRule.accepts_ofFields fields b)
  refine ⟨fields, hfields, fun b => ?_⟩
  generalize c.properties = v at hfields
  cases v with
  | embedded own =>
    cases hfields
    have hread := (hrule b).trans conforms_embedded.symm
    exact ⟨hread, fun _ hapart => hread.trans (Value.conforms_asFields_iff _ hapart b)⟩
  | map own =>
    cases hfields
    refine ⟨(hrule b).trans conforms_embedded.symm, fun hplain hapart => ?_⟩
    exact ((hrule b).trans (conforms_plain hplain).symm).trans
      (Value.conforms_asFields_iff _ hapart b)
  | _ => cases hfields

end Session

section Depot

/-- A definition with a type and no fields, one with a field of which a block makes a descriptor
with another one for its type, and one with an array and a field that is required. -/
def depot : Context where
  definitions := [(.text "Tag", .map [(.text "type", .text "string")]),
    (.text "Parcel", .map [(.text "properties", .map [(.text "lid", .map lid)])]),
    (.text "Crate", .map crate)]
where
  lid : Entries Data :=
    [(.text "_mongoose", .map [(.text "type", .map [(.text "type", .text "string")])])]
  labels : Entries Data :=
    [(.text "type", .text "array"), (.text "items", .map [(.text "type", .text "string")])]
  crate : Entries Data :=
    [(.text "required", .list [.text "owner"]),
      (.text "properties",
        .map [(.text "owner", .map [(.text "type", .text "string")]),
          (.text "labels", .map labels)])]

def depotDocument : Source := .data (.map [(.text "definitions", .map depot.definitions)])

private theorem contextOf_depot : ({} : Session).contextOf depotDocument .absent = .ok depot :=
  rfl

private def parcelFields : Entries Value :=
  [(.text "lid", .map [(.text "type", .map [(.text "type", .text "string")])])]

private def crateFields : Entries Value :=
  [(.text "owner", .map [(.text "type", .type .text), (.text "required", .bool true)]),
    (.text "labels", .map [(.text "type", .list [.type .text])])]

private theorem fieldsMeaning_parcel :
    depot.fieldsMeaning [] (.text "Parcel") = .ok (.embedded parcelFields) := by
  have hkey : depot.extensionKey = "_mongoose" := rfl
  have hnode : depot.normalForm (.text "Parcel") =
      .ok (.map [(.text "properties", .map [(.text "lid", .map depot.lid)])]) := rfl
  have hlid : Shape.ofProperty "_mongoose" (.map depot.lid) =
      .override (.map [(.text "type", .map [(.text "type", .text "string")])]) (.map depot.lid)
        false := by
    rw [Shape.ofProperty_map]
    rfl
  have hname : depot.isReserved (.text "lid") = false := rfl
  rw [Context.fieldsMeaning_map hnode, hkey, Shape.ofNode_of_property rfl hlid]
  simp only [Context.compileNode, Context.compileMembers, Context.compileShape, hname,
    Bool.false_eq_true, if_false]
  rfl

private theorem fieldsMeaning_crate :
    depot.fieldsMeaning [] (.text "Crate") = .ok (.embedded crateFields) := by
  have hkey : depot.extensionKey = "_mongoose" := rfl
  have hnode : depot.normalForm (.text "Crate") = .ok (.map depot.crate) := rfl
  have howner : Shape.ofProperty "_mongoose" (.map [(.text "type", .text "string")]) =
      .typed (.ok (.scalar .text)) none := Shape.ofProperty_string (by decide)
  have hitems : FieldType.ofEntries [(.text "type", .text "string")] = .ok (.scalar .text) := by
    rw [FieldType.ofEntries]
    rfl
  have hlabels : Shape.ofProperty "_mongoose" (.map depot.labels) =
      .typed (.ok (.listOf (.scalar .text))) none := by
    have htype : FieldType.ofEntries depot.labels = .ok (.listOf (.scalar .text)) := by
      rw [@FieldType.ofEntries_of_array depot.labels _ rfl rfl, hitems]
      rfl
    rw [Shape.ofProperty_of_typed (.inl rfl), htype]
    rfl
  have hnames : depot.isReserved (.text "owner") = false ∧
      depot.isReserved (.text "labels") = false := ⟨rfl, rfl⟩
  rw [Context.fieldsMeaning_map hnode, hkey, @Shape.ofNode_of_properties _ depot.crate _ rfl,
    Shape.members_all]
  simp only [List.map_cons, List.map_nil, howner, hlabels, Context.compileNode,
    Context.compileMembers, Context.compileShape, hnames.1, hnames.2, Bool.false_eq_true, if_false]
  rfl

private theorem compileDefinitions_depot :
    (({} : Session).compileDefinitions depotDocument .absent).outcome = .ok
      [{ name := .text "Tag", properties := .map [(.text "type", .type .text)],
         options := [], index := none },
       { name := .text "Parcel", properties := .embedded parcelFields, options := [],
         index := none },
       { name := .text "Crate", properties := .embedded crateFields, options := [],
         index := none }] := by
  have htag : depot.fieldsMeaning [] (.text "Tag") =
      .ok (.map [(.text "type", .type .text)]) := by
    have hnode : depot.normalForm (.text "Tag") = .ok (.map [(.text "type", .text "string")]) := rfl
    have htype : FieldType.ofEntries [(.text "type", .text "string")] = .ok (.scalar .text) := by
      rw [FieldType.ofEntries]
      rfl
    rw [Context.fieldsMeaning_map hnode, Shape.ofNode_of_typed _ rfl rfl rfl, htype]
    rfl
  rw [Session.outcome_compileDefinitions contextOf_depot]
  exact Context.compileAll_of_fields depot rfl
    (.cons htag (.cons fieldsMeaning_parcel (.cons fieldsMeaning_crate .nil)))

/-- The schema of the tag permits an object, which is no text. That of the parcel permits no text
for its lid, and any value conforms to a descriptor of an unknown type. -/
theorem depot_read_as_fields :
    ∃ tag parcel rest, (({} : Session).compileDefinitions depotDocument .absent).outcome =
        .ok (tag :: parcel :: rest) ∧
      ∀ equals : Value → Bson → Prop,
        (∃ fields, tag.properties.entries? = some fields ∧
          (CollectionRule.ofFields fields).toValue.Permits equals (.object []) ∧
          ¬ tag.properties.Conforms equals id (.object [])) ∧
        ∃ fields, parcel.properties.entries? = some fields ∧
          parcel.properties.Conforms equals id (.object [("lid", .leaf .string [])]) ∧
          ¬ (CollectionRule.ofFields fields).toValue.Permits equals
            (.object [("lid", .leaf .string [])]) := by
  refine ⟨_, _, _, compileDefinitions_depot, fun equals => ⟨⟨_, rfl, ?_, ?_⟩, _, rfl, ?_, ?_⟩⟩
  · rw [CollectionRule.permits_toValue, CollectionRule.accepts_ofFields]
    refine .object (fun name v _ b hb => ?_) fun name v hv hrequired => ?_
    · cases name <;> cases hb
    · cases List.mem_singleton.mp hv
      obtain ⟨-, entries, hentries, -⟩ := hrequired
      cases hentries
  · intro h
    cases h with
    | plain hplain => cases hplain
    | descriptor hunder _ hconforms =>
      cases hunder
      obtain ⟨kind, -, content, hleaf⟩ := conforms_type.mp hconforms
      cases hleaf
  · have hinner : ∀ b, Value.Conforms equals id (.map [(.text "type", .text "string")]) b :=
      fun b => .descriptor rfl rfl (.scalar _ b) fun values h => by cases h
    refine .embedded (.object (fun name v hv b _ => ?_) fun name v hv hrequired => ?_)
    · cases List.mem_singleton.mp hv
      exact .descriptor rfl rfl (hinner b) fun values h => by cases h
    · cases List.mem_singleton.mp hv
      obtain ⟨-, entries, hentries, hflag⟩ := hrequired
      cases hentries
      cases hflag
  · rw [CollectionRule.permits_toValue, CollectionRule.accepts_ofFields]
    intro h
    cases h with
    | object hconform _ =>
      cases hconform _ _ (List.mem_singleton.mpr rfl) _ rfl with
      | plain hplain => cases hplain
      | descriptor hunder _ hconforms =>
        cases hunder
        cases conforms_embedded.mp hconforms

/-- The owner of a crate is required and its labels are texts. -/
theorem depot_permits :
    ∃ compiled, (({} : Session).compileDefinitions depotDocument .absent).outcome = .ok compiled ∧
      (∀ equals : Value → Bson → Prop, ∀ c ∈ compiled, ∃ fields,
        c.properties.entries? = some fields ∧ ∀ b,
          ((CollectionRule.ofFields fields).toValue.Permits equals b ↔
            c.properties.asFields.Conforms equals Value.asFields b) ∧
          (c.properties.isDescriptor = false → c.properties.TypesApart →
            ((CollectionRule.ofFields fields).toValue.Permits equals b ↔
              c.properties.Conforms equals id b))) ∧
      ∃ crate ∈ compiled, crate.properties.isDescriptor = false ∧ crate.properties.TypesApart ∧
        ∀ equals : Value → Bson → Prop,
          crate.properties.Conforms equals id
            (.object [("labels", .array [.leaf .string []]), ("owner", .leaf .string [])]) ∧
          ¬ crate.properties.Conforms equals id (.object [("labels", .array [])]) := by
  refine ⟨_, compileDefinitions_depot,
    fun equals => Session.permits_compileDefinitions equals compileDefinitions_depot, _,
    List.mem_cons_of_mem _ (List.mem_cons_of_mem _ List.mem_cons_self), rfl, ?_, fun equals => ?_⟩
  · simp only [Value.TypesApart, crateFields, Value.Throughout, Value.ThroughoutEntries,
      Value.ThroughoutItems, and_true, true_and]
    exact ⟨fun inner h => (by cases h), fun inner h => by cases h⟩
  have htext : Value.Conforms equals id (.type .text) (.leaf .string []) :=
    .stored ⟨.string, List.mem_singleton.mpr rfl, [], rfl⟩
  constructor
  · refine .embedded (.object (fun name v hv b hb => ?_) fun name v hv _ => ?_)
    · obtain heq | hv := List.mem_cons.mp hv
      · cases heq
        cases hb
        exact .descriptor rfl rfl htext fun values h => by cases h
      · cases List.mem_singleton.mp hv
        cases hb
        refine .descriptor rfl rfl (.items fun b hb => ?_) fun values h => by cases h
        cases List.mem_singleton.mp hb
        exact htext
    · obtain heq | hv := List.mem_cons.mp hv
      · cases heq
        rfl
      · cases List.mem_singleton.mp hv
        rfl
  · intro h
    cases conforms_embedded.mp h with
    | object _ hpresent =>
      cases hpresent (.text "owner") _ List.mem_cons_self ⟨rfl, _, rfl, rfl⟩

end Depot

end StoreSchema
