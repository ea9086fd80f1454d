import StoreSchema.Proofs.Overrides
import StoreSchema.Proofs.Rendering

/-!
The grammar of type descriptors.

A descriptor names a scalar type, or is a number of a known format, or an array whose items are a
descriptor again. Main statement of this module: the descriptors that have a type are those of the
grammar, and the type is that of the innermost descriptor in one list for each array around it; any
other is refused for its innermost descriptor, a number for its format and all else for its type.
-/

set_option autoImplicit false

namespace StoreSchema

/-- The value inside so many lists of one item. -/
def Value.inLists (v : Value) : Nat → Value
  | 0 => v
  | layers + 1 => .list [v.inLists layers]

namespace FieldType

/-- The scalar types that are stored in one way. -/
def scalarNames : StorageType → List String
  | .number => ["integer", "long", "float", "double"]
  | .text => ["string", "password"]
  | .flag => ["boolean"]
  | .moment => ["date", "dateTime"]
  | .identifier => []

/-- The formats that a number may have. -/
def formatNames : List String :=
  ["integer", "long", "float", "double"]

/-- The entries describe an array of what the items describe. -/
structure IsArrayOf (entries items : Entries Data) : Prop where
  type : Entries.value entries "type" = .text "array"
  items : Entries.get? entries (.text "items") = some (.map items)

/-- The entries describe a scalar that is stored in one way, inside so many arrays. -/
inductive Describes : Entries Data → StorageType → Nat → Prop
  | scalar {entries : Entries Data} {storage : StorageType} {name : String}
      (htype : Entries.value entries "type" = .text name) (hname : name ∈ scalarNames storage) :
      Describes entries storage 0
  | number {entries : Entries Data} {format : String}
      (htype : Entries.value entries "type" = .text "number")
      (hformat : Entries.value entries "format" = .text format)
      (hknown : format ∈ formatNames) : Describes entries .number 0
  | array {entries items : Entries Data} {storage : StorageType} {layers : Nat}
      (harray : IsArrayOf entries items) (hitems : Describes items storage layers) :
      Describes entries storage (layers + 1)

/-- What is reached by going from arrays to their items as long as these are mappings, through so
many arrays. -/
inductive Innermost : Entries Data → Nat → Entries Data → Prop
  | here {entries : Entries Data} (hlast : ∀ items, ¬IsArrayOf entries items) :
      Innermost entries 0 entries
  | inside {entries items inner : Entries Data} {layers : Nat} (harray : IsArrayOf entries items)
      (hitems : Innermost items layers inner) : Innermost entries (layers + 1) inner

/-- Why an innermost descriptor has no type. -/
inductive Refused (inner : Entries Data) : Fault → Prop
  | format (htype : Entries.value inner "type" = .text "number")
      (hformat : ∀ format ∈ formatNames, Entries.value inner "format" ≠ .text format) :
      Refused inner (.unknownFormat (Entries.value inner "format"))
  | items (htype : Entries.value inner "type" = .text "array")
      (hitems : ∀ items, Entries.get? inner (.text "items") ≠ some (.map items)) :
      Refused inner .noItems
  | type (htype : ∀ name ∈ typeNames, Entries.value inner "type" ≠ .text name) :
      Refused inner (.unknownType (Entries.value inner "type"))

variable {entries items inner : Entries Data} {storage : StorageType} {layers : Nat}
  {name : String} {fault : Fault}

/-! ### Names of types and formats -/

theorem scalarType?_eq_some_iff : scalarType? name = some storage ↔ name ∈ scalarNames storage := by
  constructor
  · intro h
    obtain ⟨before, after, hlisted, -⟩ := List.lookup_eq_some_iff.mp h
    have hmem : (name, storage) ∈ scalarTypes := by simp [hlisted]
    have hall : ∀ e ∈ scalarTypes, e.1 ∈ scalarNames e.2 := by decide
    exact hall _ hmem
  · intro h
    have hall : ∀ storage, ∀ name ∈ scalarNames storage, scalarType? name = some storage := by
      rintro (_ | _ | _ | _ | _) <;> decide
    exact hall storage name h

theorem ne_of_mem_scalarNames (h : name ∈ scalarNames storage) :
    name ≠ "number" ∧ name ≠ "array" := by
  constructor
  all_goals
    rintro rfl
    cases storage <;> exact absurd h (by decide)

theorem mem_typeNames_iff : name ∈ typeNames ↔
    name = "number" ∨ name = "array" ∨ ∃ storage, scalarType? name = some storage := by
  have htable : name ∈ scalarTypes.map Prod.fst ↔ ∃ storage, scalarType? name = some storage := by
    constructor
    · intro h
      have hall : ∀ word ∈ scalarTypes.map Prod.fst, (scalarType? word).isSome = true := by decide
      exact Option.isSome_iff_exists.mp (hall name h)
    · rintro ⟨storage, h⟩
      obtain ⟨before, after, hlisted, -⟩ := List.lookup_eq_some_iff.mp h
      simp [hlisted]
  rw [typeNames_perm.mem_iff, List.mem_cons, List.mem_cons, htable]

theorem isNumberFormat_iff {d : Data} :
    isNumberFormat d = true ↔ ∃ format ∈ formatNames, d = .text format := by
  have htable : numberFormats = formatNames := rfl
  unfold isNumberFormat
  split
  · next format => simp [htable]
  · next hother =>
    constructor
    · intro h
      cases h
    · rintro ⟨format, -, rfl⟩
      exact absurd rfl (hother format)

/-! ### What the innermost descriptor comes to -/

theorem Describes.map_toValue (h : Describes entries storage layers) :
    (ofEntries entries).map toValue = .ok ((Value.type storage).inLists layers) := by
  induction h with
  | scalar htype hname =>
    obtain ⟨hnumber, harray⟩ := ne_of_mem_scalarNames hname
    rw [ofEntries_eq, htype]
    simp only [if_neg hnumber, if_neg harray, scalarType?_eq_some_iff.mpr hname]
    rfl
  | number htype hformat hknown =>
    have hformat := isNumberFormat_iff.mpr ⟨_, hknown, hformat⟩
    rw [ofEntries_eq, htype]
    simp only [hformat, if_true]
    rfl
  | array harray _ ih =>
    rw [ofEntries_of_array harray.type harray.items]
    cases htype : ofEntries _ with
    | error fault =>
      rw [htype] at ih
      cases ih
    | ok type =>
      rw [htype] at ih
      injection ih with ih
      simp only [Except.map, toValue, Value.inLists, ih]

theorem Innermost.describes (h : Innermost entries layers inner)
    (hinner : Describes inner storage 0) : Describes entries storage layers := by
  induction h with
  | here => exact hinner
  | inside harray _ ih => exact .array harray (ih hinner)

theorem Innermost.eq_error_iff (h : Innermost entries layers inner) :
    ofEntries entries = .error fault ↔ ofEntries inner = .error fault := by
  induction h with
  | here => exact Iff.rfl
  | inside harray _ ih =>
    rw [ofEntries_of_array harray.type harray.items, ← ih]
    cases ofEntries _ with
    | error other => simp [Except.map]
    | ok type => simp [Except.map]

private theorem isPlain_of_get? {key : Scalar} {d : Data}
    (hplain : (Data.map entries).isPlain = true) (hget : Entries.get? entries key = some d) :
    d.isPlain = true := by
  obtain ⟨k, hmem, -⟩ := Entries.exists_mem_of_get? hget
  exact (Data.isPlain_map.mp hplain _ hmem).2

theorem Innermost.isPlain (h : Innermost entries layers inner)
    (hplain : (Data.map entries).isPlain = true) : (Data.map inner).isPlain = true := by
  induction h with
  | here => exact hplain
  | inside harray _ ih => exact ih (isPlain_of_get? hplain harray.items)

theorem Innermost.last (h : Innermost entries layers inner) (items : Entries Data) :
    ¬IsArrayOf inner items := by
  induction h with
  | here hlast => exact hlast items
  | inside _ _ ih => exact ih

theorem exists_innermost (entries : Entries Data) :
    ∃ layers inner, Innermost entries layers inner := by
  by_cases harray : ∃ items, IsArrayOf entries items
  · obtain ⟨items, harray⟩ := harray
    have := Entries.sizeOf_lt_of_get? harray.items
    obtain ⟨layers, inner, hinner⟩ := exists_innermost items
    exact ⟨layers + 1, inner, .inside harray hinner⟩
  · exact ⟨0, entries, .here fun items h => harray ⟨items, h⟩⟩
termination_by sizeOf entries
decreasing_by
  simp only [Data.map.sizeOf_spec] at this
  omega

/-- A descriptor that goes no further inwards describes a scalar, or there is a reason why it has no
type. -/
theorem describes_or_refused (hlast : ∀ items, ¬IsArrayOf inner items) :
    (∃ storage, Describes inner storage 0) ∨ ∃ fault, Refused inner fault := by
  by_cases hnamed : ∃ name ∈ typeNames, Entries.value inner "type" = .text name
  · obtain ⟨name, hname, htype⟩ := hnamed
    obtain rfl | rfl | ⟨storage, hstorage⟩ := mem_typeNames_iff.mp hname
    · by_cases hknown : ∃ format ∈ formatNames, Entries.value inner "format" = .text format
      · obtain ⟨format, hknown, hformat⟩ := hknown
        exact Or.inl ⟨_, .number htype hformat hknown⟩
      · exact Or.inr ⟨_, .format htype fun format hmem hformat => hknown ⟨format, hmem, hformat⟩⟩
    · exact Or.inr ⟨_, .items htype fun items hitems => hlast items ⟨htype, hitems⟩⟩
    · exact Or.inl ⟨_, .scalar htype (scalarType?_eq_some_iff.mp hstorage)⟩
  · exact Or.inr ⟨_, .type fun name hname htype => hnamed ⟨name, hname, htype⟩⟩

theorem Refused.ofEntries_eq (h : Refused inner fault)
    (hplain : (Data.map inner).isPlain = true) : ofEntries inner = .error fault := by
  rw [FieldType.ofEntries_eq]
  cases h with
  | format htype hformat =>
    have hunknown : isNumberFormat (Entries.value inner "format") = false := by
      rw [Bool.eq_false_iff]
      intro hknown
      obtain ⟨format, hmem, hvalue⟩ := isNumberFormat_iff.mp hknown
      exact hformat format hmem hvalue
    rw [htype]
    simp only [hunknown, if_true, Bool.false_eq_true, if_false]
  | items htype hitems =>
    rw [htype]
    simp only [String.reduceEq, if_false, if_true]
    split
    · next items hmap => exact absurd hmap (hitems items)
    · next hitself => cases isPlain_of_get? hplain hitself
    · rfl
  | type htype =>
    split
    · next name hname =>
      have hunnamed : name ∉ typeNames := fun hmem => htype name hmem hname
      rw [mem_typeNames_iff, not_or, not_or, not_exists] at hunnamed
      obtain ⟨hnumber, harray, hscalar⟩ := hunnamed
      rw [if_neg hnumber, if_neg harray, Option.eq_none_iff_forall_ne_some.mpr hscalar, hname]
    · rfl

/-! ### What a descriptor comes to -/

/-- A descriptor is refused for the reasons for which its innermost descriptor has no type. -/
theorem eq_error_iff_refused (hplain : (Data.map entries).isPlain = true)
    (hinner : Innermost entries layers inner) :
    ofEntries entries = .error fault ↔ Refused inner fault := by
  have hrefused : ∀ {other}, Refused inner other → ofEntries entries = .error other := fun h =>
    hinner.eq_error_iff.mpr (h.ofEntries_eq (hinner.isPlain hplain))
  refine ⟨fun herror => ?_, hrefused⟩
  -- The reasons exclude each other, as each is the fault that the whole descriptor ends in.
  obtain ⟨storage, hstorage⟩ | ⟨other, hother⟩ := describes_or_refused hinner.last
  · have htype := (hinner.describes hstorage).map_toValue
    rw [herror] at htype
    cases htype
  · have hsame := herror.symm.trans (hrefused hother)
    cases hsame
    exact hother

theorem map_toValue_eq_ok_iff (hplain : (Data.map entries).isPlain = true) {v : Value} :
    (ofEntries entries).map toValue = .ok v ↔
      ∃ storage layers, Describes entries storage layers ∧
        v = (Value.type storage).inLists layers := by
  constructor
  · intro hok
    obtain ⟨layers, inner, hinner⟩ := exists_innermost entries
    obtain ⟨storage, hstorage⟩ | ⟨fault, hfault⟩ := describes_or_refused hinner.last
    · have hdescribes := hinner.describes hstorage
      rw [hdescribes.map_toValue] at hok
      cases hok
      exact ⟨storage, layers, hdescribes, rfl⟩
    · rw [(eq_error_iff_refused hplain hinner).mpr hfault] at hok
      cases hok
  · rintro ⟨storage, layers, hdescribes, rfl⟩
    exact hdescribes.map_toValue

/-- The descriptors of the grammar have the type that they describe, each array adding one list; any
other is refused for what its innermost descriptor lacks; and what has a type is simple. -/
theorem ofData_follows_grammar (hplain : (Data.map entries).isPlain = true) :
    (∀ v, (ofData (.map entries)).map toValue = .ok v ↔
      ∃ storage layers, Describes entries storage layers ∧
        v = (Value.type storage).inLists layers) ∧
    (∃ layers inner, Innermost entries layers inner) ∧
    (∀ layers inner, Innermost entries layers inner → ∀ fault,
      ofData (.map entries) = .error fault ↔ Refused inner fault) ∧
    ∀ type, ofData (.map entries) = .ok type → isSimple (.map entries) = true := by
  rw [ofData]
  exact ⟨fun v => map_toValue_eq_ok_iff hplain, exists_innermost entries,
    fun layers inner hinner fault => eq_error_iff_refused hplain hinner,
    fun type => isSimple_of_ok⟩

section Matrix

def numberOf (format : String) : Entries Data :=
  [(.text "type", .text "number"), (.text "format", .text format)]

def matrixOf (format : String) : Entries Data :=
  rowOf (rowOf (numberOf format))

private theorem isArrayOf_rowOf (items : Entries Data) : IsArrayOf (rowOf items) items :=
  ⟨rfl, rfl⟩

private theorem innermost_matrixOf (format : String) :
    Innermost (matrixOf format) 2 (numberOf format) := by
  refine .inside (isArrayOf_rowOf _) (.inside (isArrayOf_rowOf _) (.here ?_))
  rintro items ⟨htype, -⟩
  change Data.text "number" = .text "array" at htype
  simp at htype

/-- Rows of numbers of a known format have a type, and for an unknown format are refused. -/
theorem matrix_follows_grammar :
    (Data.map (matrixOf "double")).isPlain = true ∧
    (ofData (.map (matrixOf "double"))).map toValue = .ok (.list [.list [.type .number]]) ∧
    (Data.map (matrixOf "decimal")).isPlain = true ∧
    ofData (.map (matrixOf "decimal")) = .error (.unknownFormat (.text "decimal")) := by
  have hdouble : (Data.map (matrixOf "double")).isPlain = true := by decide
  have hdecimal : (Data.map (matrixOf "decimal")).isPlain = true := by decide
  have hdescribes : Describes (matrixOf "double") .number 2 :=
    (innermost_matrixOf "double").describes (.number rfl rfl (by decide))
  have hrefused : Refused (numberOf "decimal") (.unknownFormat (.text "decimal")) := by
    refine .format rfl fun format hformat hvalue => ?_
    change Data.text "decimal" = .text format at hvalue
    simp only [Data.scalar.injEq, Scalar.text.injEq] at hvalue
    exact absurd (hvalue ▸ hformat) (by decide)
  refine ⟨hdouble, ?_, hdecimal, ?_⟩
  · exact ((ofData_follows_grammar hdouble).1 _).mpr ⟨.number, 2, hdescribes, rfl⟩
  · have hinner := innermost_matrixOf "decimal"
    exact ((ofData_follows_grammar hdecimal).2.2.1 2 _ hinner _).mpr hrefused

end Matrix

end FieldType

end StoreSchema
