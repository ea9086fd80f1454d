import StoreSchema.Proofs.Assembly
import StoreSchema.Proofs.Intake
import StoreSchema.Storage.Value

/-!
Compiled values by name.

A compiled value is looked at place by place. An array of a scalar type is a type as a whole and has
no parts, as its rendering, a text, has none. Main statements of this module: the rendering of a
compiled value has at every place the same keys in the same order and whatever is rendered there, so
that nothing is lost; rendered again it stays as it is; and what is compiled from plain data is
rendered as plain data. The rendering of a type is its name exactly if the type is of one list at
most: an array of arrays keeps its outer lists.
-/

set_option autoImplicit false

namespace StoreSchema

namespace Data

def part? : Data → Nat → Option Data
  | .list items, n => items[n]?
  | .map entries, n => entries[n]?.map Prod.snd
  | .pair first second _, n => some (if n == 0 then first else second)
  | _, _ => none

theorem at?_cons (d : Data) (n : Nat) (rest : Place) :
    d.at? (n :: rest) = (d.part? n).bind fun part => part.at? rest := by
  cases d with
  | map entries => exact (Option.bind_map ..).symm
  | _ => rfl

def keys? : Data → Option (List Scalar)
  | .map entries => some (Entries.keys entries)
  | _ => none

end Data

namespace Value

def part? : Value → Nat → Option Value
  | .list (.type _ :: _), _ => none
  | .list items, n => items[n]?
  | .map entries, n | .embedded entries, n => entries[n]?.map Prod.snd
  | .kept d, n => (d.part? n).map ofData
  | _, _ => none

/-- What stands at a place. -/
def at? (v : Value) : Place → Option Value
  | [] => some v
  | n :: rest => (v.part? n).bind fun part => part.at? rest

def keys? : Value → Option (List Scalar)
  | .map entries | .embedded entries => some (Entries.keys entries)
  | .kept d => d.keys?
  | _ => none

/-! ### The rendering, place by place -/

theorem itemsToData_eq_map (items : List Value) : itemsToData items = items.map toData := by
  induction items with
  | nil => rfl
  | cons item rest ih => rw [itemsToData, ih, List.map_cons]

theorem entriesToData_eq_map (entries : Entries Value) :
    entriesToData entries = entries.map fun e => (e.1, e.2.toData) := by
  induction entries with
  | nil => rfl
  | cons e rest ih => rw [entriesToData, ih, List.map_cons]

theorem part?_list {items : List Value} (h : ∀ storage rest, items ≠ .type storage :: rest)
    (n : Nat) : (Value.list items).part? n = items[n]? := by
  rw [part?]
  rintro storage rest rfl
  exact h storage rest rfl

theorem toData_list {items : List Value} (h : ∀ storage rest, items ≠ .type storage :: rest) :
    (Value.list items).toData = .list (items.map toData) := by
  cases items with
  | nil => rfl
  | cons item rest =>
    rw [toData, renderItems]
    · rw [itemsToData_eq_map, List.map_cons]
    · rintro storage rfl
      exact h storage rest rfl

theorem ofItems_eq_map (items : List Data) : ofItems items = items.map ofData := by
  induction items with
  | nil => rfl
  | cons item rest ih => rw [ofItems, ih, List.map_cons]

theorem ofItems_ne (items : List Data) (storage : StorageType) (rest : List Value) :
    ofItems items ≠ .type storage :: rest := by
  intro h
  cases items with
  | nil => cases h
  | cons item _ => cases item <;> cases h

mutual
theorem toData_ofData (d : Data) : (ofData d).toData = d := by
  match d with
  | .scalar _ | .pair _ _ _ | .set _ _ | .recurrence _ => rfl
  | .list items =>
    rw [ofData, toData_list (ofItems_ne items), ← itemsToData_eq_map, itemsToData_ofItems items]
  | .map entries => rw [ofData, toData, entriesToData_ofEntries entries]

theorem itemsToData_ofItems (items : List Data) : itemsToData (ofItems items) = items := by
  match items with
  | [] => rfl
  | item :: rest => rw [ofItems, itemsToData, toData_ofData item, itemsToData_ofItems rest]

theorem entriesToData_ofEntries (entries : List (Scalar × Data)) :
    entriesToData (ofEntries entries) = entries := by
  match entries with
  | [] => rfl
  | (key, d) :: rest =>
    rw [ofEntries, entriesToData, toData_ofData d, entriesToData_ofEntries rest]
end

theorem keys?_toData (v : Value) : v.toData.keys? = v.keys? := by
  have hentries : ∀ entries : Entries Value,
      Entries.keys (entriesToData entries) = Entries.keys entries := by
    intro entries
    rw [entriesToData_eq_map, Entries.keys, List.map_map]
    rfl
  cases v with
  | list items =>
    by_cases htype : ∃ storage rest, items = .type storage :: rest
    · obtain ⟨storage, rest, rfl⟩ := htype
      rfl
    · rw [toData_list fun storage rest h => htype ⟨storage, rest, h⟩]
      rfl
  | map entries => exact congrArg some (hentries entries)
  | embedded fields => exact congrArg some (hentries fields)
  | _ => rfl

theorem part?_toData (v : Value) (n : Nat) : v.toData.part? n = (v.part? n).map toData := by
  have hentries : ∀ entries : Entries Value,
      (entriesToData entries)[n]?.map Prod.snd = (entries[n]?.map Prod.snd).map toData := by
    intro entries
    rw [entriesToData_eq_map, List.getElem?_map, Option.map_map, Option.map_map]
    rfl
  cases v with
  | list items =>
    by_cases htype : ∃ storage rest, items = .type storage :: rest
    · obtain ⟨storage, rest, rfl⟩ := htype
      rfl
    · have hne : ∀ storage rest, items ≠ .type storage :: rest :=
        fun storage rest h => htype ⟨storage, rest, h⟩
      rw [toData_list hne, part?_list hne]
      exact List.getElem?_map ..
  | map entries => exact hentries entries
  | embedded fields => exact hentries fields
  | kept d =>
    have hdata : toData ∘ ofData = id := funext toData_ofData
    rw [part?, Option.map_map, hdata, Option.map_id_apply, toData]
  | _ => rfl

/-- The rendering has at every place what stands there, rendered, and nothing else. -/
theorem at?_toData (v : Value) (place : Place) : v.toData.at? place = (v.at? place).map toData := by
  induction place generalizing v with
  | nil => rfl
  | cons n rest ih =>
    rw [Data.at?_cons, at?, part?_toData]
    cases v.part? n with
    | none => rfl
    | some part => exact ih part

end Value

namespace FieldType

def layers : FieldType → Nat
  | scalar _ => 0
  | listOf item => item.layers + 1

/-- A type is rendered as its name exactly if it is of one list at most. -/
theorem toData_toValue_eq_name_iff (type : FieldType) :
    type.toValue.toData = .text type.name ↔ type.layers ≤ 1 := by
  match type with
  | scalar storage => exact ⟨fun _ => Nat.zero_le 1, fun _ => rfl⟩
  | listOf (scalar storage) => exact ⟨fun _ => Nat.le_refl 1, fun _ => rfl⟩
  | listOf (listOf item) =>
    have hne : ∀ storage rest, [(listOf item).toValue] ≠ .type storage :: rest := by
      intro storage rest h
      cases h
    constructor
    · intro h
      rw [toValue, Value.toData_list hne] at h
      cases h
    · intro h
      have hlayers : (listOf (listOf item)).layers = item.layers + 2 := rfl
      omega

end FieldType

/-! ### Plain data -/

/-- Null, a flag, a number or a text. -/
def Scalar.isPlain : Scalar → Bool
  | .stamp _ _ | .bytes _ => false
  | _ => true

namespace Data

mutual
/-- The value consists of plain scalars, lists and mappings. -/
def isPlain : Data → Bool
  | .scalar value => value.isPlain
  | .list items => arePlain items
  | .map entries => entriesArePlain entries
  | .pair _ _ _ | .set _ _ | .recurrence _ => false

def arePlain : List Data → Bool
  | [] => true
  | item :: rest => isPlain item && arePlain rest

def entriesArePlain : List (Scalar × Data) → Bool
  | [] => true
  | (key, value) :: rest => key.isPlain && isPlain value && entriesArePlain rest
end

theorem isPlain_list {items : List Data} :
    (Data.list items).isPlain = true ↔ ∀ item ∈ items, item.isPlain = true := by
  rw [isPlain]
  induction items with
  | nil => simp [arePlain]
  | cons item rest ih => rw [arePlain, Bool.and_eq_true, ih, List.forall_mem_cons]

theorem isPlain_map {entries : Entries Data} : (Data.map entries).isPlain = true ↔
    ∀ e ∈ entries, (Data.scalar e.1).isPlain = true ∧ e.2.isPlain = true := by
  rw [isPlain]
  induction entries with
  | nil => simp [entriesArePlain]
  | cons e rest ih =>
    rw [entriesArePlain, Bool.and_eq_true, Bool.and_eq_true, ih, List.forall_mem_cons]
    rfl

theorem hereditary_isPlain : Hereditary fun d => d.isPlain = true where
  null := rfl
  bool _ := rfl
  text _ := rfl
  list := isPlain_list
  map := isPlain_map
  items := by
    intro d items hd hitems item hitem
    cases d with
    | list own =>
      cases hitems
      exact isPlain_list.mp hd item hitem
    | map entries =>
      cases hitems
      obtain ⟨e, he, rfl⟩ := List.mem_map.mp hitem
      exact (isPlain_map.mp hd e he).1
    | scalar s =>
      cases s with
      | text s =>
        cases hitems
        obtain ⟨point, -, rfl⟩ := List.mem_map.mp hitem
        rfl
      | bytes value => cases hd
      | _ => cases hitems
    | pair _ _ _ | set _ _ | recurrence _ => cases hd

end Data

namespace Value

mutual
theorem isEndless_ofData {d : Data} (h : d.isPlain = true) : (ofData d).isEndless = false := by
  match d with
  | .scalar _ => rfl
  | .list items => exact anyEndless_ofItems h
  | .map entries => exact anyEntryEndless_ofEntries h
  | .pair _ _ _ | .set _ _ | .recurrence _ => cases h

theorem anyEndless_ofItems {items : List Data} (h : Data.arePlain items = true) :
    anyEndless (ofItems items) = false := by
  match items with
  | [] => rfl
  | item :: rest =>
    obtain ⟨hitem, hrest⟩ := Bool.and_eq_true_iff.mp h
    rw [ofItems, anyEndless, isEndless_ofData hitem, anyEndless_ofItems hrest]
    rfl

theorem anyEntryEndless_ofEntries {entries : List (Scalar × Data)}
    (h : Data.entriesArePlain entries = true) : anyEntryEndless (ofEntries entries) = false := by
  match entries with
  | [] => rfl
  | (key, d) :: rest =>
    obtain ⟨hfirst, hrest⟩ := Bool.and_eq_true_iff.mp h
    rw [ofEntries, anyEntryEndless, isEndless_ofData (Bool.and_eq_true_iff.mp hfirst).2,
      anyEntryEndless_ofEntries hrest]
    rfl
end

private theorem anyEntryEndless_eq_false {entries : Entries Value}
    (h : ∀ e ∈ entries, e.2.isEndless = false) : anyEntryEndless entries = false := by
  induction entries with
  | nil => rfl
  | cons e rest ih =>
    obtain ⟨hfirst, hrest⟩ := List.forall_mem_cons.mp h
    rw [anyEntryEndless, hfirst, ih hrest]
    rfl

private theorem isPlain_entriesToData {entries : Entries Value}
    (hkeys : ∀ e ∈ entries, (Data.scalar e.1).isPlain = true)
    (h : ∀ e ∈ entries, e.2.toData.isPlain = true) :
    (Data.map (entriesToData entries)).isPlain = true := by
  rw [Data.isPlain_map, entriesToData_eq_map]
  intro e he
  obtain ⟨entry, hentry, rfl⟩ := List.mem_map.mp he
  exact ⟨hkeys entry hentry, h entry hentry⟩

/-- What is assembled from plain data is rendered to its end, as plain data. -/
theorem Assembled.isPlain_toData {v : Value} (h : v.Assembled fun d => d.isPlain = true) :
    v.isEndless = false ∧ v.toData.isPlain = true := by
  induction h with
  | data hgood => exact ⟨isEndless_ofData hgood, by rw [toData_ofData]; exact hgood⟩
  | type storage => exact ⟨rfl, rfl⟩
  | validator name => exact ⟨rfl, rfl⟩
  | @array item hitem ih =>
    refine ⟨by rw [isEndless, anyEndless, ih.1]; rfl, ?_⟩
    cases item with
    | type storage => rfl
    | _ => exact Data.isPlain_list.mpr (List.forall_mem_singleton.mpr ih.2)
  | map hkeys hentries ih =>
    exact ⟨anyEntryEndless_eq_false fun e he => (ih e he).1,
      isPlain_entriesToData hkeys fun e he => (ih e he).2⟩
  | embedded hkeys hfields ih =>
    exact ⟨anyEntryEndless_eq_false fun e he => (ih e he).1,
      isPlain_entriesToData hkeys fun e he => (ih e he).2⟩

/-! ### What is assembled, place by place -/

theorem Assembled.part? {good : Data → Prop} (h : Data.Hereditary good) {v : Value}
    (hv : v.Assembled good) {n : Nat} {part : Value} (hpart : v.part? n = some part) :
    part.Assembled good := by
  have hentries : ∀ entries : Entries Value, AreAssembled good entries →
      entries[n]?.map Prod.snd = some part → part.Assembled good := by
    intro entries hall hget
    obtain ⟨e, he, rfl⟩ := Option.map_eq_some_iff.mp hget
    exact (hall e (List.mem_of_getElem? he)).2
  cases hv with
  | @data d hgood =>
    cases d with
    | list items =>
      rw [ofData, part?_list (ofItems_ne items), ofItems_eq_map, List.getElem?_map] at hpart
      obtain ⟨item, hitem, rfl⟩ := Option.map_eq_some_iff.mp hpart
      exact .data (h.list.mp hgood item (List.mem_of_getElem? hitem))
    | map entries => exact hentries _ (areAssembled_ofEntries h hgood) hpart
    | pair first second origin =>
      cases hpart
      have hparts := h.items hgood rfl
      refine .data ?_
      split
      · exact hparts first List.mem_cons_self
      · exact hparts second (List.mem_cons_of_mem _ List.mem_cons_self)
    | _ => cases hpart
  | type storage => cases hpart
  | validator name => cases hpart
  | @array item hitem =>
    by_cases htype : ∃ storage, item = .type storage
    · obtain ⟨storage, rfl⟩ := htype
      cases hpart
    · have hne : ∀ storage rest, [item] ≠ .type storage :: rest := by
        rintro storage rest ⟨⟩
        exact htype ⟨storage, rfl⟩
      rw [part?_list hne] at hpart
      rw [List.mem_singleton.mp (List.mem_of_getElem? hpart)]
      exact hitem
  | map hkeys hall => exact hentries _ (fun e he => ⟨hkeys e he, hall e he⟩) hpart
  | embedded hkeys hall => exact hentries _ (fun e he => ⟨hkeys e he, hall e he⟩) hpart

theorem Assembled.at? {good : Data → Prop} (h : Data.Hereditary good) {place : Place} :
    ∀ {v w : Value}, v.Assembled good → v.at? place = some w → w.Assembled good := by
  induction place with
  | nil =>
    intro v w hv hw
    cases hw
    exact hv
  | cons n rest ih =>
    intro v w hv hw
    obtain ⟨part, hpart, hw⟩ := Option.bind_eq_some_iff.mp hw
    exact ih (hv.part? h hpart) hw

theorem Assembled.eq_nil_of_type {good : Data → Prop} {storage : StorageType} {rest : List Value}
    (h : (Value.list (.type storage :: rest)).Assembled good) : rest = [] := by
  generalize hv : Value.list (.type storage :: rest) = v at h
  cases h with
  | @data d hgood =>
    cases d with
    | list items => exact absurd (Value.list.inj hv).symm (ofItems_ne items storage rest)
    | _ => cases hv
  | array hitem => exact (List.cons.inj (Value.list.inj hv)).2
  | _ => cases hv

/-- Data says what a value holds: it has the same places, the mappings among them with the same keys
in the same order, and at its place each validator by its name, data as it is, and each type by its
name exactly if it is of one list at most. An array of a scalar type is that and nothing more. -/
structure IsRendered (v : Value) (d : Data) : Prop where
  places : ∀ place, (d.at? place).isSome = (v.at? place).isSome
  keys : ∀ place, (d.at? place).bind Data.keys? = (v.at? place).bind keys?
  types : ∀ place (type : FieldType), v.at? place = some type.toValue →
    (d.at? place = some (.text type.toValue.typeName) ↔ type.layers ≤ 1)
  arrays : ∀ place storage rest, v.at? place = some (.list (.type storage :: rest)) → rest = []
  validators : ∀ place name, v.at? place = some (.validator name) →
    d.at? place = some (.text name)
  data : ∀ place own, v.at? place = some (ofData own) → d.at? place = some own

theorem Assembled.isRendered {good : Data → Prop} (h : Data.Hereditary good) {v : Value}
    (hv : v.Assembled good) : v.IsRendered v.toData := by
  have hat : ∀ place w, v.at? place = some w → v.toData.at? place = some w.toData := by
    intro place w hw
    rw [at?_toData, hw]
    rfl
  refine ⟨fun place => ?_, fun place => ?_, fun place type htype => ?_,
    fun place storage rest hlist => (hv.at? h hlist).eq_nil_of_type, fun place name => hat place _,
    fun place own hown => ?_⟩
  · rw [at?_toData, Option.isSome_map]
  · rw [at?_toData]
    cases v.at? place with
    | none => rfl
    | some w => exact keys?_toData w
  · rw [hat place _ htype, Option.some.injEq, FieldType.typeName_toValue]
    exact type.toData_toValue_eq_name_iff
  · rw [hat place _ hown, toData_ofData]

end Value

namespace Session

variable {session : Session} {source extra : Source} {compiled : List Compiled}

/-- Whatever a document compiles to is rendered faithfully, place by place; the rendering is
rendered as itself; and where the document and the blocks that are added to it are plain data, the
rendering comes to an end and is plain data. -/
theorem isRendered_compileDefinitions
    (h : (session.compileDefinitions source extra).outcome = .ok compiled) :
    ∀ c ∈ compiled, c.properties.IsRendered c.properties.toData ∧
      (Value.ofData c.properties.toData).toData = c.properties.toData ∧
      ∀ document blocks, Document.decode source = .ok document → source.sharing = none →
        Document.decodeExtra extra = .ok blocks → (Data.map document).isPlain = true →
        blocks.isPlain = true →
        c.properties.isEndless = false ∧ c.properties.toData.isPlain = true := by
  obtain ⟨ctx, hctx, hall⟩ := exists_contextOf h
  intro c hc
  have hassembled := assembled_compileDefinitions h c hc
  refine ⟨hassembled.isRendered Data.hereditary_true, Value.toData_ofData _, ?_⟩
  intro document blocks hdecode hsharing hblocks hdocument hextra
  have hbuilds := (contextOf_eq_ok_iff_buildsWith hdecode hsharing hblocks).mp hctx
  have hreads := hbuilds.holds Data.hereditary_isPlain hdocument hextra
  exact (Context.assembled_compileAll Data.hereditary_isPlain hreads hall c hc).isPlain_toData

end Session

section Grid

def gridDocument (cells : Entries Data) : Entries Data :=
  [(.text "definitions", .map [(.text "Grid", .map [(.text "properties",
    .map [(.text "cells", .map cells)])])])]

def rowOf (items : Entries Data) : Entries Data :=
  [(.text "type", .text "array"), (.text "items", .map items)]

def word : Entries Data :=
  [(.text "type", .text "string")]

/-- What the grid compiles to if its cells are of a type. -/
def grid (type : FieldType) : Compiled where
  name := .text "Grid"
  properties := .embedded [(.text "cells", .map [(.text "type", type.toValue)])]
  options := []
  index := none

private theorem compileDefinitions_grid {items : Entries Data} {type : FieldType}
    (hform : Form.ofEntries "_mongoose" (rowOf items) = .array)
    (htype : FieldType.ofEntries (rowOf items) = .ok type) :
    (({} : Session).compileDefinitions
      (.data (.map (gridDocument (rowOf items)))) .absent).outcome = .ok [grid type] := by
  let node : Entries Data := [(.text "properties", .map [(.text "cells", .map (rowOf items))])]
  let ctx : Context := { definitions := [(.text "Grid", .map node)] }
  have hctx : ({} : Session).contextOf (.data (.map (gridDocument (rowOf items)))) .absent =
      .ok ctx := rfl
  have hkey : ctx.extensionKey = "_mongoose" := rfl
  have hname : ctx.isReserved (.text "cells") = false := rfl
  have hcells : Shape.ofProperty "_mongoose" (.map (rowOf items)) = .typed (.ok type) none := by
    rw [Shape.ofProperty_of_typed (Or.inl hform), htype]
    rfl
  have hfields : ctx.fieldsMeaning [] (.text "Grid") = .ok (grid type).properties := by
    have hnode : ctx.normalForm (.text "Grid") = .ok (.map node) := rfl
    rw [Context.fieldsMeaning_map hnode, hkey, @Shape.ofNode_of_properties _ node _ rfl,
      Shape.members_all]
    simp only [List.map_cons, List.map_nil, List.nil_append, hcells, Context.compileNode,
      Context.compileMembers, Context.compileShape, hname, Bool.false_eq_true, if_false]
    rfl
  rw [Session.outcome_compileDefinitions hctx]
  exact Context.compileAll_of_fields ctx rfl (.cons hfields .nil)

private theorem type_row : FieldType.ofEntries (rowOf word) = .ok (.listOf (.scalar .text)) := by
  rw [@FieldType.ofEntries_of_array (rowOf word) word rfl rfl]
  rw [FieldType.ofEntries]
  rfl

private theorem type_rows :
    FieldType.ofEntries (rowOf (rowOf word)) = .ok (.listOf (.listOf (.scalar .text))) := by
  rw [@FieldType.ofEntries_of_array (rowOf (rowOf word)) (rowOf word) rfl rfl, type_row]
  rfl

/-- Of a row of words the type is rendered by its name. -/
theorem grid_rendered :
    (({} : Session).compileDefinitions (.data (.map (gridDocument (rowOf word)))) .absent).outcome =
        .ok [grid (.listOf (.scalar .text))] ∧
      (grid (.listOf (.scalar .text))).properties.toData.at? [0, 0] = some (.text "[str]") ∧
      (grid (.listOf (.scalar .text))).properties.isEndless = false := by
  have hcompiled := @compileDefinitions_grid word _ rfl type_row
  obtain ⟨hrendered, -, hplain⟩ :=
    Session.isRendered_compileDefinitions hcompiled _ (List.mem_singleton.mpr rfl)
  refine ⟨hcompiled, ?_, (hplain _ _ rfl rfl rfl rfl rfl).1⟩
  exact (hrendered.types [0, 0] (.listOf (.scalar .text)) rfl).mpr (Nat.le_refl 1)

/-- Of rows of words it is not: of its two lists one stays a list. -/
theorem grid_not_rendered :
    ∃ c, (({} : Session).compileDefinitions (.data (.map (gridDocument (rowOf (rowOf word)))))
        .absent).outcome = .ok [c] ∧
      ∃ type : FieldType, FieldType.ofEntries (rowOf (rowOf word)) = .ok type ∧
        c.properties.at? [0, 0] = some type.toValue ∧ type.toValue.typeName = "[[str]]" ∧
        c.properties.toData.at? [0, 0] = some (.list [.text "[str]"]) :=
  ⟨_, compileDefinitions_grid rfl type_rows, _, type_rows, rfl, by decide, rfl⟩

end Grid

end StoreSchema
