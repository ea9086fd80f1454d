import StoreSchema.Proofs.Spelling
import StoreSchema.Proofs.Stripped

set_option autoImplicit false

namespace StoreSchema

inductive Part where
  /-- A definition, a property or the items of one. -/
  | node
  /-- Properties under their names. -/
  | fields
  /-- A list of fragments. -/
  | fragments
  | fragment
  | unread

namespace Shape

/-- The node has neither properties nor a type: its fields are listed directly, unless there is a
reference or a composition. -/
def listsFields (entries : Entries Data) : Bool :=
  (Entries.value entries "properties").isNull && (Entries.value entries "type").isNull

/-- The names under which a node holds no field that it lists directly. -/
def wordsOfNoFields : List String :=
  keywords ++ wordsOfNodes

end Shape

namespace Part

/-- What stands under a name in a node; a field if the node lists its fields directly. -/
def inNode (key other : String) (direct : Bool) (name : Scalar) : Part :=
  if name.same (.text "properties") then .fields
  else if name.same (.text "items") then .node
  else if name.same (.text "allOf") then .fragments
  else if direct &&
      !(key :: other :: Shape.wordsOfNoFields).any fun word => name.same (.text word) then .node
  else .unread

def inFragment (name : Scalar) : Part :=
  if name.same (.text "properties") then .fields else .unread

end Part

namespace Data

mutual
/-- A part of a definition without what nodes in it hold under `other`. -/
def cleared (key other : String) : Part → Data → Data
  | .node, .map entries =>
    .map (Entries.erase
      (clearedEntries key other (Part.inNode key other (Shape.listsFields entries)) entries)
      (.text other))
  | .fields, .map fields => .map (clearedEntries key other (fun _ => .node) fields)
  | .fragments, .list fragments => .list (clearedItems key other fragments)
  | .fragment, .map entries => .map (clearedEntries key other Part.inFragment entries)
  | _, d => d

def clearedEntries (key other : String) (under : Scalar → Part) :
    List (Scalar × Data) → List (Scalar × Data)
  | [] => []
  | (name, d) :: rest =>
    (name, cleared key other (under name) d) :: clearedEntries key other under rest

def clearedItems (key other : String) : List Data → List Data
  | [] => []
  | d :: rest => cleared key other .fragment d :: clearedItems key other rest
end

mutual
/-- What the nodes in a part of a definition hold under `other` is not heeded: a node that an
extension block is laid on holds nothing there, and no node that lists its fields directly holds a
mapping there. -/
def Unheeded (key other : String) : Part → Data → Prop
  | .node, .map entries =>
    if (Entries.value entries key).isTruthy then
      cleared key other .node (.map entries) = .map entries
    else
      (Form.ofEntries key entries matches .embedded → Shape.listsFields entries = true →
        (Entries.value entries other).isMap = false) ∧
      UnheededEntries key other (Part.inNode key other (Shape.listsFields entries)) entries
  | .fields, .map fields => UnheededEntries key other (fun _ => .node) fields
  | .fragments, .list fragments => UnheededItems key other fragments
  | .fragment, .map entries => UnheededEntries key other Part.inFragment entries
  | _, _ => True

def UnheededEntries (key other : String) (under : Scalar → Part) :
    List (Scalar × Data) → Prop
  | [] => True
  | (name, d) :: rest =>
    Unheeded key other (under name) d ∧ UnheededEntries key other under rest

def UnheededItems (key other : String) : List Data → Prop
  | [] => True
  | d :: rest => Unheeded key other .fragment d ∧ UnheededItems key other rest
end

end Data

/-- Two extension keys of which neither is a keyword. -/
structure ExtensionKeys (key other : String) : Prop where
  active : key ∉ Shape.wordsOfLists
  inactive : other ∉ Shape.wordsOfLists
  ne : other ≠ key

variable {key other : String}

namespace Data

theorem cleared_unread (d : Data) : d.cleared key other .unread = d := by
  cases d <;> simp only [cleared]

theorem keys_clearedEntries (under : Scalar → Part) (entries : Entries Data) :
    Entries.keys (clearedEntries key other under entries) = Entries.keys entries := by
  induction entries with
  | nil => rfl
  | cons e rest ih =>
    obtain ⟨name, d⟩ := e
    simp only [clearedEntries, Entries.keys_cons, ih]

theorem get?_clearedEntries (under : Scalar → Part) (entries : Entries Data) (word : String) :
    Entries.get? (clearedEntries key other under entries) (.text word) =
      (Entries.get? entries (.text word)).map (cleared key other (under (.text word))) := by
  induction entries with
  | nil => rfl
  | cons e rest ih =>
    obtain ⟨name, d⟩ := e
    simp only [clearedEntries, Entries.get?_cons, ih]
    split
    · next hname =>
      rw [Scalar.same_text.mp hname]
      rfl
    · rfl

theorem value_clearedEntries {under : Scalar → Part} {word : String}
    (hword : under (.text word) = .unread) (entries : Entries Data) :
    Entries.value (clearedEntries key other under entries) word = Entries.value entries word := by
  have hcleared : (cleared key other .unread : Data → Data) = id := funext cleared_unread
  rw [Entries.value, get?_clearedEntries, hword, hcleared, Option.map_id_fun, id, Entries.value]

abbrev clearedInside (key other : String) (entries : Entries Data) : Entries Data :=
  clearedEntries key other (Part.inNode key other (Shape.listsFields entries)) entries

end Data

theorem Part.inNode_unread {direct : Bool} {word : String}
    (hword : word ∉ ["properties", "items", "allOf"])
    (h : direct = false ∨ word ∈ key :: other :: Shape.wordsOfNoFields) :
    Part.inNode key other direct (.text word) = .unread := by
  have hread : ∀ read ∈ ["properties", "items", "allOf"],
      (Scalar.text word).same (.text read) = false := by
    intro read hmem
    refine Scalar.same_text_of_ne ?_
    rintro rfl
    exact hword hmem
  have hapart : (direct && !(key :: other :: Shape.wordsOfNoFields).any
      fun listed => (Scalar.text word).same (.text listed)) = false := by
    rcases h with hdirect | hmem
    · rw [hdirect, Bool.false_and]
    · rw [List.any_eq_true.mpr ⟨word, hmem, Scalar.same_refl _⟩, Bool.not_true, Bool.and_false]
  simp only [Part.inNode, hread "properties" (by decide), hread "items" (by decide),
    hread "allOf" (by decide), hapart, Bool.false_eq_true, if_false]

section Erase

variable {es : Entries Data} (hkeys : ExtensionKeys key other)

include hkeys

theorem ExtensionKeys.ne_of_listed {word : String} (hword : word ∈ Shape.wordsOfLists) :
    other ≠ word :=
  fun h => hkeys.inactive (h ▸ hword)

theorem ExtensionKeys.not_mem_nodeKeywords : other ∉ Shape.nodeKeywords :=
  have hwords : Shape.nodeKeywords ⊆ Shape.wordsOfLists := by decide
  fun h => hkeys.inactive (hwords h)

private theorem Form.ofEntries_erase_other (hown : Data.Unblocked key es) :
    Form.ofEntries key (Entries.erase es (.text other)) = Form.ofEntries key es := by
  have hvalue := fun {word} (hword : word ∈ Shape.wordsOfLists) =>
    Entries.value_erase_word (hkeys.ne_of_listed hword) es
  have hblock : Entries.value (Entries.erase es (.text other)) key = Entries.value es key :=
    Entries.value_erase_word hkeys.ne es
  unfold Data.Unblocked at hown
  simp only [Form.ofEntries, Form.referenceOf, hblock, hown, Bool.false_eq_true, if_false,
    hvalue (by decide : "items" ∈ Shape.wordsOfLists),
    hvalue (by decide : "type" ∈ Shape.wordsOfLists),
    hvalue (by decide : "$ref" ∈ Shape.wordsOfLists),
    hvalue (by decide : "allOf" ∈ Shape.wordsOfLists)]
  rfl

omit hkeys in
private theorem Shape.members_erase_other (h : ∀ e ∈ es, e.1 = .text other → e.2.isMap = false) :
    Shape.members key true (Entries.erase es (.text other)) = Shape.members key true es := by
  induction es with
  | nil => rfl
  | cons e rest ih =>
    obtain ⟨name, d⟩ := e
    obtain ⟨hfirst, hrest⟩ := List.forall_mem_cons.mp h
    have ih := ih hrest
    unfold Entries.erase at ih ⊢
    rw [List.filter_cons]
    cases hname : name.same (.text other) with
    | true =>
      have hmap : d.isMap = false := hfirst (Scalar.same_text.mp hname)
      simp [Shape.members, Shape.isDirectField, hmap, ih]
    | false => simp [Shape.members, ih]

theorem Shape.ofNode_erase_other (hdistinct : Entries.DistinctKeys es)
    (h : Shape.listsFields es = true → (Entries.value es other).isMap = false) :
    Shape.ofNode key (Entries.erase es (.text other)) = Shape.ofNode key es := by
  have hvalue := fun {word} (hword : word ∈ Shape.wordsOfLists) =>
    Entries.value_erase_word (hkeys.ne_of_listed hword) es
  rw [Shape.ofNode_eq, Shape.ofNode_eq key es,
    FieldType.ofEntries_erase hkeys.not_mem_nodeKeywords,
    hvalue (by decide : "properties" ∈ Shape.wordsOfLists),
    hvalue (by decide : "type" ∈ Shape.wordsOfLists),
    hvalue (by decide : "required" ∈ Shape.wordsOfLists)]
  split
  · rfl
  · next hproperties =>
    split
    · next htype =>
      have hmap : (Entries.value es other).isMap = false := by
        refine h ?_
        rw [Shape.listsFields, hproperties, htype]
        rfl
      rw [Shape.members_erase_other]
      rintro ⟨name, d⟩ he rfl
      rw [Entries.value, Entries.get?_of_mem hdistinct he] at hmap
      exact hmap
    · rfl
  · rfl
  · rfl

/-- A property without a block of its own has the same shape without what it holds under a name, if
it does not list that as a field. -/
theorem Shape.ofProperty_erase_other 
    (hdistinct : Entries.DistinctKeys es) (hown : Data.Unblocked key es)
    (h : Form.ofEntries key es matches .embedded → Shape.listsFields es = true →
      (Entries.value es other).isMap = false) :
    Shape.ofProperty key (.map (Entries.erase es (.text other))) =
      Shape.ofProperty key (.map es) := by
  have hdefault := Entries.get?_erase_word
    (hkeys.ne_of_listed (by decide : "default" ∈ Shape.wordsOfLists)) es
  have hchoices : Shape.choicesOf (Entries.erase es (.text other)) = Shape.choicesOf es := by
    rw [Shape.choicesOf, Entries.value_erase_word
      (hkeys.ne_of_listed (by decide : "enum" ∈ Shape.wordsOfLists)) es]
    rfl
  have hform : ∀ form, Shape.ofForm (Entries.erase es (.text other)) form =
      Shape.ofForm es form := by
    intro form
    cases form <;> simp only [Shape.ofForm, hchoices,
      FieldType.ofEntries_erase hkeys.not_mem_nodeKeywords]
  rw [Shape.ofProperty_map, Shape.ofProperty_map, Form.ofEntries_erase_other hkeys hown,
    Shape.withDefaultOf, Shape.withDefaultOf, hdefault]
  cases hshape : Form.ofEntries key es with
  | embedded =>
    rw [hshape] at h
    dsimp only
    rw [Shape.ofNode_erase_other hkeys hdistinct (h rfl)]
  | _ => simp only [hform]

private theorem PropertyLike.erase_other {es' : Entries Data} (h : PropertyLike key es' es)
    (hdistinct : Entries.DistinctKeys es)
    (hlisted : Form.ofEntries key es matches .embedded → Shape.listsFields es = true →
      (Entries.value es other).isMap = false) :
    PropertyLike key es' (Entries.erase es (.text other)) where
  shape := by
    rw [Shape.ofProperty_erase_other hkeys hdistinct h.unblocked' hlisted]
    exact h.shape
  type := h.type.trans (FieldType.ofEntries_erase hkeys.not_mem_nodeKeywords es).symm
  reference := by
    rw [Entries.value_erase_word
      (hkeys.ne_of_listed (by decide : "$ref" ∈ Shape.wordsOfLists)) es]
    exact h.reference
  unblocked := h.unblocked
  unblocked' := by
    unfold Data.Unblocked
    rw [Entries.value_erase_word hkeys.ne es]
    exact h.unblocked'

end Erase

section Cleared

open Data (cleared clearedEntries clearedInside clearedItems Unheeded UnheededEntries UnheededItems
  ThroughoutEntries ThroughoutItems)
open Entries (DistinctKeys)

private theorem distinctKeys_clearedEntries {under : Scalar → Part} {entries : Entries Data}
    (h : DistinctKeys entries) : DistinctKeys (clearedEntries key other under entries) := by
  unfold DistinctKeys
  rw [Data.keys_clearedEntries]
  exact h

private theorem isNull_iff {d : Data} : d.isNull = true ↔ d = .null := by
  constructor
  · intro h
    cases d with
    | scalar s => cases s <;> first | rfl | cases h
    | _ => cases h
  · rintro rfl
    rfl

private theorem nodeLike_of_entries {entries : Entries Data} (hdistinct : DistinctKeys entries)
    (hentries : List.Forall₂ (EntryLike key) entries (clearedInside key other entries)) :
    NodeLike key entries (clearedInside key other entries) where
  distinct := hdistinct
  entries := hentries
  format := by
    cases htype : (Entries.value entries "type").isNull with
    | true => exact Or.inl (isNull_iff.mp htype)
    | false =>
      have hlisted : Shape.listsFields entries = false := by
        rw [Shape.listsFields, htype, Bool.and_false]
      exact Or.inr (Data.value_clearedEntries
        (Part.inNode_unread (by decide) (Or.inl hlisted)) entries).symm

theorem NodeLike.listsFields_eq {es es' : Entries Data} (h : NodeLike key es es') :
    Shape.listsFields es = Shape.listsFields es' := by
  have hproperties : (Entries.value es "properties").isNull =
      (Entries.value es' "properties").isNull := by
    unfold Entries.value
    rcases h.properties_eq_or with heq | ⟨_, _, _, hd, hd'⟩
    · rw [heq]
    · rw [hd, hd']
      rfl
  rw [Shape.listsFields, Shape.listsFields, hproperties, h.value_type]

/-- What a node holds under either key is not looked into. -/
theorem value_clearedInside (hkeys : ExtensionKeys key other) {word : String}
    (hword : word = key ∨ word = other) (entries : Entries Data) :
    Entries.value (clearedInside key other entries) word = Entries.value entries word := by
  have hread : ["properties", "items", "allOf"] ⊆ Shape.wordsOfLists := by decide
  refine Data.value_clearedEntries (Part.inNode_unread ?_ (Or.inr ?_)) entries
  · rcases hword with rfl | rfl
    · exact fun hmem => hkeys.active (hread hmem)
    · exact fun hmem => hkeys.inactive (hread hmem)
  · rcases hword with rfl | rfl
    · exact List.mem_cons_self
    · exact List.mem_cons_of_mem _ List.mem_cons_self

private theorem propertyLike_of_entries (hkeys : ExtensionKeys key other) {entries : Entries Data}
    (hdistinct : DistinctKeys entries) (hown : Data.Unblocked key entries)
    (hlisted : Form.ofEntries key entries matches .embedded → Shape.listsFields entries = true →
      (Entries.value entries other).isMap = false)
    (hentries : List.Forall₂ (EntryLike key) entries (clearedInside key other entries)) :
    PropertyLike key entries
      (Entries.erase (clearedInside key other entries) (.text other)) := by
  have hnode := nodeLike_of_entries hdistinct hentries
  have hown' : Data.Unblocked key (clearedInside key other entries) := by
    unfold Data.Unblocked
    rw [value_clearedInside hkeys (Or.inl rfl)]
    exact hown
  refine (hnode.propertyLike hown hown').erase_other hkeys
    (distinctKeys_clearedEntries hdistinct) ?_
  rw [← hnode.form_eq hown hown', ← hnode.listsFields_eq, value_clearedInside hkeys (Or.inr rfl)]
  exact hlisted

private theorem fragmentLike_of_entries {entries : Entries Data} (hdistinct : DistinctKeys entries)
    (hentries : List.Forall₂ (EntryLike key) entries
      (clearedEntries key other Part.inFragment entries)) :
    FragmentLike key entries (clearedEntries key other Part.inFragment entries) := by
  have hnode : NodeLike key entries (clearedEntries key other Part.inFragment entries) :=
    { distinct := hdistinct
      entries := hentries
      format := Or.inr (Data.value_clearedEntries rfl entries).symm }
  exact hnode.fragmentLike

private theorem EntryLike.of_items {d d' : Data} (h : ValueLike key d d') :
    EntryLike key (.text "items", d) (.text "items", d') := by
  cases h with
  | same d => exact .same _
  | changed h => exact .items h

private theorem EntryLike.of_field {name : Scalar} (hname : ∀ word ∈ Shape.wordsOfNodes,
    name ≠ .text word) {d d' : Data} (h : ValueLike key d d') :
    EntryLike key (name, d) (name, d') := by
  cases h with
  | same d => exact .same _
  | changed h => exact .field hname h

private theorem ne_of_listed_directly {name : Scalar}
    (h : (!(key :: other :: Shape.wordsOfNoFields).any fun word => name.same (.text word)) = true) :
    ∀ word ∈ Shape.wordsOfNodes, name ≠ .text word := by
  rintro word hword rfl
  have hmem : word ∈ key :: other :: Shape.wordsOfNoFields :=
    List.mem_cons_of_mem _ (List.mem_cons_of_mem _ (List.mem_append_right _ hword))
  rw [List.any_eq_true.mpr ⟨word, hmem, Scalar.same_refl _⟩] at h
  cases h

mutual
private theorem valueLike_cleared (hkeys : ExtensionKeys key other) (d : Data)
    (hdistinct : d.Throughout DistinctKeys) (h : d.Unheeded key other .node) :
    ValueLike key d (d.cleared key other .node) := by
  match d with
  | .map entries =>
    rw [Unheeded] at h
    split at h
    · rw [h]
      exact .same _
    · next hown =>
      have hentries := nodeEntries_cleared hkeys (Shape.listsFields entries) entries hdistinct.2 h.2
      exact .changed (propertyLike_of_entries hkeys hdistinct.1 (Bool.eq_false_iff.mpr hown) h.1
        hentries)
  | .scalar _ | .list _ | .pair _ _ _ | .set _ _ | .recurrence _ => exact .same _

private theorem fieldsLike_cleared (hkeys : ExtensionKeys key other) (fields : List (Scalar × Data))
    (hdistinct : ThroughoutEntries DistinctKeys fields)
    (h : UnheededEntries key other (fun _ => .node) fields) :
    FieldsLike key fields (clearedEntries key other (fun _ => .node) fields) := by
  match fields with
  | [] => exact .nil
  | (name, d) :: rest =>
    exact .cons ⟨rfl, valueLike_cleared hkeys d hdistinct.1 h.1⟩
      (fieldsLike_cleared hkeys rest hdistinct.2 h.2)

private theorem partsLike_cleared (hkeys : ExtensionKeys key other) (fragments : List Data)
    (hdistinct : ThroughoutItems DistinctKeys fragments)
    (h : UnheededItems key other fragments) :
    List.Forall₂ (PartLike key) fragments (clearedItems key other fragments) := by
  match fragments with
  | [] => exact .nil
  | .map entries :: rest =>
    have hentries := fragmentEntries_cleared hkeys entries hdistinct.1.2 h.1
    exact .cons (.changed (fragmentLike_of_entries hdistinct.1.1 hentries))
      (partsLike_cleared hkeys rest hdistinct.2 h.2)
  | .scalar _ :: rest | .list _ :: rest | .pair _ _ _ :: rest | .set _ _ :: rest
  | .recurrence _ :: rest =>
    exact .cons (.same _) (partsLike_cleared hkeys rest hdistinct.2 h.2)

private theorem fragmentEntries_cleared (hkeys : ExtensionKeys key other)
    (entries : List (Scalar × Data)) (hdistinct : ThroughoutEntries DistinctKeys entries)
    (h : UnheededEntries key other Part.inFragment entries) :
    List.Forall₂ (EntryLike key) entries (clearedEntries key other Part.inFragment entries) := by
  match entries with
  | [] => exact .nil
  | (name, d) :: rest =>
    refine .cons ?_ (fragmentEntries_cleared hkeys rest hdistinct.2 h.2)
    replace h := h.1
    simp only [Part.inFragment] at h ⊢
    split at h
    · next hname =>
      rw [if_pos hname, Scalar.same_text.mp hname]
      match d with
      | .map fields => exact .properties (fieldsLike_cleared hkeys fields hdistinct.1.2 h)
      | .scalar _ | .list _ | .pair _ _ _ | .set _ _ | .recurrence _ => exact .same _
    · next hname =>
      rw [if_neg hname, Data.cleared_unread]
      exact .same _

private theorem nodeEntries_cleared (hkeys : ExtensionKeys key other) (direct : Bool)
    (entries : List (Scalar × Data)) (hdistinct : ThroughoutEntries DistinctKeys entries)
    (h : UnheededEntries key other (Part.inNode key other direct) entries) :
    List.Forall₂ (EntryLike key) entries
      (clearedEntries key other (Part.inNode key other direct) entries) := by
  match entries with
  | [] => exact .nil
  | (name, d) :: rest =>
    refine .cons ?_ (nodeEntries_cleared hkeys direct rest hdistinct.2 h.2)
    replace h := h.1
    simp only [Part.inNode] at h ⊢
    split at h
    · next hname =>
      rw [if_pos hname, Scalar.same_text.mp hname]
      match d with
      | .map fields => exact .properties (fieldsLike_cleared hkeys fields hdistinct.1.2 h)
      | .scalar _ | .list _ | .pair _ _ _ | .set _ _ | .recurrence _ => exact .same _
    · next hname =>
      rw [if_neg hname]
      split at h
      · next hitems =>
        rw [if_pos hitems, Scalar.same_text.mp hitems]
        exact .of_items (valueLike_cleared hkeys d hdistinct.1 h)
      · next hitems =>
        rw [if_neg hitems]
        split at h
        · next hfragments =>
          rw [if_pos hfragments, Scalar.same_text.mp hfragments]
          match d with
          | .list fragments => exact .fragments (partsLike_cleared hkeys fragments hdistinct.1 h)
          | .scalar _ | .map _ | .pair _ _ _ | .set _ _ | .recurrence _ => exact .same _
        · next hfragments =>
          rw [if_neg hfragments]
          split at h
          · next hfield =>
            rw [if_pos hfield]
            exact .of_field (ne_of_listed_directly (Bool.and_eq_true_iff.mp hfield).2)
              (valueLike_cleared hkeys d hdistinct.1 h)
          · next hfield =>
            rw [if_neg hfield, Data.cleared_unread]
            exact .same _
end

theorem nodeLike_cleared (hkeys : ExtensionKeys key other) {entries : Entries Data}
    (hdistinct : (Data.map entries).Throughout DistinctKeys)
    (h : UnheededEntries key other (Part.inNode key other (Shape.listsFields entries)) entries) :
    NodeLike key entries (clearedInside key other entries) :=
  nodeLike_of_entries hdistinct.1 (nodeEntries_cleared hkeys _ entries hdistinct.2 h)

end Cleared

end StoreSchema
