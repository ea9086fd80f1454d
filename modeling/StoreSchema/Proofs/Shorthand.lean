import StoreSchema.Proofs.Spelling

set_option autoImplicit false

namespace StoreSchema

variable {key : String} {es es' : Entries Data}

namespace Shape

def directFields (key : String) (entries : Entries Data) : Entries Data :=
  entries.filter fun e => isDirectField key e.1 e.2

/-- A node with its direct fields under `properties`, beside what it requires. -/
def writtenOut (key : String) (entries : Entries Data) : Entries Data :=
  (.text "properties", .map (directFields key entries)) ::
    entries.filter fun e => e.1.same (.text "required")

/-- A node without type, properties, reference and fragments, without any keyword of schemas and
without an extension block. -/
def IsShorthand (key : String) (entries : Entries Data) : Prop :=
  ∀ word ∈ key :: ["type", "properties", "$ref", "allOf"] ++ keywords,
    Entries.has entries (.text word) = false

instance (key : String) (entries : Entries Data) : Decidable (IsShorthand key entries) :=
  inferInstanceAs (Decidable (∀ word ∈ key :: ["type", "properties", "$ref", "allOf"] ++ keywords,
    Entries.has entries (.text word) = false))

theorem IsShorthand.get? (h : IsShorthand key es) {word : String}
    (hword : word ∈ key :: ["type", "properties", "$ref", "allOf"] ++ keywords) :
    Entries.get? es (.text word) = none := by
  have habsent := h word hword
  unfold Entries.has at habsent
  exact Option.not_isSome_iff_eq_none.mp (Bool.eq_false_iff.mp habsent)

theorem IsShorthand.value (h : IsShorthand key es) {word : String}
    (hword : word ∈ key :: ["type", "properties", "$ref", "allOf"] ++ keywords) :
    Entries.value es word = .null := by
  rw [Entries.value, h.get? hword]
  rfl

theorem IsShorthand.unblocked (h : IsShorthand key es) : Data.Unblocked key es := by
  rw [Data.Unblocked, h.value (by simp)]
  rfl

theorem get?_writtenOut {word : String} (hproperties : word ≠ "properties")
    (hrequired : word ≠ "required") :
    Entries.get? (writtenOut key es) (.text word) = none := by
  rw [writtenOut, Entries.get?_cons, if_neg (by simpa using hproperties.symm)]
  induction es with
  | nil => rfl
  | cons e rest ih =>
    rw [List.filter_cons]
    split
    · next hsame =>
      obtain ⟨k, d⟩ := e
      obtain rfl : k = .text "required" := Scalar.same_text.mp hsame
      rw [Entries.get?_cons, if_neg (by simpa using hrequired.symm)]
      exact ih
    · exact ih

theorem value_writtenOut {word : String} (hproperties : word ≠ "properties")
    (hrequired : word ≠ "required") : Entries.value (writtenOut key es) word = .null := by
  rw [Entries.value, get?_writtenOut hproperties hrequired]
  rfl

theorem value_writtenOut_properties :
    Entries.value (writtenOut key es) "properties" = .map (directFields key es) := by
  rw [Entries.value, writtenOut, Entries.get?_cons, if_pos (Scalar.same_refl _)]
  rfl

theorem value_writtenOut_required :
    Entries.value (writtenOut key es) "required" = Entries.value es "required" := by
  have hkept : ∀ k : Scalar, k.same (.text "required") = true →
      k.same (.text "required") = true := fun _ h => h
  rw [Entries.value, writtenOut, Entries.get?_cons, if_neg (by simp), Entries.get?_filter hkept]
  rfl

theorem IsShorthand.isComposed_eq (h : IsShorthand key es) :
    Composition.isComposed (.map es) = false := by
  have hnull : Entries.value es "allOf" = .null := h.value (by simp)
  simp only [Composition.isComposed, Data.value, hnull]
  rfl

theorem isComposed_writtenOut : Composition.isComposed (.map (writtenOut key es)) = false := by
  have hnull : Entries.value (writtenOut key es) "allOf" = .null :=
    value_writtenOut (by decide) (by decide)
  simp only [Composition.isComposed, Data.value, hnull]
  rfl

theorem members_directFields (key : String) (entries : Entries Data) :
    members key false (directFields key entries) = members key true entries := by
  induction entries with
  | nil => simp only [directFields, List.filter_nil, members]
  | cons e rest ih =>
    obtain ⟨name, d⟩ := e
    rw [directFields, List.filter_cons]
    split
    · next hdirect =>
      simp only [members, Bool.false_eq_true, if_false, hdirect, Bool.not_true,
        Bool.and_false, ← ih]
      rfl
    · next hdirect =>
      simp only [members, hdirect, Bool.not_false, Bool.and_self, if_true]
      exact ih

theorem members_of_directFields {name : Scalar} {property : Data} {shape : Shape}
    (h : directFields key es = [(name, property)]) (hshape : ofProperty key property = shape) :
    members key true es = [(name, shape)] := by
  rw [← members_directFields, h, members_all, List.map_cons, List.map_nil, hshape]

theorem IsShorthand.ofNode_eq (h : IsShorthand key es) :
    ofNode key es = .fields (Entries.value es "required") (members key true es) :=
  ofNode_of_direct key (h.value (by simp)) (h.value (by simp))

theorem ofNode_writtenOut (h : IsShorthand key es) :
    ofNode key (writtenOut key es) = ofNode key es := by
  rw [ofNode_of_properties key value_writtenOut_properties, value_writtenOut_required,
    members_directFields, h.ofNode_eq]

private theorem ofProperty_of_embedded {entries : Entries Data}
    (hown : Data.Unblocked key entries)
    (habsent : ∀ word ∈ ["type", "$ref", "allOf", "items"], Entries.value entries word = .null)
    (hdefault : Entries.get? entries (.text "default") = none) :
    ofProperty key (.map entries) = ofNode key entries := by
  have htype := habsent "type" (by simp)
  have hreference := habsent "$ref" (by simp)
  have hfragments := habsent "allOf" (by simp)
  have hitems := habsent "items" (by simp)
  unfold Data.Unblocked at hown
  have hform : Form.ofEntries key entries = .embedded := by
    simp only [Form.ofEntries, Form.referenceOf, hown, htype, hreference, hfragments, hitems]
    rfl
  rw [ofProperty_map, hform, withDefaultOf, hdefault]

theorem IsShorthand.ofProperty_eq (h : IsShorthand key es) :
    ofProperty key (.map es) = ofNode key es := by
  have hwords : ∀ word ∈ ["type", "$ref", "allOf", "items"],
      word ∈ ["type", "properties", "$ref", "allOf"] ++ keywords := by decide
  refine ofProperty_of_embedded h.unblocked (fun word hword => h.value ?_)
    (h.get? (by simp [keywords]))
  exact List.mem_cons_of_mem _ (hwords word hword)

private theorem ofProperty_writtenOut (hown : Data.Unblocked key (writtenOut key es)) :
    ofProperty key (.map (writtenOut key es)) = ofNode key (writtenOut key es) := by
  refine ofProperty_of_embedded hown (fun word hword => value_writtenOut ?_ ?_)
    (get?_writtenOut (by decide) (by decide))
  · rintro rfl
    simp at hword
  · rintro rfl
    simp at hword

private theorem fieldType_of_untyped {entries : Entries Data}
    (htype : Entries.value entries "type" = .null) :
    FieldType.ofEntries entries = .error (.unknownType .null) := by
  rw [FieldType.ofEntries_eq, htype]

/-- A node in shorthand compiles to the same as when it is written out. -/
theorem IsShorthand.propertyLike (h : IsShorthand key es)
    (hown' : Data.Unblocked key (writtenOut key es)) :
    PropertyLike key es (writtenOut key es) where
  shape := by
    rw [h.ofProperty_eq, ofProperty_writtenOut hown', ofNode_writtenOut h]
    exact .refl _
  type := by
    rw [fieldType_of_untyped (h.value (by simp)),
      fieldType_of_untyped (value_writtenOut (by decide) (by decide))]
  reference := by
    rw [h.value (by simp), value_writtenOut (by decide) (by decide)]
  unblocked := h.unblocked
  unblocked' := hown'

theorem IsShorthand.fragmentLike (h : IsShorthand key es) (hbare : directFields key es = []) :
    FragmentLike key es (writtenOut key es) where
  reference := by
    rw [h.get? (by simp), get?_writtenOut (by decide) (by decide)]
  properties := by
    unfold Composition.Gathered.propertiesOf
    rw [h.value (by simp), value_writtenOut_properties, hbare]
    exact .value .nil
  required := by
    unfold Composition.Gathered.requiredOf
    rw [value_writtenOut_required]

end Shape

inductive NodeRole where
  | property
  | definition

/-- A node and the same with one inside it written out: under its properties, as its items, in one
of its fragments, in a field that it lists directly or in a list that is not read. As a property it
may be written out itself, and as a fragment if it has no fields. -/
inductive Respelled (key : String) : NodeRole → Entries Data → Entries Data → Prop
  | here {es : Entries Data} (h : Shape.IsShorthand key es) :
      Respelled key .property es (Shape.writtenOut key es)
  | property {role : NodeRole} {name : Scalar} {inner inner' : Entries Data}
      (before after pre post : Entries Data) (h : Respelled key .property inner inner') :
      Respelled key role
        (before ++ (.text "properties", .map (pre ++ (name, .map inner) :: post)) :: after)
        (before ++ (.text "properties", .map (pre ++ (name, .map inner') :: post)) :: after)
  | items {role : NodeRole} {inner inner' : Entries Data} (before after : Entries Data)
      (h : Respelled key .property inner inner') :
      Respelled key role (before ++ (.text "items", .map inner) :: after)
        (before ++ (.text "items", .map inner') :: after)
  | fragment {role : NodeRole} {inner inner' : Entries Data} (before after : Entries Data)
      (pre post : List Data) (h : Respelled key .definition inner inner') :
      Respelled key role
        (before ++ (.text "allOf", .list (pre ++ .map inner :: post)) :: after)
        (before ++ (.text "allOf", .list (pre ++ .map inner' :: post)) :: after)
  | bare {role : NodeRole} {inner : Entries Data} (before after : Entries Data)
      (pre post : List Data) (h : Shape.IsShorthand key inner)
      (hbare : Shape.directFields key inner = []) :
      Respelled key role
        (before ++ (.text "allOf", .list (pre ++ .map inner :: post)) :: after)
        (before ++ (.text "allOf", .list (pre ++ .map (Shape.writtenOut key inner) :: post)) ::
          after)
  | field {role : NodeRole} {name : Scalar} {inner inner' : Entries Data}
      (before after : Entries Data)
      (hname : ∀ word ∈ Shape.wordsOfNodes, name ≠ .text word)
      (hformat : name = .text "format" →
        Entries.value (before ++ (name, .map inner) :: after) "type" = .null)
      (h : Respelled key .property inner inner') :
      Respelled key role (before ++ (name, .map inner) :: after)
        (before ++ (name, .map inner') :: after)
  | unread {role : NodeRole} {name : Scalar} {inner inner' : Entries Data}
      (before after : Entries Data) (pre post : List Data)
      (hname : ∀ word ∈ Shape.wordsOfLists, name ≠ .text word)
      (h : Respelled key .property inner inner') :
      Respelled key role (before ++ (name, .list (pre ++ .map inner :: post)) :: after)
        (before ++ (name, .list (pre ++ .map inner' :: post)) :: after)

section Replaced

variable {α : Type} {R : α → α → Prop}

theorem forall₂_replaced (hrefl : ∀ a, R a a) {a a' : α} (h : R a a') (pre post : List α) :
    List.Forall₂ R (pre ++ a :: post) (pre ++ a' :: post) :=
  List.rel_append (List.forall₂_same.mpr fun b _ => hrefl b)
    (.cons h (List.forall₂_same.mpr fun b _ => hrefl b))

theorem get?_replaced {name other : Scalar} (h : name.same other = false) (d d' : Data)
    (before after : Entries Data) :
    Entries.get? (before ++ (name, d) :: after) other =
      Entries.get? (before ++ (name, d') :: after) other := by
  induction before with
  | nil =>
    rw [List.nil_append, List.nil_append, Entries.get?_cons, Entries.get?_cons, h]
    rfl
  | cons e rest ih =>
    obtain ⟨k, v⟩ := e
    rw [List.cons_append, List.cons_append, Entries.get?_cons, Entries.get?_cons, ih]

end Replaced

private theorem nodeLike_of_entry {name : Scalar} {d d' : Data} {before after : Entries Data}
    (hdistinct : Entries.DistinctKeys (before ++ (name, d) :: after))
    (h : EntryLike key (name, d) (name, d'))
    (hformat : name = .text "format" →
      Entries.value (before ++ (name, d) :: after) "type" = .null) :
    NodeLike key (before ++ (name, d) :: after) (before ++ (name, d') :: after) where
  distinct := hdistinct
  entries := forall₂_replaced (fun e => .same e) h before after
  format := by
    by_cases hname : name = .text "format"
    · exact Or.inl (hformat hname)
    · have hother : name.same (.text "format") = false := by
        rw [Bool.eq_false_iff, Ne, Scalar.same_text]
        exact hname
      unfold Entries.value
      rw [get?_replaced hother d d']
      exact Or.inr rfl

/-- A node inside which another one is written out compiles to the same: as a property at any place
of one, and as a set of fields where it is not written out itself. -/
theorem Respelled.like {role : NodeRole} (h : Respelled key role es es')
    (hdistinct : (Data.map es).Throughout Entries.DistinctKeys)
    (hblocks : (Data.map es).Throughout (Data.Unblocked key))
    (hblocks' : (Data.map es').Throughout (Data.Unblocked key)) :
    (role = .property → PropertyLike key es es') ∧
      (role = .definition → NodeLike key es es') := by
  have hboth : ∀ {role : NodeRole} {es es' : Entries Data}, NodeLike key es es' →
      (Data.map es).Throughout (Data.Unblocked key) →
      (Data.map es').Throughout (Data.Unblocked key) →
      (role = .property → PropertyLike key es es') ∧
        (role = .definition → NodeLike key es es') :=
    fun hnode hblocks hblocks' =>
      ⟨fun _ => hnode.propertyLike hblocks.1 hblocks'.1, fun _ => hnode⟩
  induction h with
  | here h => exact ⟨fun _ => h.propertyLike hblocks'.1, fun hrole => by cases hrole⟩
  | property before after pre post _ ih =>
    have hinner := (ih hdistinct.entry.entry hblocks.entry.entry hblocks'.entry.entry).1 rfl
    exact hboth (nodeLike_of_entry hdistinct.1
      (.properties (forall₂_replaced (fun e => ⟨rfl, .same e.2⟩) ⟨rfl, .changed hinner⟩ pre post))
      (fun hname => by simp at hname)) hblocks hblocks'
  | items before after _ ih =>
    have hinner := (ih hdistinct.entry hblocks.entry hblocks'.entry).1 rfl
    exact hboth (nodeLike_of_entry hdistinct.1 (.items hinner) (fun hname => by simp at hname))
      hblocks hblocks'
  | fragment before after pre post _ ih =>
    have hinner := (ih hdistinct.entry.item hblocks.entry.item hblocks'.entry.item).2 rfl
    exact hboth (nodeLike_of_entry hdistinct.1
      (.fragments (forall₂_replaced .same (.changed hinner.fragmentLike) pre post))
      (fun hname => by simp at hname)) hblocks hblocks'
  | bare before after pre post h hbare =>
    exact hboth (nodeLike_of_entry hdistinct.1
      (.fragments (forall₂_replaced .same (.changed (h.fragmentLike hbare)) pre post))
      (fun hname => by simp at hname)) hblocks hblocks'
  | field before after hname hformat _ ih =>
    have hinner := (ih hdistinct.entry hblocks.entry hblocks'.entry).1 rfl
    exact hboth (nodeLike_of_entry hdistinct.1 (.field hname hinner) hformat) hblocks hblocks'
  | unread before after pre post hname _ _ =>
    exact hboth (nodeLike_of_entry hdistinct.1 (.unread hname _ _)
      fun hformat => absurd hformat (hname "format" (by decide))) hblocks hblocks'

end StoreSchema
