import StoreSchema.Proofs.Respelling
import StoreSchema.Proofs.SameRule

set_option autoImplicit false

namespace StoreSchema

open Value (SameRule SameRules SameRuleIfAny SameFields)

variable {P : Data → Data → Prop} {key : String}

/-- Properties that are the same, or of which the second may stand for the first. -/
inductive PropertyLinked (P : Data → Data → Prop) : Data → Data → Prop
  | same (d : Data) : PropertyLinked P d d
  | changed {d d' : Data} (h : P d d') : PropertyLinked P d d'

abbrev PropertiesLinked (P : Data → Data → Prop) : Entries Data → Entries Data → Prop :=
  List.Forall₂ fun e e' => e.1 = e'.1 ∧ PropertyLinked P e.2 e'.2

theorem PropertiesLinked.refl (properties : Entries Data) :
    PropertiesLinked P properties properties :=
  List.forall₂_same.mpr fun _ _ => ⟨rfl, .same _⟩

/-- Entries that are the same or, where fields that are listed directly count, mappings under a name
of a field of which the second may stand for the first. -/
inductive FieldLinked (P : Data → Data → Prop) (direct : Prop) :
    Scalar × Data → Scalar × Data → Prop
  | same (e : Scalar × Data) : FieldLinked P direct e e
  | changed (hdirect : direct) {name : Scalar}
      (hname : ∀ word ∈ Shape.wordsOfLists, name ≠ .text word) {es es' : Entries Data}
      (h : P (.map es) (.map es')) : FieldLinked P direct (name, .map es) (name, .map es')

/-- Entries of two nodes that are linked as fields or hold linked properties. -/
inductive EntryLinked (P : Data → Data → Prop) (direct : Prop) :
    Scalar × Data → Scalar × Data → Prop
  | field {e e' : Scalar × Data} (h : FieldLinked P direct e e') : EntryLinked P direct e e'
  | properties {properties properties' : Entries Data}
      (h : PropertiesLinked P properties properties') :
      EntryLinked P direct (.text "properties", .map properties)
        (.text "properties", .map properties')

/-- Nodes with linked entries, which are linked as fields in a node without properties. -/
structure NodeLinked (P : Data → Data → Prop) (direct : Prop) (es es' : Entries Data) : Prop where
  entries : List.Forall₂ (EntryLinked P direct) es es'
  fields : (Entries.value es "properties").isMap = false →
    List.Forall₂ (FieldLinked P direct) es es'

/-- Data that are the same, or linked nodes. -/
inductive DataLinked (P : Data → Data → Prop) (direct : Prop) : Data → Data → Prop
  | same (d : Data) : DataLinked P direct d d
  | node {es es' : Entries Data} (h : NodeLinked P direct es es') :
      DataLinked P direct (.map es) (.map es')

variable {direct : Prop} {es es' : Entries Data}

theorem FieldLinked.name_eq {e e' : Scalar × Data} (h : FieldLinked P direct e e') :
    e.1 = e'.1 := by
  cases h <;> rfl

theorem EntryLinked.name_eq {e e' : Scalar × Data} (h : EntryLinked P direct e e') :
    e.1 = e'.1 := by
  cases h with
  | field h => exact h.name_eq
  | properties _ => rfl

private theorem directFields_linked (h : List.Forall₂ (FieldLinked P direct) es es') :
    PropertiesLinked P (Shape.directFields key es) (Shape.directFields key es') := by
  have hlisted : List.Forall₂ (FieldLinked P direct) (Shape.directFields key es)
      (Shape.directFields key es') := by
    refine List.rel_filter (fun e e' hlinked => ?_) h
    cases hlinked with
    | same => rfl
    | changed => rfl
  refine hlisted.imp fun e e' hlinked => ?_
  cases hlinked with
  | same => exact ⟨rfl, .same _⟩
  | changed _ _ h => exact ⟨rfl, .changed h⟩

namespace NodeLinked

theorem refl (es : Entries Data) : NodeLinked P direct es es where
  entries := List.forall₂_same.mpr fun e _ => .field (.same e)
  fields _ := List.forall₂_same.mpr fun e _ => .same e

private theorem get?_cases (h : NodeLinked P direct es es') {word : String}
    (hword : word ∈ Shape.wordsOfLists) :
    Entries.get? es (.text word) = Entries.get? es' (.text word) ∨
      word = "properties" ∧ ∃ properties properties', PropertiesLinked P properties properties' ∧
        Entries.get? es (.text word) = some (.map properties) ∧
        Entries.get? es' (.text word) = some (.map properties') := by
  rcases Entries.get?_of_forall₂ (fun _ _ => EntryLinked.name_eq) h.entries (.text word) with
    ⟨hnone, hnone'⟩ | ⟨k, d, d', hk, hlinked, hd, hd'⟩
  · exact Or.inl (hnone.trans hnone'.symm)
  obtain rfl : k = .text word := Scalar.same_text.mp hk
  rw [hd, hd']
  cases hlinked with
  | properties hlinked => exact Or.inr ⟨rfl, _, _, hlinked, rfl, rfl⟩
  | field hlinked =>
    cases hlinked with
    | same => exact Or.inl rfl
    | changed _ hname _ => exact absurd rfl (hname word hword)

theorem get?_eq (h : NodeLinked P direct es es') {word : String}
    (hword : word ∈ Shape.wordsOfLists.erase "properties") :
    Entries.get? es (.text word) = Entries.get? es' (.text word) := by
  rcases h.get?_cases (List.mem_of_mem_erase hword) with heq | ⟨rfl, -⟩
  · exact heq
  · exact absurd hword (by decide)

theorem value_eq (h : NodeLinked P direct es es') {word : String}
    (hword : word ∈ Shape.wordsOfLists.erase "properties") :
    Entries.value es word = Entries.value es' word := by
  unfold Entries.value
  rw [h.get?_eq hword]

theorem properties_cases (h : NodeLinked P direct es es') :
    Entries.get? es (.text "properties") = Entries.get? es' (.text "properties") ∨
      ∃ properties properties', PropertiesLinked P properties properties' ∧
        Entries.get? es (.text "properties") = some (.map properties) ∧
        Entries.get? es' (.text "properties") = some (.map properties') := by
  rcases @get?_cases _ _ _ _ h "properties" (by decide) with heq | ⟨-, hlinked⟩
  · exact Or.inl heq
  · exact Or.inr hlinked

theorem put (h : NodeLinked P direct es es') {word : String} (hword : word ≠ "properties")
    (d : Data) :
    NodeLinked P direct (Entries.put es (.text word) d) (Entries.put es' (.text word) d) where
  entries := Entries.forall₂_put (fun _ _ => EntryLinked.name_eq) (fun k _ => .field (.same (k, d)))
    (.field (.same _)) h.entries
  fields hnone := by
    rw [Entries.value_put_other hword.symm] at hnone
    exact Entries.forall₂_put (fun _ _ => FieldLinked.name_eq) (fun k _ => .same (k, d)) (.same _)
      (h.fields hnone)

theorem putProperties (h : NodeLinked P direct es es') {properties properties' : Entries Data}
    (hlinked : PropertiesLinked P properties properties') :
    NodeLinked P direct (Entries.put es (.text "properties") (.map properties))
      (Entries.put es' (.text "properties") (.map properties')) where
  entries := by
    refine Entries.forall₂_put (fun _ _ => EntryLinked.name_eq) (fun k hk => ?_)
      (.properties hlinked) h.entries
    obtain rfl : k = .text "properties" := Scalar.same_text.mp hk
    exact .properties hlinked
  fields hnone := by
    rw [Entries.value, Entries.get?_put_same] at hnone
    cases hnone

theorem erase (h : NodeLinked P direct es es') {word : String} (hword : word ≠ "properties") :
    NodeLinked P direct (Entries.erase es (.text word)) (Entries.erase es' (.text word)) where
  entries := Entries.forall₂_erase (fun _ _ => EntryLinked.name_eq) h.entries _
  fields hnone := by
    rw [Entries.value_erase, Scalar.same_text_of_ne hword, if_neg Bool.false_ne_true] at hnone
    exact Entries.forall₂_erase (fun _ _ => FieldLinked.name_eq) (h.fields hnone) _

theorem eq_of_no_properties (h : NodeLinked P direct es es') (hdirect : ¬ direct)
    (hnone : (Entries.value es "properties").isMap = false) : es = es' := by
  refine List.forall₂_eq_eq_eq ▸ (h.fields hnone).imp fun e e' hlinked => ?_
  cases hlinked with
  | same => rfl
  | changed hlisted _ _ => exact absurd hlisted hdirect

theorem isComposed_eq (h : NodeLinked P direct es es') :
    Composition.isComposed (.map es) = Composition.isComposed (.map es') :=
  congrArg Data.isTruthy (h.value_eq (by decide : "allOf" ∈ Shape.wordsOfLists.erase "properties"))

theorem isContainer_eq (h : NodeLinked P direct es es') :
    Context.isContainer es = Context.isContainer es' := by
  have hproperties : Entries.has es (.text "properties") =
      Entries.has es' (.text "properties") := by
    unfold Entries.has
    rcases h.properties_cases with heq | ⟨_, _, -, hes, hes'⟩
    · rw [heq]
    · rw [hes, hes']
      rfl
  have hfragments : Entries.has es (.text "allOf") = Entries.has es' (.text "allOf") := by
    unfold Entries.has
    rw [h.get?_eq (by decide)]
  have htypes : Entries.value es "type" = Entries.value es' "type" := h.value_eq (by decide)
  simp only [Context.isContainer, htypes, hproperties, hfragments]

private theorem fieldType_eq (h : NodeLinked P direct es es') :
    FieldType.ofEntries es = FieldType.ofEntries es' := by
  have htypes : Entries.value es "type" = Entries.value es' "type" := h.value_eq (by decide)
  have hformats : Entries.value es "format" = Entries.value es' "format" := h.value_eq (by decide)
  have hitems : Entries.get? es (.text "items") = Entries.get? es' (.text "items") :=
    h.get?_eq (by decide)
  rw [FieldType.ofEntries_eq, FieldType.ofEntries_eq, htypes, hformats, hitems]

private theorem form_eq (h : NodeLinked P direct es es')
    (hown : (Entries.value es key).isTruthy = false)
    (hown' : (Entries.value es' key).isTruthy = false) :
    Form.ofEntries key es = Form.ofEntries key es' := by
  have htypes : Entries.value es "type" = Entries.value es' "type" := h.value_eq (by decide)
  have hitems : Entries.value es "items" = Entries.value es' "items" := h.value_eq (by decide)
  have hreferences : Entries.value es "$ref" = Entries.value es' "$ref" := h.value_eq (by decide)
  have hfragments : Entries.value es "allOf" = Entries.value es' "allOf" := h.value_eq (by decide)
  simp only [Form.ofEntries, Form.referenceOf, hown, hown', Bool.false_eq_true, if_false, htypes,
    hitems, hreferences, hfragments]
  rfl

private theorem ofForm_eq (h : NodeLinked P direct es es') (form : Form) :
    Shape.ofForm es form = Shape.ofForm es' form := by
  have hchoices : Shape.choicesOf es = Shape.choicesOf es' := by
    unfold Shape.choicesOf
    rw [h.value_eq (by decide)]
  cases form <;> simp only [Shape.ofForm, h.fieldType_eq, hchoices]

private theorem ofNode_cases (h : NodeLinked P direct es es') :
    Shape.ofNode key es = Shape.ofNode key es' ∨
      ∃ fields fields', PropertiesLinked P fields fields' ∧
        Shape.ofNode key es =
          .fields (Entries.value es "required") (Shape.members key false fields) ∧
        Shape.ofNode key es' =
          .fields (Entries.value es "required") (Shape.members key false fields') := by
  have hrequired : Entries.value es "required" = Entries.value es' "required" :=
    h.value_eq (by decide)
  have htypes : Entries.value es "type" = Entries.value es' "type" := h.value_eq (by decide)
  rcases h.properties_cases with heq | ⟨properties, properties', hlinked, hes, hes'⟩
  · have hsame : Entries.value es "properties" = Entries.value es' "properties" := by
      unfold Entries.value
      rw [heq]
    by_cases hlisted : Entries.value es "properties" = .null ∧ Entries.value es "type" = .null
    · obtain ⟨hnone, huntyped⟩ := hlisted
      refine Or.inr ⟨Shape.directFields key es, Shape.directFields key es',
        directFields_linked (h.fields (by rw [hnone]; rfl)), ?_, ?_⟩
      · rw [Shape.ofNode_of_direct key hnone huntyped, Shape.members_directFields]
      · rw [Shape.ofNode_of_direct key (hsame ▸ hnone) (htypes ▸ huntyped), hrequired,
          Shape.members_directFields]
    · left
      rw [Shape.ofNode_eq, Shape.ofNode_eq, ← hsame, ← htypes, ← hrequired, ← h.fieldType_eq]
      split
      · rfl
      · next hnone =>
        split
        · next huntyped => exact absurd ⟨hnone, huntyped⟩ hlisted
        · rfl
      · rfl
      · rfl
  · have hvalue : ∀ {es properties : Entries Data},
        Entries.get? es (.text "properties") = some (.map properties) →
          Entries.value es "properties" = .map properties := by
      intro es properties hes
      rw [Entries.value, hes]
      rfl
    refine Or.inr ⟨properties, properties', hlinked, ?_, ?_⟩
    · rw [Shape.ofNode_of_properties key (hvalue hes)]
    · rw [Shape.ofNode_of_properties key (hvalue hes'), hrequired]

end NodeLinked

namespace Context

variable {ctx : Context} {lookup lookup' : Scalar → Except Fault Data}
  {resolve resolve' : Resolve (Except Fault)} {name : Scalar}

variable (ctx P) in
/-- Properties that may stand for one another compile to values with the same rule for the fields of
an owner. -/
def Suits (resolve resolve' : Resolve (Except Fault)) (owner : Scalar) : Prop :=
  ∀ d d', P d d' → ctx.CompilesAlike resolve resolve' owner (Shape.ofProperty ctx.extensionKey d)
    (Shape.ofProperty ctx.extensionKey d')

variable (hresolve : ctx.ResolvesAlike resolve resolve')

include hresolve

private theorem members_linked {properties properties' : Entries Data}
    (h : PropertiesLinked P properties properties') {owner : Scalar}
    (hsuits : ctx.Suits P resolve resolve' owner) :
    List.Forall₂ (fun e e' => e.1 = e'.1 ∧ ctx.CompilesAlike resolve resolve' owner e.2 e'.2)
      (Shape.members ctx.extensionKey false properties)
      (Shape.members ctx.extensionKey false properties') := by
  rw [Shape.members_all, Shape.members_all, List.forall₂_map_left_iff, List.forall₂_map_right_iff]
  refine h.imp fun e e' hentry => ⟨hentry.1, ?_⟩
  obtain ⟨name, d⟩ := e
  obtain ⟨name', d'⟩ := e'
  obtain ⟨rfl, hlinked⟩ : name = name' ∧ PropertyLinked P d d' := hentry
  cases hlinked with
  | same => exact compileShape_alike hresolve owner _
  | changed h => exact hsuits d d' h

theorem compileSetWith_linked (h : NodeLinked P direct es es')
    (hsuits : ctx.Suits P resolve resolve' name)
    (hplain : Composition.isComposed (.map es) = false) :
    Carries SameFields (ctx.compileSetWith lookup resolve name (.map es))
      (ctx.compileSetWith lookup' resolve' name (.map es')) := by
  rw [compileSetWith_map hplain, compileSetWith_map (h.isComposed_eq.symm.trans hplain)]
  rcases @NodeLinked.ofNode_cases _ ctx.extensionKey _ _ _ h with
    hsame | ⟨fields, fields', hlinked, hshape, hshape'⟩
  · rw [← hsame]
    exact compileNode_alike hresolve name _
  · rw [hshape, hshape']
    exact compileFields_alike (members_linked hresolve hlinked hsuits) _

private theorem compilesAlike_linked (h : NodeLinked P direct es es')
    (hown : (Entries.value es ctx.extensionKey).isTruthy = false)
    (hown' : (Entries.value es' ctx.extensionKey).isTruthy = false)
    (hsuits : Form.ofEntries ctx.extensionKey es = .embedded →
      ∀ field, ctx.isReserved field = false → ctx.Suits P resolve resolve' field) (owner : Scalar) :
    ctx.CompilesAlike resolve resolve' owner (Shape.ofProperty ctx.extensionKey (.map es))
      (Shape.ofProperty ctx.extensionKey (.map es')) := by
  have hform := h.form_eq hown hown'
  have hdefault : Entries.get? es (.text "default") = Entries.get? es' (.text "default") :=
    h.get?_eq (by decide)
  by_cases hembedded : Form.ofEntries ctx.extensionKey es = .embedded
  · have hnode : ctx.CompilesAlike resolve resolve' owner (Shape.ofNode ctx.extensionKey es)
        (Shape.ofNode ctx.extensionKey es') := by
      rcases @NodeLinked.ofNode_cases _ ctx.extensionKey _ _ _ h with
        hsame | ⟨fields, fields', hlinked, hshape, hshape'⟩
      · rw [← hsame]
        exact compileShape_alike hresolve owner _
      · rw [hshape, hshape']
        intro field required hfield
        have hfields := members_linked hresolve hlinked (hsuits hembedded field hfield)
        simp only [compileShape]
        refine (compileMembers_alike hfields _).bind fun fields fields' hsame => ?_
        exact .value (.some (hsame.embedded.fillRequired field required))
    rw [Shape.ofProperty_map, Shape.ofProperty_map, ← hform, hembedded]
    exact withDefaultOf_alike hnode hdefault
  · have hshape : Shape.ofProperty ctx.extensionKey (.map es) =
        Shape.ofProperty ctx.extensionKey (.map es') := by
      rw [Shape.ofProperty_of_form hembedded, Shape.ofProperty_of_form (hform ▸ hembedded), ← hform,
        h.ofForm_eq, Shape.withDefaultOf, Shape.withDefaultOf, hdefault]
    rw [← hshape]
    exact compileShape_alike hresolve owner _

omit hresolve in
private theorem not_embedded (hkey : ctx.extensionKey ≠ "type")
    (hproperties : (Entries.value es "properties").isMap = true) (hsimple : isContainer es = false)
    (htype : Entries.value es "type" = .null ∨ (Entries.value es "type").isTruthy = true) :
    Form.ofEntries ctx.extensionKey (Entries.erase es (.text ctx.extensionKey)) ≠ .embedded := by
  have hhas : Entries.has es (.text "properties") = true := by
    unfold Entries.value at hproperties
    unfold Entries.has
    cases hfound : Entries.get? es (.text "properties") with
    | none =>
      rw [hfound] at hproperties
      cases hproperties
    | some _ => rfl
  have htruthy : (Entries.value es "type").isTruthy = true := by
    refine htype.resolve_left fun hnull => ?_
    rw [isContainer, hnull, hhas] at hsimple
    cases hsimple
  have hobject : (Entries.value es "type").isText "object" = false := by
    rw [isContainer] at hsimple
    split at hsimple
    · next hnull =>
      rw [hnull]
      rfl
    · exact (Bool.or_eq_false_iff.mp hsimple).2
  have hread : Entries.value (Entries.erase es (.text ctx.extensionKey)) "type" =
      Entries.value es "type" := by
    rw [Entries.value_erase, Scalar.same_text_of_ne hkey, if_neg Bool.false_ne_true]
  exact Form.ofEntries_ne_embedded _ (hread ▸ htruthy) (hread ▸ hobject)

/-- Linked nodes are embedded as values with the same rule, if the key of blocks is no keyword that
they are read by. Where linked properties suit the owner alone, fields that are listed directly may
not count, and the node may have no falsy type. -/
theorem compileTarget_linked (h : NodeLinked P direct es es')
    (hsuits : ctx.Suits P resolve resolve' name)
    (hplain : Composition.isComposed (.map es) = false)
    (hkey : ctx.extensionKey ≠ "type" ∧ ctx.extensionKey ≠ "properties")
    (howned : (¬ direct ∧
        (Entries.value es "type" = .null ∨ (Entries.value es "type").isTruthy = true)) ∨
      ∀ field, ctx.isReserved field = false → ctx.Suits P resolve resolve' field)
    (field : Scalar) (many : Bool) :
    Carries SameRuleIfAny (ctx.compileTarget lookup resolve name field many (.map es))
      (ctx.compileTarget lookup' resolve' name field many (.map es')) := by
  have hcontainer := h.isContainer_eq
  have htypes : Entries.value es "type" = Entries.value es' "type" := h.value_eq (by decide)
  have hitems : Entries.value es "items" = Entries.value es' "items" := h.value_eq (by decide)
  by_cases hsame : es = es'
  · rw [← hsame]
    exact compileTarget_alike hresolve hplain name field many
  rw [compileTarget_map, compileTarget_map, ← hcontainer, ← htypes, ← hitems]
  cases hsimple : isContainer es with
  | true =>
    rw [if_pos rfl, if_pos rfl]
    split
    · refine (compilePropertyWith_alike (compileShape_alike hresolve name _) name .null).bind ?_
      exact fun a b hsame => .value (.some (array_alike hsame))
    · refine (compileSetWith_linked hresolve h hsuits hplain).bind fun v w hsame => .value ?_
      exact .some (hsame.sameRule.manyOf many)
  | false =>
    have hown : ∀ entries : Entries Data, (Entries.value
        (Entries.erase entries (.text ctx.extensionKey)) ctx.extensionKey).isTruthy = false := by
      intro entries
      rw [Entries.value_erase, if_pos (Scalar.same_refl _)]
      rfl
    have hfields : Form.ofEntries ctx.extensionKey
        (Entries.erase es (.text ctx.extensionKey)) = .embedded →
          ∀ field, ctx.isReserved field = false → ctx.Suits P resolve resolve' field := by
      intro hembedded
      rcases howned with ⟨hdirect, htype⟩ | hall
      · cases hproperties : (Entries.value es "properties").isMap with
        | true => exact absurd hembedded (not_embedded hkey.1 hproperties hsimple htype)
        | false => exact absurd (h.eq_of_no_properties hdirect hproperties) hsame
      · exact hall
    rw [if_neg Bool.false_ne_true, if_neg Bool.false_ne_true]
    refine (compilePropertyWith_alike (compilesAlike_linked hresolve (h.erase hkey.2) (hown _)
      (hown _) hfields name) field .null).bind fun a b hsame => ?_
    cases many with
    | true => exact .value (.some (array_alike hsame))
    | false => exact .value hsame

end Context

structure RawLinked (P : Data → Data → Prop) (direct : Prop) (es es' : Entries Data) : Prop where
  fragments : BothYield (List.Forall₂ (DataLinked P direct)) (Composition.fragments es)
    (Composition.fragments es')
  plain : NodeLinked P direct (Entries.erase es (.text "allOf")) (Entries.erase es' (.text "allOf"))
  composed : Composition.isComposed (.map es) = Composition.isComposed (.map es')
  whole : Composition.isComposed (.map es) = false → NodeLinked P direct es es'

inductive DefinitionLinked (P : Data → Data → Prop) (direct : Prop) : Data → Data → Prop
  | same (d : Data) : DefinitionLinked P direct d d
  | raw {es es' : Entries Data} (h : RawLinked P direct es es') :
      DefinitionLinked P direct (.map es) (.map es')

theorem NodeLinked.rawLinked (h : NodeLinked P direct es es') : RawLinked P direct es es' where
  fragments := by
    have hlisted : Entries.value es "allOf" = Entries.value es' "allOf" := h.value_eq (by decide)
    unfold Composition.fragments
    rw [hlisted]
    exact .refl (fun parts => List.forall₂_same.mpr fun d _ => .same d) _
  plain := h.erase (by decide)
  composed := h.isComposed_eq
  whole _ := h

/-- A node of which one property is replaced by one that may stand for it. -/
inductive OwnReplaced (P : Data → Data → Prop) (es : Entries Data) : Entries Data → Prop
  | intro {before after : Entries Data} {name : Scalar} {d d' : Data} (h : P d d')
      (hes : Entries.get? es (.text "properties") = some (.map (before ++ (name, d) :: after))) :
      OwnReplaced P es
        (Entries.put es (.text "properties") (.map (before ++ (name, d') :: after)))

/-- A definition of which one property is replaced by one that may stand for it: one of its own, or
one of a fragment that it is composed of. -/
inductive DefinitionReplaced (P : Data → Data → Prop) (es : Entries Data) : Entries Data → Prop
  | own {es' : Entries Data} (h : OwnReplaced P es es') : DefinitionReplaced P es es'
  | fragment {before after : List Data} {part part' : Entries Data} (h : OwnReplaced P part part')
      (hes : Entries.get? es (.text "allOf") = some (.list (before ++ .map part :: after))) :
      DefinitionReplaced P es
        (Entries.put es (.text "allOf") (.list (before ++ .map part' :: after)))

/-- A definition of which one entry under the name of a field is replaced by one that may stand for
it: a field that the definition lists directly. -/
inductive FieldReplaced (key : String) (P : Data → Data → Prop) : Entries Data → Entries Data → Prop
  | intro {before after : Entries Data} {name : Scalar}
      (hname : ∀ word ∈ key :: Shape.wordsOfLists, name ≠ .text word) {es es' : Entries Data}
      (h : P (.map es) (.map es')) :
      FieldReplaced key P (before ++ (name, .map es) :: after) (before ++ (name, .map es') :: after)

theorem FieldReplaced.nodeLinked (h : FieldReplaced key P es es') : NodeLinked P True es es' := by
  cases h with
  | intro hname h =>
    have hfield := FieldLinked.changed (P := P) trivial
      (fun word hword => hname word (List.mem_cons_of_mem _ hword)) h
    constructor
    · exact forall₂_replaced (fun e => .field (.same e)) (.field hfield) _ _
    · exact fun _ => forall₂_replaced .same hfield _ _

theorem FieldReplaced.value_key (h : FieldReplaced key P es es') :
    Entries.value es key = Entries.value es' key := by
  cases h with
  | @intro before after name hname es es' _ =>
    have hother : name.same (.text key) = false := by
      rw [Bool.eq_false_iff, Ne, Scalar.same_text]
      exact hname key List.mem_cons_self
    unfold Entries.value
    rw [get?_replaced hother (.map es) (.map es')]

theorem OwnReplaced.nodeLinked (h : OwnReplaced P es es') : NodeLinked P direct es es' := by
  cases h with
  | @intro before after name d d' hd hes =>
    have hlinked : PropertiesLinked P (before ++ (name, d) :: after)
        (before ++ (name, d') :: after) :=
      forall₂_replaced (fun e => ⟨rfl, .same e.2⟩) ⟨rfl, .changed hd⟩ _ _
    have hput := (@NodeLinked.refl P direct es).putProperties hlinked
    rwa [Entries.put_of_get? hes] at hput

private theorem isComposed_of_fragments {parts : List Data} {part : Data} {before after : List Data}
    (hparts : parts = before ++ part :: after)
    (hes : Entries.get? es (.text "allOf") = some (.list parts)) :
    Composition.isComposed (.map es) = true ∧ Composition.fragments es = .ok parts := by
  have hvalue : Entries.value es "allOf" = .list parts := by
    rw [Entries.value, hes]
    rfl
  have htruthy : (Data.list parts).isTruthy = true := by
    rw [hparts]
    simp [Data.isTruthy]
  constructor
  · rw [Composition.isComposed, Data.value, hvalue, htruthy]
  · rw [Composition.fragments, hvalue, if_pos htruthy]
    rfl

theorem DefinitionReplaced.rawLinked (h : DefinitionReplaced P es es') :
    RawLinked P direct es es' := by
  cases h with
  | own h => exact h.nodeLinked.rawLinked
  | @fragment before after part part' h hes =>
    obtain ⟨hcomposed, hfragments⟩ := isComposed_of_fragments rfl hes
    obtain ⟨hcomposed', hfragments'⟩ := isComposed_of_fragments rfl
      (Entries.get?_put_same es (.text "allOf") (.list (before ++ .map part' :: after)))
    refine ⟨?_, ?_, hcomposed.trans hcomposed'.symm, fun hplain => ?_⟩
    · rw [hfragments, hfragments']
      exact .value (forall₂_replaced (fun d => .same d) (.node h.nodeLinked) _ _)
    · rw [Entries.erase_put_same]
      exact .refl _
    · rw [hcomposed] at hplain
      cases hplain

theorem DefinitionReplaced.value_eq (h : DefinitionReplaced P es es') {word : String}
    (hproperties : word ≠ "properties")
    (hfragments : word = "allOf" → (Entries.value es word).isTruthy = false) :
    Entries.value es word = Entries.value es' word := by
  cases h with
  | own h =>
    cases h with
    | intro _ _ => exact (Entries.value_put_other hproperties _ _).symm
  | fragment h hes =>
    by_cases hword : word = "allOf"
    · have hfalsy := hfragments hword
      subst hword
      have hcomposed := (isComposed_of_fragments rfl hes).1
      exact absurd (hfalsy.symm.trans hcomposed) (by decide)
    · rw [Entries.value_put_other hword]

open Composition.Gathered (propertiesOf requiredOf)

private theorem propertiesOf_of_get? {properties : Entries Data}
    (h : Entries.get? es (.text "properties") = some (.map properties)) :
    propertiesOf es = .ok properties := by
  unfold propertiesOf Entries.value
  rw [h]
  cases properties <;> rfl

private theorem DataLinked.add {gathered gathered' : Composition.Gathered}
    (h : GatheredLike (PropertyLinked P) gathered gathered') {node node' : Data}
    (hnode : DataLinked P direct node node') :
    BothYield (GatheredLike (PropertyLinked P)) (gathered.add node) (gathered'.add node') := by
  cases hnode with
  | same node => exact h.addSame (fun _ => .same _) node
  | node hnode =>
    refine h.addEntries ?_ ?_
    · rcases hnode.properties_cases with hsame | ⟨_, _, hlinked, hes, hes'⟩
      · unfold propertiesOf Entries.value
        rw [← hsame]
        exact .refl PropertiesLinked.refl _
      · rw [propertiesOf_of_get? hes, propertiesOf_of_get? hes']
        exact .value hlinked
    · unfold requiredOf
      rw [hnode.value_eq (by decide)]

private theorem DataLinked.source {fragment fragment' : Data}
    (h : DataLinked P direct fragment fragment') :
    BothYield (SourceLike (DataLinked P direct)) (Composition.source fragment)
      (Composition.source fragment') := by
  cases h with
  | same fragment => exact source_same .same fragment
  | node h => exact source_map (h.get?_eq (by decide)) (.node h)

namespace Context

variable {ctx ctx' : Context} {lookup lookup' : Scalar → Except Fault Data}

private theorem merge_linked (h : RawLinked P direct es es')
    (hlookup : ∀ target, BothYield (DataLinked P direct) (lookup (.text target))
      (lookup' (.text target))) :
    BothYield (NodeLinked P direct) (merge lookup (.map es)) (merge lookup' (.map es')) := by
  simp only [merge, Data.members, orMisuse_ok, ofExcept_eq, ok_bind]
  refine h.fragments.orMisuse.bind fun fragments fragments' hfragments => ?_
  have hgathered : BothYield (GatheredLike (PropertyLinked P)) (gather lookup .empty fragments)
      (gather lookup' .empty fragments') :=
    gather_like (fun _ _ hpart => hpart.source) (fun _ _ _ _ hgathered hnode => hnode.add hgathered)
      (fun _ _ target _ => hlookup target) hfragments ⟨.nil, rfl⟩
  refine hgathered.bind fun gathered gathered' hgathered => .value ?_
  refine hgathered.finish h.plain (fun own own' hown => ?_) fun own own' d hown => ?_
  · exact hown.putProperties hgathered.properties
  · exact hown.put (by decide) d

private theorem readDefinition_linked (h : RawLinked P direct es es')
    (hlookup : ∀ target, BothYield (DataLinked P direct) (lookup (.text target))
      (lookup' (.text target))) {name : Scalar} (hraw : ctx.rawDefinition name = .ok (.map es))
    (hraw' : ctx'.rawDefinition name = .ok (.map es')) :
    BothYield (DataLinked P direct) (ctx.readDefinition lookup name)
      (ctx'.readDefinition lookup' name) := by
  rw [readDefinition_of_raw hraw, readDefinition_of_raw hraw', ← h.composed]
  cases hcomposed : Composition.isComposed (.map es) with
  | false => exact .value (.node (h.whole hcomposed))
  | true => exact (merge_linked h hlookup).bind fun _ _ hmerged => .value (.node hmerged)

variable (h : List.Forall₂ (fun e e' => e.1 = e'.1 ∧ DefinitionLinked P direct e.2 e'.2)
  ctx.definitions ctx'.definitions)

include h

private theorem normalAt_linked (depth : Nat) : ∀ name : Scalar,
    BothYield (DataLinked P direct) (ctx.normalAt depth name) (ctx'.normalAt depth name) := by
  induction depth with
  | zero => exact fun _ => .fault Fault.endless
  | succ depth ih =>
    intro name
    rcases Entries.get?_of_forall₂ (fun _ _ => And.left) h name with
      ⟨hnone, hnone'⟩ | ⟨k, raw, raw', -, ⟨-, hlinked⟩, hsome, hsome'⟩
    · have hraw : ctx.rawDefinition name = .error (.unresolvedReference name) := by
        rw [rawDefinition, hnone]
      have hraw' : ctx'.rawDefinition name = .error (.unresolvedReference name) := by
        rw [rawDefinition, hnone']
      rw [normalAt, normalAt, readDefinition_of_unregistered hraw,
        readDefinition_of_unregistered hraw']
      exact .fault _
    · have hraw : ctx.rawDefinition name = .ok raw := by rw [rawDefinition, hsome]
      have hraw' : ctx'.rawDefinition name = .ok raw' := by rw [rawDefinition, hsome']
      rw [normalAt, normalAt]
      cases hlinked with
      | raw hlinked => exact readDefinition_linked hlinked (fun target => ih _) hraw hraw'
      | same raw =>
        cases raw with
        | map entries =>
          have hsame : RawLinked P direct entries entries := (NodeLinked.refl entries).rawLinked
          exact readDefinition_linked hsame (fun target => ih _) hraw hraw'
        | _ =>
          rw [readDefinition_of_raw hraw, readDefinition_of_raw hraw']
          exact .value (.same _)

/-- Linked definitions have linked normal forms. -/
theorem normalForm_linkedTo (name : Scalar) :
    BothYield (DataLinked P direct) (ctx.normalForm name) (ctx'.normalForm name) := by
  unfold Context.normalForm
  rw [h.length_eq]
  exact normalAt_linked h _ name

end Context

end StoreSchema
