import StoreSchema.Proofs.Blocks
import StoreSchema.Proofs.Overlay

set_option autoImplicit false

namespace StoreSchema

/-- The values say the same about which fields are required. -/
def Data.RequiresAs (required required' : Data) : Prop :=
  ∀ (v : Value) (field : Scalar), v.fillRequired field required = v.fillRequired field required'

namespace Shape

/-- The shapes compile to the same, whatever references come to. -/
def CompilesAs (shape shape' : Shape) : Prop :=
  ∀ (ctx : Context) (resolve : Resolve (Except Fault)) (owner field : Scalar) (required : Data),
    ctx.compileShape resolve owner field required shape =
      ctx.compileShape resolve owner field required shape'

def EachCompilesAs (members members' : List (Scalar × Shape)) : Prop :=
  ∀ (ctx : Context) (resolve : Resolve (Except Fault)) (owner : Scalar) (required : Data),
    ctx.compileMembers resolve owner required members =
      ctx.compileMembers resolve owner required members'

/-- The nodes are read to the same, or to fields that compile to the same and are required alike. -/
inductive ReadsAs : Shape → Shape → Prop
  | same (shape : Shape) : ReadsAs shape shape
  | fields {required required' : Data} {members members' : List (Scalar × Shape)}
      (hrequired : required.RequiresAs required') (hmembers : EachCompilesAs members members') :
      ReadsAs (.fields required members) (.fields required' members')

variable {ctx : Context} {resolve : Resolve (Except Fault)} {shape shape' : Shape}

theorem CompilesAs.refl (shape : Shape) : CompilesAs shape shape := fun _ _ _ _ _ => rfl

theorem EachCompilesAs.cons (name : Scalar) (h : CompilesAs shape shape')
    {rest rest' : List (Scalar × Shape)} (hrest : EachCompilesAs rest rest') :
    EachCompilesAs ((name, shape) :: rest) ((name, shape') :: rest') := by
  intro ctx resolve owner required
  simp only [Context.compileMembers, h ctx resolve owner name required,
    hrest ctx resolve owner required]

private theorem compileShape_required {required required' : Data}
    (h : required.RequiresAs required') (owner field : Scalar) (shape : Shape) :
    ctx.compileShape resolve owner field required shape =
      ctx.compileShape resolve owner field required' shape := by
  have hfill : ∀ v : Value, v.fillRequired field required = v.fillRequired field required' :=
    fun v => h v field
  match shape with
  | .notMapping _ | .endless | .noFields | .malformed _ | .composed =>
    simp only [Context.compileShape]
  | .override _ _ _ | .reference _ _ | .typed _ _ | .fields _ _ =>
    simp only [Context.compileShape, hfill]
  | .withDefault shape _ =>
    simp only [Context.compileShape, compileShape_required h owner field shape]

private theorem compileMembers_required {required required' : Data}
    (h : required.RequiresAs required') (owner : Scalar) (members : List (Scalar × Shape)) :
    ctx.compileMembers resolve owner required members =
      ctx.compileMembers resolve owner required' members := by
  induction members with
  | nil => simp only [Context.compileMembers]
  | cons e rest ih =>
    obtain ⟨name, shape⟩ := e
    simp only [Context.compileMembers, ih, compileShape_required h owner name shape]

private theorem ReadsAs.compileMembers_eq {required required' : Data}
    {members members' : List (Scalar × Shape)} (hrequired : required.RequiresAs required')
    (hmembers : EachCompilesAs members members') (owner : Scalar) :
    ctx.compileMembers resolve owner required members =
      ctx.compileMembers resolve owner required' members' := by
  rw [hmembers ctx resolve owner required, compileMembers_required hrequired]

theorem ReadsAs.compilesAs (h : ReadsAs shape shape') : CompilesAs shape shape' := by
  intro ctx resolve owner field required
  cases h with
  | same _ => rfl
  | fields hrequired hmembers =>
    simp only [Context.compileShape, ReadsAs.compileMembers_eq hrequired hmembers]

theorem ReadsAs.compileNode_eq (h : ReadsAs shape shape') (owner : Scalar) :
    ctx.compileNode resolve owner shape = ctx.compileNode resolve owner shape' := by
  cases h with
  | same _ => rfl
  | fields hrequired hmembers =>
    simp only [Context.compileNode, ReadsAs.compileMembers_eq hrequired hmembers]

theorem CompilesAs.withDefaultOf {entries entries' : Entries Data} (h : CompilesAs shape shape')
    (hdefault : Entries.get? entries (.text "default") =
      Entries.get? entries' (.text "default")) :
    CompilesAs (withDefaultOf entries shape) (Shape.withDefaultOf entries' shape') := by
  unfold Shape.withDefaultOf
  rw [hdefault]
  split
  · intro ctx resolve owner field required
    simp only [Context.compileShape, h ctx resolve owner field required]
  · exact h

/-- The names under which a node holds something else than a field. -/
def wordsOfNodes : List String :=
  ["type", "properties", "items", "$ref", "allOf", "default"]

def wordsOfLists : List String :=
  wordsOfNodes ++ ["format", "required", "enum"]

theorem ofNode_eq (key : String) (entries : Entries Data) :
    ofNode key entries =
      match Entries.value entries "properties" with
      | .map properties => .fields (Entries.value entries "required") (members key false properties)
      | .null =>
        match Entries.value entries "type" with
        | .null => .fields (Entries.value entries "required") (members key true entries)
        | type =>
          if type.isText "object" then .fields (Entries.value entries "required") []
          else .typed (FieldType.ofEntries entries) none
      | .recurrence true => .endless
      | _ => .noFields := by
  rw [ofNode]
  split
  · next h => simp only [h]
  · next h =>
    cases Entries.value entries "type" with
    | scalar s => cases s <;> simp only [h]
    | _ => simp only [h]
  · next h => simp only [h]
  · next hmap hnull hrecurrence =>
    split
    · next h => exact absurd h (hmap _)
    · next h => exact absurd h hnull
    · next h => exact absurd h hrecurrence
    · rfl

end Shape

theorem FieldType.ofEntries_eq (entries : Entries Data) :
    ofEntries entries =
      match Entries.value entries "type" with
      | .text name =>
        if name = "number" then
          if isNumberFormat (Entries.value entries "format") then .ok (.scalar .number)
          else .error (.unknownFormat (Entries.value entries "format"))
        else if name = "array" then
          match Entries.get? entries (.text "items") with
          | some (.map items) => (ofEntries items).map .listOf
          | some (.recurrence true) => .error .endless
          | _ => .error .noItems
        else match scalarType? name with
          | some storage => .ok (.scalar storage)
          | none => .error (.unknownType (.text name))
      | other => .error (.unknownType other) := by
  rw [ofEntries]
  cases Entries.value entries "type" with
  | scalar s =>
    cases s with
    | text name =>
      dsimp only
      split
      · rfl
      · split
        · split
          · next h => simp only [h]
          · next h => simp only [h]
          · next hmap hrecurrence =>
            split
            · next h => exact absurd h (hmap _)
            · next h => exact absurd h hrecurrence
            · rfl
        · rfl
    | _ => rfl
  | _ => rfl

/-- Outcomes that are the same fault, or values that compare. -/
inductive BothYield {ε α β : Type} (R : α → β → Prop) : Except ε α → Except ε β → Prop
  | value {a : α} {b : β} (h : R a b) : BothYield R (.ok a) (.ok b)
  | fault (e : ε) : BothYield R (.error e) (.error e)

section Like

variable {key : String} {es es' : Entries Data}

/-- Mappings without a block of their own that compile to the same as properties and as the items of
an array. -/
structure PropertyLike (key : String) (es es' : Entries Data) : Prop where
  shape : Shape.CompilesAs (Shape.ofProperty key (.map es)) (Shape.ofProperty key (.map es'))
  type : FieldType.ofEntries es = FieldType.ofEntries es'
  reference : Entries.value es "$ref" = Entries.value es' "$ref"
  unblocked : Data.Unblocked key es
  unblocked' : Data.Unblocked key es'

inductive ValueLike (key : String) : Data → Data → Prop
  | same (d : Data) : ValueLike key d d
  | changed {es es' : Entries Data} (h : PropertyLike key es es') :
      ValueLike key (.map es) (.map es')

abbrev FieldsLike (key : String) : Entries Data → Entries Data → Prop :=
  List.Forall₂ fun e e' => e.1 = e'.1 ∧ ValueLike key e.2 e'.2

/-- Mappings that a composition reads as the same reference, or to properties that compare and the
same required names. -/
structure FragmentLike (key : String) (es es' : Entries Data) : Prop where
  reference : Entries.get? es (.text "$ref") = Entries.get? es' (.text "$ref")
  properties : BothYield (FieldsLike key) (Composition.Gathered.propertiesOf es)
    (Composition.Gathered.propertiesOf es')
  required : Composition.Gathered.requiredOf es = Composition.Gathered.requiredOf es'

inductive PartLike (key : String) : Data → Data → Prop
  | same (d : Data) : PartLike key d d
  | changed {es es' : Entries Data} (h : FragmentLike key es es') :
      PartLike key (.map es) (.map es')

/-- Entries of two nodes that are the same, or hold what compiles to the same, what is read alike in
the case of fragments, or lists that are not read. -/
inductive EntryLike (key : String) : Scalar × Data → Scalar × Data → Prop
  | same (e : Scalar × Data) : EntryLike key e e
  | properties {fields fields' : Entries Data} (h : FieldsLike key fields fields') :
      EntryLike key (.text "properties", .map fields) (.text "properties", .map fields')
  | items {es es' : Entries Data} (h : PropertyLike key es es') :
      EntryLike key (.text "items", .map es) (.text "items", .map es')
  | fragments {fragments fragments' : List Data}
      (h : List.Forall₂ (PartLike key) fragments fragments') :
      EntryLike key (.text "allOf", .list fragments) (.text "allOf", .list fragments')
  | field {name : Scalar} (hname : ∀ word ∈ Shape.wordsOfNodes, name ≠ .text word)
      {es es' : Entries Data} (h : PropertyLike key es es') :
      EntryLike key (name, .map es) (name, .map es')
  | unread {name : Scalar} (hname : ∀ word ∈ Shape.wordsOfLists, name ≠ .text word)
      (items items' : List Data) : EntryLike key (name, .list items) (name, .list items')

theorem EntryLike.name_eq {e e' : Scalar × Data} (h : EntryLike key e e') : e.1 = e'.1 := by
  cases h <;> rfl

/-- Two nodes with entries that compare; a field named `format` is one of a node without a type. -/
structure NodeLike (key : String) (es es' : Entries Data) : Prop where
  distinct : Entries.DistinctKeys es
  entries : List.Forall₂ (EntryLike key) es es'
  format : Entries.value es "type" = .null ∨
    Entries.value es "format" = Entries.value es' "format"

theorem NodeLike.refl {es : Entries Data} (h : Entries.DistinctKeys es) : NodeLike key es es where
  distinct := h
  entries := List.forall₂_same.mpr fun e _ => .same e
  format := Or.inr rfl

theorem FieldsLike.refl (fields : Entries Data) : FieldsLike key fields fields :=
  List.forall₂_same.mpr fun e _ => ⟨rfl, .same e.2⟩

theorem FieldsLike.eachCompilesAs {fields fields' : Entries Data}
    (h : FieldsLike key fields fields') :
    Shape.EachCompilesAs (Shape.members key false fields) (Shape.members key false fields') := by
  induction h with
  | nil => exact fun _ _ _ _ => rfl
  | @cons e e' rest rest' hfirst _ ih =>
    obtain ⟨name, d⟩ := e
    obtain ⟨name', d'⟩ := e'
    obtain ⟨hname, hlike⟩ := hfirst
    dsimp only at hname hlike
    subst hname
    simp only [Shape.members, Bool.false_and, Bool.false_eq_true, if_false]
    cases hlike with
    | same _ => exact Shape.EachCompilesAs.cons name (Shape.CompilesAs.refl _) ih
    | changed hlike => exact Shape.EachCompilesAs.cons name hlike.shape ih

namespace NodeLike

theorem get?_eq_or (h : NodeLike key es es') (word : String) :
    Entries.get? es (.text word) = Entries.get? es' (.text word) ∨
      ∃ d d', EntryLike key (.text word, d) (.text word, d') ∧
        Entries.get? es (.text word) = some d ∧ Entries.get? es' (.text word) = some d' := by
  rcases Entries.get?_of_forall₂ (fun _ _ => EntryLike.name_eq) h.entries (.text word) with
    ⟨hnone, hnone'⟩ | ⟨k, d, d', hk, hlike, hd, hd'⟩
  · exact Or.inl (hnone.trans hnone'.symm)
  · obtain rfl : k = .text word := Scalar.same_text.mp hk
    exact Or.inr ⟨d, d', hlike, hd, hd'⟩

private theorem get?_cases (h : NodeLike key es es') {word : String}
    (hword : word ∈ Shape.wordsOfNodes) :
    Entries.get? es (.text word) = Entries.get? es' (.text word) ∨
      (word = "properties" ∧ ∃ fields fields', FieldsLike key fields fields' ∧
        Entries.get? es (.text word) = some (.map fields) ∧
        Entries.get? es' (.text word) = some (.map fields')) ∨
      (word = "items" ∧ ∃ inner inner', PropertyLike key inner inner' ∧
        Entries.get? es (.text word) = some (.map inner) ∧
        Entries.get? es' (.text word) = some (.map inner')) ∨
      (word = "allOf" ∧ ∃ fragments fragments', List.Forall₂ (PartLike key) fragments fragments' ∧
        Entries.get? es (.text word) = some (.list fragments) ∧
        Entries.get? es' (.text word) = some (.list fragments')) := by
  rcases h.get?_eq_or word with heq | ⟨d, d', hlike, hd, hd'⟩
  · exact Or.inl heq
  · rw [hd, hd']
    cases hlike with
    | same _ => exact Or.inl rfl
    | properties hfields => exact Or.inr (Or.inl ⟨rfl, _, _, hfields, rfl, rfl⟩)
    | items hitems => exact Or.inr (Or.inr (Or.inl ⟨rfl, _, _, hitems, rfl, rfl⟩))
    | fragments hparts => exact Or.inr (Or.inr (Or.inr ⟨rfl, _, _, hparts, rfl, rfl⟩))
    | field hname _ => exact absurd rfl (hname word hword)
    | unread hname _ _ => exact absurd rfl (hname word (List.mem_append_left _ hword))

theorem get?_eq (h : NodeLike key es es') {word : String}
    (hword : word ∈ ["type", "$ref", "default"]) :
    Entries.get? es (.text word) = Entries.get? es' (.text word) := by
  have hwords : ["type", "$ref", "default"] ⊆ Shape.wordsOfNodes := by decide
  rcases h.get?_cases (hwords hword) with heq | ⟨rfl, -⟩ | ⟨rfl, -⟩ | ⟨rfl, -⟩
  · exact heq
  all_goals exact absurd hword (by decide)

theorem value_eq_or_map (h : NodeLike key es es') (word : String)
    (hword : word ∈ ["required", "enum"]) :
    Entries.value es word = Entries.value es' word ∨
      ∃ inner inner', Entries.value es word = .map inner ∧
        Entries.value es' word = .map inner' := by
  have hlists : ["required", "enum"] ⊆ Shape.wordsOfLists := by decide
  unfold Entries.value
  rcases h.get?_eq_or word with heq | ⟨d, d', hlike, hd, hd'⟩
  · rw [heq]
    exact Or.inl rfl
  · rw [hd, hd']
    cases hlike with
    | same _ => exact Or.inl rfl
    | properties _ | items _ | fragments _ => simp at hword
    | field _ _ => exact Or.inr ⟨_, _, rfl, rfl⟩
    | unread hname _ _ => exact absurd rfl (hname word (hlists hword))

theorem value_type (h : NodeLike key es es') :
    Entries.value es "type" = Entries.value es' "type" := by
  rw [Entries.value, h.get?_eq (by simp)]
  rfl

theorem value_reference (h : NodeLike key es es') :
    Entries.value es "$ref" = Entries.value es' "$ref" := by
  rw [Entries.value, h.get?_eq (by simp)]
  rfl

theorem requiresAs (h : NodeLike key es es') :
    (Entries.value es "required").RequiresAs (Entries.value es' "required") := by
  rcases h.value_eq_or_map "required" (by simp) with heq | ⟨inner, inner', hd, hd'⟩
  · rw [heq]
    exact fun _ _ => rfl
  · rw [hd, hd']
    exact fun _ _ => rfl

theorem choicesOf_eq (h : NodeLike key es es') :
    Shape.choicesOf es = Shape.choicesOf es' := by
  unfold Shape.choicesOf
  rcases h.value_eq_or_map "enum" (by simp) with heq | ⟨inner, inner', hd, hd'⟩
  · rw [heq]
  · rw [hd, hd']

theorem properties_eq_or (h : NodeLike key es es') :
    Entries.get? es (.text "properties") = Entries.get? es' (.text "properties") ∨
      ∃ fields fields', FieldsLike key fields fields' ∧
        Entries.get? es (.text "properties") = some (.map fields) ∧
        Entries.get? es' (.text "properties") = some (.map fields') := by
  rcases @get?_cases _ _ _ h "properties" (by decide) with
    heq | ⟨-, hfields⟩ | ⟨hword, -⟩ | ⟨hword, -⟩
  · exact Or.inl heq
  · exact Or.inr hfields
  all_goals exact absurd hword (by decide)

theorem items_eq_or (h : NodeLike key es es') :
    Entries.get? es (.text "items") = Entries.get? es' (.text "items") ∨
      ∃ inner inner', PropertyLike key inner inner' ∧
        Entries.get? es (.text "items") = some (.map inner) ∧
        Entries.get? es' (.text "items") = some (.map inner') := by
  rcases @get?_cases _ _ _ h "items" (by decide) with
    heq | ⟨hword, -⟩ | ⟨-, hitems⟩ | ⟨hword, -⟩
  · exact Or.inl heq
  · exact absurd hword (by decide)
  · exact Or.inr hitems
  · exact absurd hword (by decide)

theorem fragments_eq_or (h : NodeLike key es es') :
    Entries.get? es (.text "allOf") = Entries.get? es' (.text "allOf") ∨
      ∃ fragments fragments', List.Forall₂ (PartLike key) fragments fragments' ∧
        Entries.get? es (.text "allOf") = some (.list fragments) ∧
        Entries.get? es' (.text "allOf") = some (.list fragments') := by
  rcases @get?_cases _ _ _ h "allOf" (by decide) with
    heq | ⟨hword, -⟩ | ⟨hword, -⟩ | ⟨-, hfragments⟩
  · exact Or.inl heq
  · exact absurd hword (by decide)
  · exact absurd hword (by decide)
  · exact Or.inr hfragments

theorem isTruthy_fragments (h : NodeLike key es es') :
    (Entries.value es "allOf").isTruthy = (Entries.value es' "allOf").isTruthy := by
  unfold Entries.value
  rcases h.fragments_eq_or with heq | ⟨fragments, fragments', hlike, hd, hd'⟩
  · rw [heq]
  · rw [hd, hd']
    cases hlike <;> rfl

theorem isComposed_eq (h : NodeLike key es es') :
    Composition.isComposed (.map es) = Composition.isComposed (.map es') :=
  h.isTruthy_fragments

theorem fieldType_eq (h : NodeLike key es es') :
    FieldType.ofEntries es = FieldType.ofEntries es' := by
  rw [FieldType.ofEntries_eq, FieldType.ofEntries_eq es', ← h.value_type]
  split
  · next name htype =>
    have hformat : Entries.value es "format" = Entries.value es' "format" := by
      refine h.format.resolve_left fun hnull => ?_
      rw [hnull] at htype
      cases htype
    rw [hformat]
    rcases h.items_eq_or with heq | ⟨inner, inner', hitems, hd, hd'⟩
    · rw [heq]
    · simp only [hd, hd', hitems.type]
  · rfl

theorem form_eq (h : NodeLike key es es') (hown : Data.Unblocked key es)
    (hown' : Data.Unblocked key es') : Form.ofEntries key es = Form.ofEntries key es' := by
  have hitems : Entries.value es "items" = Entries.value es' "items" ∨
      ∃ inner inner', PropertyLike key inner inner' ∧ Entries.value es "items" = .map inner ∧
        Entries.value es' "items" = .map inner' := by
    unfold Entries.value
    rcases h.items_eq_or with heq | ⟨inner, inner', hlike, hd, hd'⟩
    · rw [heq]
      exact Or.inl rfl
    · rw [hd, hd']
      exact Or.inr ⟨inner, inner', hlike, rfl, rfl⟩
  have hreference : Form.referenceOf es = Form.referenceOf es' := by
    simp only [Form.referenceOf, ← h.value_type, ← h.value_reference]
    rcases hitems with heq | ⟨inner, inner', hlike, hd, hd'⟩
    · rw [heq]
    · have hsame : (Data.map inner).value "$ref" = (Data.map inner').value "$ref" := hlike.reference
      rw [hd, hd', hsame]
  unfold Data.Unblocked at hown hown'
  simp only [Form.ofEntries, hown, hown', Bool.false_eq_true, if_false, ← h.value_type,
    ← hreference, ← h.isTruthy_fragments]
  rcases hitems with heq | ⟨inner, inner', hlike, hd, hd'⟩
  · rw [heq]
  · have hblock : ((Data.map inner).value key).isTruthy = false := hlike.unblocked
    have hblock' : ((Data.map inner').value key).isTruthy = false := hlike.unblocked'
    have hmap : (Data.map inner).isMap = (Data.map inner').isMap := rfl
    simp only [hd, hd', hblock, hblock', hmap, Bool.false_eq_true, if_false]

private theorem eachCompilesAs_direct (h : List.Forall₂ (EntryLike key) es es')
    (hplain : ∀ fields, (Scalar.text "properties", Data.map fields) ∉ es) :
    Shape.EachCompilesAs (Shape.members key true es) (Shape.members key true es') := by
  induction h with
  | nil => exact fun _ _ _ _ => rfl
  | @cons e e' rest rest' hfirst _ ih =>
    replace ih := ih fun fields hmem => hplain fields (List.mem_cons_of_mem _ hmem)
    cases hfirst with
    | same e =>
      obtain ⟨name, d⟩ := e
      simp only [Shape.members]
      split
      · exact ih
      · exact Shape.EachCompilesAs.cons name (Shape.CompilesAs.refl _) ih
    | properties _ => exact absurd List.mem_cons_self (hplain _)
    | items _ =>
      have hkeyword : ∀ inner, Shape.isDirectField key (.text "items") (.map inner) = false :=
        fun inner => by simp [Shape.isDirectField, Shape.keywords]
      simp only [Shape.members, hkeyword, Bool.not_false, Bool.and_self, if_true]
      exact ih
    | fragments _ | unread _ _ _ =>
      have hlist : ∀ name items, Shape.isDirectField key name (.list items) = false :=
        fun _ _ => rfl
      simp only [Shape.members, hlist, Bool.not_false, Bool.and_self, if_true]
      exact ih
    | @field name _ inner inner' hlike =>
      have hsame : Shape.isDirectField key name (.map inner) =
          Shape.isDirectField key name (.map inner') := rfl
      simp only [Shape.members, hsame]
      split
      · exact ih
      · exact Shape.EachCompilesAs.cons name hlike.shape ih

/-- Two nodes are read to the same, or to fields that compile to the same. -/
theorem readsAs (h : NodeLike key es es') :
    Shape.ReadsAs (Shape.ofNode key es) (Shape.ofNode key es') := by
  rw [Shape.ofNode_eq, Shape.ofNode_eq key es']
  rcases h.properties_eq_or with heq | ⟨fields, fields', hfields, hd, hd'⟩
  · have hvalue : Entries.value es "properties" = Entries.value es' "properties" := by
      rw [Entries.value, heq]
      rfl
    rw [← hvalue, ← h.value_type, ← h.fieldType_eq]
    split
    · exact .fields h.requiresAs fun _ _ _ _ => rfl
    · next hnull =>
      split
      · refine .fields h.requiresAs (eachCompilesAs_direct h.entries fun fields hmem => ?_)
        have hget := Entries.get?_of_mem h.distinct hmem
        rw [Entries.value, hget] at hnull
        cases hnull
      · split
        · exact .fields h.requiresAs fun _ _ _ _ => rfl
        · exact .same _
    · exact .same _
    · exact .same _
  · have hvalue : Entries.value es "properties" = .map fields := by
      rw [Entries.value, hd]
      rfl
    have hvalue' : Entries.value es' "properties" = .map fields' := by
      rw [Entries.value, hd']
      rfl
    rw [hvalue, hvalue']
    exact .fields h.requiresAs hfields.eachCompilesAs

theorem propertyLike (h : NodeLike key es es') (hown : Data.Unblocked key es)
    (hown' : Data.Unblocked key es') : PropertyLike key es es' where
  shape := by
    have hform : ∀ form, Shape.ofForm es form = Shape.ofForm es' form := by
      intro form
      cases form <;> simp only [Shape.ofForm, h.fieldType_eq, h.choicesOf_eq]
    rw [Shape.ofProperty_map, Shape.ofProperty_map, ← h.form_eq hown hown']
    refine Shape.CompilesAs.withDefaultOf ?_ (h.get?_eq (by simp))
    split
    · exact h.readsAs.compilesAs
    · rw [hform]
      exact .refl _
  type := h.fieldType_eq
  reference := h.value_reference
  unblocked := hown
  unblocked' := hown'

theorem isContainer_eq (h : NodeLike key es es') :
    Context.isContainer es = Context.isContainer es' := by
  have hproperties :
      Entries.has es (.text "properties") = Entries.has es' (.text "properties") := by
    unfold Entries.has
    rcases h.properties_eq_or with heq | ⟨_, _, _, hd, hd'⟩
    · rw [heq]
    · rw [hd, hd']
      rfl
  have hfragments : Entries.has es (.text "allOf") = Entries.has es' (.text "allOf") := by
    unfold Entries.has
    rcases h.fragments_eq_or with heq | ⟨_, _, _, hd, hd'⟩
    · rw [heq]
    · rw [hd, hd']
      rfl
  simp only [Context.isContainer, h.value_type, hproperties, hfragments]

theorem erase (h : NodeLike key es es') (name : String) :
    NodeLike key (Entries.erase es (.text name)) (Entries.erase es' (.text name)) where
  distinct := h.distinct.erase _
  entries := Entries.forall₂_erase (fun _ _ => EntryLike.name_eq) h.entries _
  format := by
    simp only [Entries.value_erase]
    split
    · exact Or.inl rfl
    · rcases h.format with htype | hformat
      · exact Or.inl htype
      · rw [hformat]
        exact Or.inr rfl

theorem fragmentLike (h : NodeLike key es es') : FragmentLike key es es' where
  reference := h.get?_eq (by simp)
  properties := by
    have hrefl : ∀ outcome : Except Misuse (Entries Data),
        BothYield (FieldsLike key) outcome outcome := by
      rintro (misuse | fields)
      · exact .fault misuse
      · exact .value (.refl fields)
    unfold Composition.Gathered.propertiesOf Entries.value
    rcases h.properties_eq_or with heq | ⟨fields, fields', hfields, hd, hd'⟩
    · rw [heq]
      exact hrefl _
    · rw [hd, hd']
      cases hfields with
      | nil => exact hrefl _
      | cons hfirst hrest => exact .value (.cons hfirst hrest)
  required := by
    unfold Composition.Gathered.requiredOf
    rcases h.value_eq_or_map "required" (by simp) with heq | ⟨inner, inner', hd, hd'⟩
    · rw [heq]
    · rw [hd, hd']

end NodeLike

end Like

section Contexts

variable {ctx : Context} {lookup : Scalar → Except Fault Data} {resolve : Resolve (Except Fault)}
  {es es' : Entries Data}

private theorem compilePropertyWith_eq {property property' : Data}
    (h : Shape.CompilesAs (Shape.ofProperty ctx.extensionKey property)
      (Shape.ofProperty ctx.extensionKey property')) (field : Scalar) (required : Data)
    (owner : Scalar) :
    ctx.compilePropertyWith resolve property field required owner =
      ctx.compilePropertyWith resolve property' field required owner := by
  simp only [Context.compilePropertyWith, h ctx resolve owner field required]

namespace NodeLike

theorem compileSetWith_eq (h : NodeLike ctx.extensionKey es es')
    (hplain : Composition.isComposed (.map es) = false) (owner : Scalar) :
    ctx.compileSetWith lookup resolve owner (.map es) =
      ctx.compileSetWith lookup resolve owner (.map es') := by
  rw [Context.compileSetWith_map hplain, Context.compileSetWith_map (h.isComposed_eq ▸ hplain),
    h.readsAs.compileNode_eq]

/-- Two nodes that are not composed compile to the same for a field that refers to them. -/
theorem compileTarget_eq (h : NodeLike ctx.extensionKey es es')
    (hplain : Composition.isComposed (.map es) = false) (name field : Scalar) (many : Bool) :
    ctx.compileTarget lookup resolve name field many (.map es) =
      ctx.compileTarget lookup resolve name field many (.map es') := by
  have hunblocked : ∀ entries : Entries Data, Data.Unblocked ctx.extensionKey
      (Entries.erase entries (.text ctx.extensionKey)) := by
    intro entries
    unfold Data.Unblocked
    rw [Entries.value_erase, if_pos (Scalar.same_refl _)]
    rfl
  have herased := (h.erase ctx.extensionKey).propertyLike (hunblocked es) (hunblocked es')
  have hgiven : ∀ inner : Entries Data,
      (if (Data.map inner).isTruthy then Data.map inner else .map []) = .map inner := by
    rintro (_ | ⟨e, rest⟩) <;> rfl
  have hitems : ∀ field required owner,
      ctx.compilePropertyWith resolve (if (Entries.value es "items").isTruthy then
          Entries.value es "items" else .map []) field required owner =
        ctx.compilePropertyWith resolve (if (Entries.value es' "items").isTruthy then
          Entries.value es' "items" else .map []) field required owner := by
    intro field required owner
    unfold Entries.value
    rcases h.items_eq_or with heq | ⟨inner, inner', hlike, hd, hd'⟩
    · rw [heq]
    · simp only [hd, hd', Option.getD_some, hgiven]
      exact compilePropertyWith_eq hlike.shape field required owner
  rw [Context.compileTarget_map, Context.compileTarget_map, ← h.isContainer_eq, ← h.value_type,
    h.compileSetWith_eq hplain]
  simp only [hitems, compilePropertyWith_eq herased.shape]

end NodeLike

end Contexts

open StoreSchema.Composition (source)
open StoreSchema.Composition.Gathered (propertiesOf requiredOf)

namespace BothYield

variable {ε α β γ δ : Type} {R : α → β → Prop} {S : γ → δ → Prop} {a : Except ε α} {b : Except ε β}

theorem outcomes (h : BothYield R a b) :
    (∃ e, a = .error e ∧ b = .error e) ∨ ∃ v w, a = .ok v ∧ b = .ok w ∧ R v w := by
  cases h with
  | value h => exact Or.inr ⟨_, _, rfl, rfl, h⟩
  | fault e => exact Or.inl ⟨e, rfl, rfl⟩

theorem refl {R : α → α → Prop} (hrefl : ∀ v, R v v) (a : Except ε α) : BothYield R a a := by
  cases a with
  | error e => exact .fault e
  | ok v => exact .value (hrefl v)

theorem bind (h : BothYield R a b) {f : α → Except ε γ} {g : β → Except ε δ}
    (hfg : ∀ v w, R v w → BothYield S (f v) (g w)) : BothYield S (a >>= f) (b >>= g) := by
  cases h with
  | value h => exact hfg _ _ h
  | fault e => exact .fault e

theorem mono {S : α → β → Prop} (h : BothYield R a b) (hS : ∀ v w, R v w → S v w) :
    BothYield S a b := by
  cases h with
  | value h => exact .value (hS _ _ h)
  | fault e => exact .fault e

theorem orMisuse {a : Except Misuse α} {b : Except Misuse β} (h : BothYield R a b) :
    BothYield R (StoreSchema.orMisuse a) (StoreSchema.orMisuse b) := by
  cases h with
  | value h => exact .value h
  | fault misuse => exact .fault (Fault.misuse misuse)

end BothYield

variable {key : String} {es es' : Entries Data}

structure GatheredLike (R : Data → Data → Prop) (gathered gathered' : Composition.Gathered) :
    Prop where
  properties : List.Forall₂ (fun e e' => e.1 = e'.1 ∧ R e.2 e'.2) gathered.properties
    gathered'.properties
  required : gathered.required = gathered'.required

namespace GatheredLike

variable {R : Data → Data → Prop} {gathered gathered' : Composition.Gathered}

theorem addEntries (h : GatheredLike R gathered gathered')
    (hproperties : BothYield (List.Forall₂ fun e e' => e.1 = e'.1 ∧ R e.2 e'.2) (propertiesOf es)
      (propertiesOf es')) (hrequired : requiredOf es = requiredOf es') :
    BothYield (GatheredLike R) (gathered.add (.map es)) (gathered'.add (.map es')) := by
  unfold Composition.Gathered.add
  simp only [Data.members, ok_bind, ← hrequired]
  refine hproperties.bind fun fields fields' hfields => ?_
  cases requiredOf es with
  | error misuse => exact .fault misuse
  | ok names =>
    refine .value ⟨Entries.forall₂_overlay h.properties hfields, ?_⟩
    rw [h.required]

theorem addSame (h : GatheredLike R gathered gathered') (hrefl : ∀ d, R d d) (node : Data) :
    BothYield (GatheredLike R) (gathered.add node) (gathered'.add node) := by
  cases hmembers : node.members with
  | error misuse =>
    simp only [Composition.Gathered.add, hmembers, error_bind]
    exact .fault misuse
  | ok entries =>
    have hadd : ∀ other : Composition.Gathered, other.add node = other.add (.map entries) := by
      intro other
      unfold Composition.Gathered.add
      rw [hmembers]
      rfl
    rw [hadd, hadd]
    refine h.addEntries (.refl (fun fields => ?_) _) rfl
    exact List.forall₂_same.mpr fun e _ => ⟨rfl, hrefl e.2⟩

theorem add (h : GatheredLike (ValueLike key) gathered gathered') {node node' : Data}
    (hnode : PartLike key node node') :
    BothYield (GatheredLike (ValueLike key)) (gathered.add node) (gathered'.add node') := by
  cases hnode with
  | changed hentries => exact h.addEntries hentries.properties hentries.required
  | same node => exact h.addSame .same node

theorem finish (h : GatheredLike R gathered gathered') {N : Entries Data → Entries Data → Prop}
    (hplain : N (Entries.erase es (.text "allOf")) (Entries.erase es' (.text "allOf")))
    (hproperties : ∀ own own', N own own' →
      N (Entries.put own (.text "properties") (.map gathered.properties))
        (Entries.put own' (.text "properties") (.map gathered'.properties)))
    (hrequired : ∀ own own' d, N own own' →
      N (Entries.put own (.text "required") d) (Entries.put own' (.text "required") d)) :
    N (gathered.finish es) (gathered'.finish es') := by
  have hempty : gathered.properties.isEmpty = gathered'.properties.isEmpty := by
    have hfields := h.properties
    generalize gathered.properties = fields at hfields ⊢
    generalize gathered'.properties = fields' at hfields ⊢
    cases hfields <;> rfl
  have hwith : N
      (if gathered.properties.isEmpty then Entries.erase es (.text "allOf")
        else Entries.put (Entries.erase es (.text "allOf")) (.text "properties")
          (.map gathered.properties))
      (if gathered'.properties.isEmpty then Entries.erase es' (.text "allOf")
        else Entries.put (Entries.erase es' (.text "allOf")) (.text "properties")
          (.map gathered'.properties)) := by
    rw [← hempty]
    split
    · exact hplain
    · exact hproperties _ _ hplain
  unfold Composition.Gathered.finish
  dsimp only
  rw [← h.required]
  split
  · exact hwith
  · exact hrequired _ _ _ hwith

end GatheredLike

inductive SourceLike (P : Data → Data → Prop) : Composition.Source → Composition.Source → Prop
  | named (target : String) : SourceLike P (.named target) (.named target)
  | inline {node node' : Data} (h : P node node') : SourceLike P (.inline node) (.inline node')

section Source

variable {P : Data → Data → Prop}

theorem source_same (hrefl : ∀ d, P d d) (fragment : Data) :
    BothYield (SourceLike P) (source fragment) (source fragment) := by
  refine .refl (fun found => ?_) _
  cases found with
  | named target => exact .named target
  | inline node => exact .inline (hrefl node)

theorem source_map (hreference : Entries.get? es (.text "$ref") = Entries.get? es' (.text "$ref"))
    (h : P (.map es) (.map es')) :
    BothYield (SourceLike P) (source (.map es)) (source (.map es')) := by
  have hhas : Entries.has es (.text "$ref") = Entries.has es' (.text "$ref") := by
    unfold Entries.has
    rw [hreference]
  have hvalue : Entries.value es "$ref" = Entries.value es' "$ref" := by
    unfold Entries.value
    rw [hreference]
  unfold Composition.source
  simp only [Data.mentions, orMisuse_ok, ok_bind, hhas, hvalue]
  split
  · cases Pointer.target (Entries.value es' "$ref") with
    | error fault => exact .fault fault
    | ok target => exact .value (.named target)
  · exact .value (.inline h)

end Source

theorem PartLike.source {fragment fragment' : Data} (h : PartLike key fragment fragment') :
    BothYield (SourceLike (PartLike key)) (source fragment) (source fragment') := by
  cases h with
  | same fragment => exact source_same .same fragment
  | changed h => exact source_map h.reference (.changed h)

namespace NodeLike

theorem fragments (h : NodeLike key es es') :
    BothYield (List.Forall₂ (PartLike key)) (Composition.fragments es)
      (Composition.fragments es') := by
  have hrefl : ∀ listed : List Data, List.Forall₂ (PartLike key) listed listed :=
    fun listed => List.forall₂_same.mpr fun d _ => .same d
  unfold Composition.fragments Entries.value
  rcases h.fragments_eq_or with heq | ⟨listed, listed', hlike, hd, hd'⟩
  · rw [heq]
    exact .refl hrefl _
  · rw [hd, hd']
    cases hlike with
    | nil => exact .value .nil
    | cons hfirst hrest => exact .value (.cons hfirst hrest)

private theorem put (h : NodeLike key es es') {word : String} {d d' : Data}
    (htype : word ≠ "type") (hformat : word ≠ "format")
    (hd : EntryLike key (.text word, d) (.text word, d')) :
    NodeLike key (Entries.put es (.text word) d) (Entries.put es' (.text word) d') where
  distinct := h.distinct.put _ _
  entries := by
    refine Entries.forall₂_put (fun _ _ hlike => hlike.name_eq) (fun k hk => ?_) hd h.entries
    rw [Scalar.same_text.mp hk]
    exact hd
  format := by
    rw [Entries.value_put_other htype.symm, Entries.value_put_other hformat.symm,
      Entries.value_put_other hformat.symm]
    exact h.format

theorem finish (h : NodeLike key es es') {gathered gathered' : Composition.Gathered}
    (hgathered : GatheredLike (ValueLike key) gathered gathered') :
    NodeLike key (gathered.finish es) (gathered'.finish es') := by
  refine hgathered.finish (h.erase "allOf") (fun own own' hown => ?_) fun own own' d hown => ?_
  · exact hown.put (by decide) (by decide) (.properties hgathered.properties)
  · exact hown.put (by decide) (by decide) (.same _)

end NodeLike

namespace Context

variable {lookup lookup' : Scalar → Except Fault Data}

/-- Gathering fragments that compare, where the definitions that they refer to do. -/
theorem gather_like {P : Data → Data → Prop}
    {G : Composition.Gathered → Composition.Gathered → Prop}
    (hsource : ∀ d d', P d d' → BothYield (SourceLike P) (source d) (source d'))
    (hadd : ∀ gathered gathered' node node', G gathered gathered' → P node node' →
      BothYield G (gathered.add node) (gathered'.add node')) {fragments fragments' : List Data}
    (hlookup : ∀ fragment ∈ fragments, ∀ target, source fragment = .ok (.named target) →
      BothYield P (lookup (.text target)) (lookup' (.text target)))
    (h : List.Forall₂ P fragments fragments') {gathered gathered' : Composition.Gathered}
    (hgathered : G gathered gathered') :
    BothYield G (gather lookup gathered fragments) (gather lookup' gathered' fragments') := by
  induction h generalizing gathered gathered' with
  | nil => exact .value hgathered
  | @cons fragment fragment' rest rest' hfirst _ ih =>
    obtain ⟨hlookup, hrest⟩ := List.forall_mem_cons.mp hlookup
    have hsources := hsource _ _ hfirst
    simp only [gather, ofExcept_eq]
    generalize source fragment' = outcome at hsources ⊢
    cases hfound : source fragment with
    | error fault =>
      rw [hfound] at hsources
      cases hsources
      exact .fault fault
    | ok found =>
      rw [hfound] at hsources
      cases hsources with
      | @value _ found' hsources =>
        have hnode : BothYield P (nodeOf lookup found) (nodeOf lookup' found') := by
          cases hsources with
          | named target => exact hlookup target hfound
          | inline hnode => exact .value hnode
        refine hnode.bind fun node node' hnode => ?_
        refine (hadd _ _ _ _ hgathered hnode).orMisuse.bind fun more more' hmore => ?_
        exact ih hrest hmore

/-- Two nodes have merged nodes that compile to the same, where the definitions that their fragments
refer to are read alike. -/
theorem merge_like (h : NodeLike key es es')
    (hlookup : ∀ fragments, Composition.fragments es = .ok fragments → ∀ fragment ∈ fragments,
      ∀ target, source fragment = .ok (.named target) →
        BothYield (PartLike key) (lookup (.text target)) (lookup' (.text target))) :
    BothYield (NodeLike key) (merge lookup (.map es)) (merge lookup' (.map es')) := by
  have hfragments := h.fragments
  simp only [merge, Data.members, orMisuse_ok, ofExcept_eq, ok_bind]
  generalize Composition.fragments es' = outcome at hfragments ⊢
  cases hfound : Composition.fragments es with
  | error misuse =>
    rw [hfound] at hfragments
    cases hfragments
    exact .fault _
  | ok fragments =>
    rw [hfound] at hfragments
    cases hfragments with
    | value hfragments =>
      simp only [orMisuse_ok, ok_bind]
      refine BothYield.bind (R := GatheredLike (ValueLike key)) ?_
        fun gathered gathered' hgathered => .value (h.finish hgathered)
      exact gather_like (fun _ _ hpart => hpart.source) (fun _ _ _ _ hgathered => hgathered.add)
        (hlookup fragments hfound) hfragments ⟨.nil, rfl⟩

end Context

end StoreSchema
