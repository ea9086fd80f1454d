import StoreSchema.Proofs.Embedding
import StoreSchema.Proofs.Merging
import StoreSchema.Proofs.SameRule
import StoreSchema.Proofs.Spelling

/-!
Facets that are attached to a compiled value, and properties with an extension block of facets.

The first facet that is attached to a list or to a map of fields wraps it, and every later one is
put beside that one. A block is laid on the property and the outcome is given its type; a default
that the property declares is attached after that. Main statements of this module: requiredness and
a default give one descriptor in either order and at once, with the same rule as before; and where
the overlay has a type, the property compiles to a descriptor of that type with the facets of the
block before its own, its own default apart.
-/

set_option autoImplicit false

namespace StoreSchema

namespace Value

variable {v : Value}

/-- The entries that facets are put into: those of a descriptor, and of any other value those of a
descriptor that it is the type of. -/
def descriptorOf : Value → Entries Value
  | .map entries =>
    if isDescriptor (.map entries) then entries else [(.text "type", .map entries)]
  | v => [(.text "type", v)]

theorem withFacets_eq (v : Value) (facets : Entries Value) :
    v.withFacets facets = .map (Entries.overlay v.descriptorOf facets) := by
  cases v with
  | map entries =>
    cases h : (Value.map entries).isDescriptor <;>
      simp [withFacets, descriptorOf, h]
  | _ => rfl

theorem descriptorOf_of_descriptor {entries : Entries Value}
    (h : (Value.map entries).isDescriptor = true) : (Value.map entries).descriptorOf = entries := by
  rw [descriptorOf, if_pos h]

theorem descriptorOf_of_plain (h : v.isDescriptor = false) :
    v.descriptorOf = [(.text "type", v)] := by
  cases v with
  | map entries => rw [descriptorOf, h, if_neg Bool.false_ne_true]
  | _ => rfl

theorem isDescriptor_descriptorOf (hv : v.canBeType = true) :
    (Value.map v.descriptorOf).isDescriptor = true := by
  cases h : v.isDescriptor with
  | false =>
    rw [descriptorOf_of_plain h]
    simpa [isDescriptor, Entries.get?_cons] using hv
  | true =>
    cases v with
    | map entries => rwa [descriptorOf_of_descriptor h]
    | _ => cases h

private theorem isDescriptor_overlay {entries facets : Entries Value}
    (h : (Value.map entries).isDescriptor = true)
    (hfacets : ∀ e ∈ facets, e.1.same (.text "type") = false) :
    (Value.map (Entries.overlay entries facets)).isDescriptor = true := by
  induction facets generalizing entries with
  | nil => exact h
  | cons facet rest ih =>
    obtain ⟨hfacet, hrest⟩ := List.forall_mem_cons.mp hfacets
    refine ih ?_ hrest
    simpa only [isDescriptor, Entries.get?_put_other _ _ hfacet] using h

/-- Facets attached one after another are attached at once. -/
theorem withFacets_withFacets (hv : v.canBeType = true) {facets : Entries Value}
    (hfacets : ∀ e ∈ facets, e.1.same (.text "type") = false) (more : Entries Value) :
    (v.withFacets facets).withFacets more = v.withFacets (facets ++ more) := by
  have hdescriptor := isDescriptor_overlay (isDescriptor_descriptorOf hv) hfacets
  rw [withFacets_eq v, withFacets_eq, descriptorOf_of_descriptor hdescriptor, withFacets_eq,
    Entries.overlay_append]

def requiredFacet (flag : Bool) : Entries Value := [(.text "required", .bool flag)]

def defaultFacet (default : Value) : Entries Value := [(.text "default", default)]

/-- The entries of a descriptor that a value is given in, with its requiredness and its default. -/
structure HeldBy (v : Value) (flag : Bool) (default : Value) (entries : Entries Value) : Prop where
  descriptor : (Value.map entries).isDescriptor = true
  /-- A value that is no descriptor, as a list or an embedded map, is the type of this one. -/
  wrapped : v.isDescriptor = false → Entries.get? entries (.text "type") = some v
  get?_eq : ∀ key, Entries.get? entries key =
    if (Scalar.text "required").same key then some (.bool flag)
    else if (Scalar.text "default").same key then some default
    else Entries.get? v.descriptorOf key
  rule : CollectionRule.ofField (.map entries) = CollectionRule.ofField v
  required : CollectionRule.isRequired (.map entries) = flag

private theorem get?_overlay_pair (own : Entries Value) {word other : String} (hne : word ≠ other)
    (facet facet' : Value) (key : Scalar) :
    Entries.get? (Entries.overlay own [(.text word, facet), (.text other, facet')]) key =
      if (Scalar.text word).same key then some facet
      else if (Scalar.text other).same key then some facet'
      else Entries.get? own key := by
  have hoverlay : Entries.overlay own [(.text word, facet), (.text other, facet')] =
      Entries.put (Entries.put own (.text word) facet) (.text other) facet' := rfl
  rw [hoverlay, Entries.get?_put, Entries.get?_put]
  cases hword : (Scalar.text word).same key with
  | false => rfl
  | true =>
    -- A key that is one of the two names is not the other.
    have hother : (Scalar.text other).same key = false := by
      rw [← Scalar.same_congr hword, Scalar.same_text_of_ne hne.symm]
    rw [hother]
    simp

private theorem get?_overlay_swap (own : Entries Value) {word other : String} (hne : word ≠ other)
    (facet facet' : Value) (key : Scalar) :
    Entries.get? (Entries.overlay own [(.text word, facet), (.text other, facet')]) key =
      Entries.get? (Entries.overlay own [(.text other, facet'), (.text word, facet)]) key := by
  rw [get?_overlay_pair own hne, get?_overlay_pair own hne.symm]
  cases hword : (Scalar.text word).same key with
  | false => rfl
  | true =>
    have hother : (Scalar.text other).same key = false := by
      rw [← Scalar.same_congr hword, Scalar.same_text_of_ne hne.symm]
    rw [hother]
    simp

private theorem ofField_withFacets_withFacets (hv : v.canBeType = true) {word other : String}
    (hword : word ≠ "type" ∧ word ≠ "enum") (hother : other ≠ "type" ∧ other ≠ "enum")
    (facet facet' : Value) :
    CollectionRule.ofField
        ((v.withFacets [(.text word, facet)]).withFacets [(.text other, facet')]) =
      CollectionRule.ofField v :=
  (ofField_withFacets (canBeType_withFacets v hword.1 facet) hother.1 hother.2 facet').trans
    (ofField_withFacets hv hword.1 hword.2 facet)

private theorem heldBy_of_pair (hv : v.canBeType = true) {flag : Bool} {default : Value}
    {entries : Entries Value}
    (hlookup : ∀ key, Entries.get? entries key =
      if (Scalar.text "required").same key then some (.bool flag)
      else if (Scalar.text "default").same key then some default
      else Entries.get? v.descriptorOf key)
    (hrule : CollectionRule.ofField (.map entries) = CollectionRule.ofField v)
    (hrequired : CollectionRule.isRequired (.map entries) = flag) :
    v.HeldBy flag default entries := by
  have htype :
      Entries.get? entries (.text "type") = Entries.get? v.descriptorOf (.text "type") := by
    rw [hlookup, if_neg (by decide), if_neg (by decide)]
  refine ⟨?_, fun hplain => ?_, hlookup, hrule, hrequired⟩
  · have hdescriptor := isDescriptor_descriptorOf hv
    simp only [isDescriptor] at hdescriptor ⊢
    rw [htype]
    exact hdescriptor
  · rw [htype, descriptorOf_of_plain hplain, Entries.get?_cons, if_pos (Scalar.same_refl _)]

/-- Facets never leak into fields: to a list, an embedded map or a plain mapping requiredness and a
default can be attached in either order or at once. The outcome is one descriptor, which holds the
value whole, and a collection checks it by the rule for the value, required as it was marked. -/
theorem facets_apart_from_fields
    (hv : (∃ items, v = .list items) ∨ (∃ fields, v = .embedded fields) ∨
      ∃ entries, v = .map entries) (flag : Bool) (default : Value) :
    ∃ entries entries' : Entries Value,
      (v.withFacets (requiredFacet flag)).withFacets (defaultFacet default) = .map entries ∧
      v.withFacets (requiredFacet flag ++ defaultFacet default) = .map entries ∧
      (v.withFacets (defaultFacet default)).withFacets (requiredFacet flag) = .map entries' ∧
      v.withFacets (defaultFacet default ++ requiredFacet flag) = .map entries' ∧
      (∀ key, Entries.get? entries key = Entries.get? entries' key) ∧
      v.HeldBy flag default entries ∧ v.HeldBy flag default entries' := by
  have hcan : v.canBeType = true := by
    rcases hv with ⟨items, rfl⟩ | ⟨fields, rfl⟩ | ⟨entries, rfl⟩ <;> rfl
  have hrequiredFacet : ∀ e ∈ requiredFacet flag, e.1.same (.text "type") = false :=
    List.forall_mem_singleton.mpr (Scalar.same_text_of_ne (by decide))
  have hdefaultFacet : ∀ e ∈ defaultFacet default, e.1.same (.text "type") = false :=
    List.forall_mem_singleton.mpr (Scalar.same_text_of_ne (by decide))
  have hfirst := withFacets_withFacets hcan hrequiredFacet (defaultFacet default)
  have hsecond := withFacets_withFacets hcan hdefaultFacet (requiredFacet flag)
  have hlookup := get?_overlay_pair v.descriptorOf (by decide : "required" ≠ "default")
    (.bool flag) default
  have hlookup' : ∀ key, Entries.get?
      (Entries.overlay v.descriptorOf (defaultFacet default ++ requiredFacet flag)) key =
      if (Scalar.text "required").same key then some (.bool flag)
      else if (Scalar.text "default").same key then some default
      else Entries.get? v.descriptorOf key := fun key => by
    rw [← hlookup key]
    exact get?_overlay_swap v.descriptorOf (by decide) default (.bool flag) key
  refine ⟨Entries.overlay v.descriptorOf (requiredFacet flag ++ defaultFacet default),
    Entries.overlay v.descriptorOf (defaultFacet default ++ requiredFacet flag),
    hfirst.trans (withFacets_eq v _), withFacets_eq v _, hsecond.trans (withFacets_eq v _),
    withFacets_eq v _, fun key => (hlookup key).trans (hlookup' key).symm,
    heldBy_of_pair hcan hlookup ?_ ?_, heldBy_of_pair hcan hlookup' ?_ ?_⟩
  all_goals rw [← withFacets_eq]
  · rw [← hfirst]
    exact ofField_withFacets_withFacets hcan (by decide) (by decide) _ _
  · rw [← hfirst]
    exact (isRequired_withFacets _ (by decide) (by decide) _).trans
      (isRequired_withRequired hcan flag)
  · rw [← hsecond]
    exact ofField_withFacets_withFacets hcan (by decide) (by decide) _ _
  · rw [← hsecond]
    exact isRequired_withRequired (canBeType_withFacets v (by decide) _) flag

/-- The fields of an object that is stored with a type, a flag and a default of its own. -/
def namedAsFacets : Value :=
  .embedded [(.text "type", .map [(.text "type", .type .text)]),
    (.text "required", .map [(.text "type", .type .flag)]),
    (.text "default", .map [(.text "type", .type .number)])]

/-- Fields that are named as facets are stay fields of the object that the facets are attached
to. -/
theorem namedAsFacets_apart : ∃ entries,
    (namedAsFacets.withFacets (requiredFacet true)).withFacets (defaultFacet (.map [])) =
      .map entries ∧
    Entries.get? entries (.text "type") = some namedAsFacets ∧
    CollectionRule.ofField (.map entries) = CollectionRule.ofField namedAsFacets ∧
    CollectionRule.isRequired (.map entries) = true := by
  obtain ⟨entries, -, hentries, -, -, -, -, hheld, -⟩ :=
    facets_apart_from_fields (Or.inr (Or.inl ⟨_, rfl⟩) : _ ∨ (∃ fields, namedAsFacets = _) ∨ _)
      true (.map [])
  exact ⟨entries, hentries, hheld.wrapped rfl, hheld.rule, hheld.required⟩

end Value

namespace Entries

variable {α : Type} {es upper : Entries α}

theorem get?_overlay_of_distinct (h : DistinctKeys upper) (es : Entries α) (key : Scalar) :
    get? (overlay es upper) key = (get? upper key).or (get? es key) := by
  rw [get?_overlay, ← get?_perm h upper.reverse_perm.symm]

end Entries

namespace FieldType

variable {entries : Entries Data} {t : FieldType}

theorem isSimple_of_ok (h : ofEntries entries = .ok t) : isSimple (.map entries) = true := by
  rw [ofEntries_eq] at h
  rw [isSimple]
  split at h
  · next name htype =>
    rw [htype]
    split at h
    · next hnumber => rw [hnumber]; rfl
    · split at h
      · next harray => rw [harray]; rfl
      · split at h
        · next storage hstorage =>
          obtain ⟨before, after, hlisted, -⟩ := List.lookup_eq_some_iff.mp hstorage
          have hmem : name ∈ scalarTypes.map Prod.fst := by simp [hlisted]
          simp only [isTypeName, List.contains_eq_mem, decide_eq_true_eq]
          exact typeNames_perm.mem_iff.mpr (List.mem_cons_of_mem _ (List.mem_cons_of_mem _ hmem))
        · cases h
  · cases h

theorem canBeType_toValue (t : FieldType) : t.toValue.canBeType = true := by
  cases t <;> rfl

end FieldType

namespace Value

def typeSources : List String := ["items", "format"]

theorem get?_ofEntries (entries : Entries Data) (key : Scalar) :
    Entries.get? (ofEntries entries) key = (Entries.get? entries key).map ofData := by
  induction entries with
  | nil => rfl
  | cons e rest ih =>
    obtain ⟨k, d⟩ := e
    rw [ofEntries, Entries.get?_cons, Entries.get?_cons, ih]
    split <;> rfl

/-- The entries of a descriptor of a type and of the given facets. What the type was read from is no
facet. -/
structure Describes (t : FieldType) (facet : Scalar → Option Data) (entries : Entries Value) :
    Prop where
  type : Entries.get? entries (.text "type") = some t.toValue
  source : ∀ word ∈ typeSources, Entries.get? entries (.text word) = none
  get?_eq : ∀ key : Scalar, (Scalar.text "type").same key = false →
    (∀ word ∈ typeSources, (Scalar.text word).same key = false) →
    Entries.get? entries key = (facet key).map ofData

namespace Describes

variable {t : FieldType} {facet facet' : Scalar → Option Data} {entries : Entries Value}

theorem isDescriptor (h : Describes t facet entries) :
    (Value.map entries).isDescriptor = true := by
  rw [Value.isDescriptor, h.type]
  exact t.canBeType_toValue

theorem put (h : Describes t facet entries) {word : String} (htype : word ≠ "type")
    (hsource : word ∉ typeSources) (d : Data) :
    Describes t (fun key => if (Scalar.text word).same key then some d else facet key)
      (Entries.put entries (.text word) (ofData d)) where
  type := by rw [Entries.get?_put_other _ _ (Scalar.same_text_of_ne htype), h.type]
  source other hother := by
    have hne : word ≠ other := fun heq => hsource (heq ▸ hother)
    rw [Entries.get?_put_other _ _ (Scalar.same_text_of_ne hne), h.source other hother]
  get?_eq key hkey hkeys := by
    rw [Entries.get?_put, h.get?_eq key hkey hkeys]
    split <;> rfl

theorem withFacets_put (h : Describes t facet entries) (word : String) (v : Value) :
    (Value.map entries).withFacets [(.text word, v)] =
      .map (Entries.put entries (.text word) v) := by
  rw [Value.withFacets_eq, descriptorOf_of_descriptor h.isDescriptor]
  rfl

theorem congr (h : Describes t facet entries) (hfacet : ∀ key, facet key = facet' key) :
    Describes t facet' entries where
  type := h.type
  source := h.source
  get?_eq key hkey hkeys := (h.get?_eq key hkey hkeys).trans (by rw [hfacet])

end Describes

/-- The entries of a node with its type mapped. -/
def retyped (t : FieldType) (entries : Entries Data) : Entries Value :=
  Entries.erase (Entries.erase (Entries.put (ofEntries entries) (.text "type") t.toValue)
    (.text "items")) (.text "format")

theorem describes_retyped (t : FieldType) (entries : Entries Data) :
    Describes t (Entries.get? entries) (retyped t entries) where
  type := by
    rw [retyped, Entries.get?_erase_other (by decide), Entries.get?_erase_other (by decide),
      Entries.get?_put_same]
  source word hword := by
    rcases List.mem_cons.mp hword with rfl | hword
    · rw [retyped, Entries.get?_erase_other (by decide), Entries.get?_erase_same]
    · rw [List.mem_singleton.mp hword, retyped, Entries.get?_erase_same]
  get?_eq key hkey hkeys := by
    rw [retyped, Entries.get?_erase_other (hkeys "format" (by decide)),
      Entries.get?_erase_other (hkeys "items" (by decide)), Entries.get?_put_other _ _ hkey,
      get?_ofEntries]

end Value

theorem Shape.ofProperty_of_block {key : String} {entries block : Entries Data}
    (hblock : Entries.value entries key = .map block) (hne : block ≠ []) :
    ofProperty key (.map entries) =
      withDefaultOf entries (.override (.map block) (.map entries) false) := by
  have htruthy : (Data.map block).isTruthy = true := by
    simpa [Data.isTruthy] using hne
  have hform : Form.ofEntries key entries = .override (.map block) (.map entries) false := by
    rw [Form.ofEntries, hblock, if_pos htruthy]
  rw [ofProperty_map, hform]
  rfl

namespace Context

variable {ctx : Context} {base block entries : Entries Data} {t : FieldType}

/-- The node without its own block, with the facets of a block laid on it. -/
def laidOver (ctx : Context) (base block : Entries Data) : Entries Data :=
  Entries.overlay (Entries.erase base (.text ctx.extensionKey)) block

/-- A block of facets makes of a node a descriptor of the type of the overlay. -/
theorem override_of_typed (hreference : ctx.overrideReference block base = none)
    (hvalidator : (Entries.value block "validator").isTruthy = false)
    (htype : FieldType.ofEntries (ctx.laidOver base block) = .ok t) (many : Bool) :
    ctx.override (.map block) (.map base) many =
      .ok ((Value.map (Value.retyped t (ctx.laidOver base block))).manyOf many) := by
  have hsimple := FieldType.isSimple_of_ok htype
  unfold laidOver at htype hsimple ⊢
  simp only [override, Data.members, orMisuse_ok, ok_bind, hreference, hvalidator, mapSimple,
    hsimple, htype, if_true, Bool.false_eq_true, if_false]
  rfl

/-- A property with a block of its own compiles to what the block makes of it, with the facets that
the owner and the property itself give. -/
theorem compilePropertyWith_of_override {m : Type → Type} [Monad m] [LawfulMonad m]
    [MonadExceptOf Fault m] {v : Value}
    (hblock : Entries.value entries ctx.extensionKey = .map block)
    (hne : block ≠ []) (hoverride : ctx.override (.map block) (.map entries) false = .ok v)
    (resolve : Resolve m) {field : Scalar} (hfield : ctx.isReserved field = false)
    (required : Data) (owner : Scalar) :
    ctx.compilePropertyWith resolve (.map entries) field required owner =
      pure (some (v.withOwnFacets entries field required)) := by
  rw [compilePropertyWith, hfield, if_neg Bool.false_ne_true, Shape.ofProperty_of_block hblock hne,
    Shape.withDefaultOf, Value.withOwnFacets]
  cases Entries.get? entries (.text "default") with
  | none =>
    simp only [compileShape, hoverride, Compile.ofExcept, pure_bind]
  | some default =>
    simp only [compileShape, hoverride, Compile.ofExcept, pure_bind, Option.map_some]

/-- The facets of a property with a block: its own default comes first, and every other facet of the
block before the facet that the property has itself. -/
def facetOf (ctx : Context) (entries block : Entries Data) (key : Scalar) : Option Data :=
  if (Scalar.text "default").same key then
    (Entries.get? entries key).or (Entries.get? block key)
  else
    (Entries.get? block key).or (Entries.get? (Entries.erase entries (.text ctx.extensionKey)) key)

private theorem facetOf_eq (hblock : Entries.DistinctKeys block) (key : Scalar) :
    ctx.facetOf entries block key =
      match Entries.get? entries (.text "default") with
      | some default =>
        if (Scalar.text "default").same key then some default
        else Entries.get? (ctx.laidOver entries block) key
      | none => Entries.get? (ctx.laidOver entries block) key := by
  rw [facetOf, laidOver, Entries.get?_overlay_of_distinct hblock]
  cases hkey : (Scalar.text "default").same key with
  | false => cases Entries.get? entries (.text "default") <;> rfl
  | true =>
    rw [if_pos rfl, ← Entries.get?_same hkey, ← Entries.get?_same hkey, ← Entries.get?_same hkey]
    cases hdefault : Entries.get? entries (.text "default") with
    | some default => rfl
    | none =>
      have herased : Entries.get? (Entries.erase entries (.text ctx.extensionKey))
          (.text "default") = none := by
        cases hown : (Scalar.text ctx.extensionKey).same (.text "default") with
        | true => rw [← Entries.get?_same hown, Entries.get?_erase_same]
        | false => rw [Entries.get?_erase_other hown, hdefault]
      rw [herased, Option.or_none]
      rfl

section Typed

variable (hversion : ctx.isLegacy = false)
  (hblock : Entries.value entries ctx.extensionKey = .map block) (hne : block ≠ [])
  (hreference : (Entries.value block "$ref").isTruthy = false)
  (hvalidator : (Entries.value block "validator").isTruthy = false)
  (htype : FieldType.ofEntries (ctx.laidOver entries block) = .ok t) {field : Scalar}
  (hfield : ctx.isReserved field = false)

include hversion hblock hne hreference hvalidator htype hfield

/-- A property whose overlay has a type compiles to the overlay with its type mapped, and with the
default of the property. -/
theorem compileProperty_of_typed (owner : Scalar) :
    ctx.compileProperty (.map entries) field .null owner =
      pure (some ((Value.map (Value.retyped t (ctx.laidOver entries block))).withOwnFacets
        entries field .null)) := by
  have hnone : ctx.overrideReference block entries = none := by
    rw [overrideReference, hversion, if_neg Bool.false_ne_true]
    simp only [hreference, Bool.false_eq_true, if_false]
  exact compilePropertyWith_of_override hblock hne (override_of_typed hnone hvalidator htype false)
    (ctx.resolveInRun Compile.within) hfield .null owner

/-- The facets of a block come before those of the property that it stands on, except that a default
of the property comes before that of the block. What the overlay is mapped to is the type of the
descriptor, and what the type was read from is left out. -/
theorem compileProperty_overridden (hkeys : Entries.DistinctKeys block) (owner : Scalar) :
    ∃ compiled, ctx.compileProperty (.map entries) field .null owner =
        pure (some (.map compiled)) ∧
      (Value.map compiled).isDescriptor = true ∧
      Value.Describes t (ctx.facetOf entries block) compiled := by
  have hdescribes := Value.describes_retyped t (ctx.laidOver entries block)
  have hfacet := @facetOf_eq ctx block entries hkeys
  rw [compileProperty_of_typed hversion hblock hne hreference hvalidator htype hfield,
    Value.withOwnFacets]
  cases hdefault : Entries.get? entries (.text "default") with
  | none =>
    simp only [hdefault] at hfacet
    have hfinal := hdescribes.congr fun key => (hfacet key).symm
    exact ⟨_, rfl, hfinal.isDescriptor, hfinal⟩
  | some default =>
    simp only [hdefault] at hfacet
    have hput := hdescribes.put (by decide : "default" ≠ "type") (by decide) default
    have hfinal := hput.congr fun key => (hfacet key).symm
    refine ⟨_, ?_, hfinal.isDescriptor, hfinal⟩
    exact congrArg (fun v => pure (some v)) (hdescribes.withFacets_put "default" _)

end Typed

def current : Context where
  definitions := []
  version := Number.Binary64.ofInt? 2

/-- A property with facets of its own and a block of facets. -/
def withBlock (own block : Entries Data) : Entries Data :=
  (.text "type", .text "string") :: own ++ [(.text "x-swagger-mongoose", .map block)]

private theorem ofEntries_string {entries : Entries Data}
    (h : Entries.value entries "type" = .text "string") :
    FieldType.ofEntries entries = .ok (.scalar .text) := by
  rw [FieldType.ofEntries_eq, h]
  rfl

/-- The facets of a block reach a property beside those that it has. -/
theorem role_overridden :
    ∃ compiled, current.compileProperty
        (.map (withBlock [(.text "enum", .list [.text "user"]), (.text "required", .bool false)]
          [(.text "required", .bool true), (.text "default", .text "user")]))
        (.text "role") .null (.text "Person") = pure (some (.map compiled)) ∧
      Entries.get? compiled (.text "type") = some (.type .text) ∧
      Entries.get? compiled (.text "required") = some (.bool true) ∧
      Entries.get? compiled (.text "default") = some (.text "user") ∧
      Entries.get? compiled (.text "enum") = some (.list [.text "user"]) := by
  obtain ⟨compiled, hcompiled, -, hdescribes⟩ := compileProperty_overridden
    (by rfl : current.isLegacy = false)
    (by rfl : Entries.value (withBlock [(.text "enum", .list [.text "user"]),
      (.text "required", .bool false)] [(.text "required", .bool true),
      (.text "default", .text "user")]) current.extensionKey = .map _)
    (List.cons_ne_nil _ _) (by rfl) (by rfl) (ofEntries_string (by rfl))
    (by rfl : current.isReserved (.text "role") = false) (by decide) (.text "Person")
  refine ⟨compiled, hcompiled, hdescribes.type, ?_, ?_, ?_⟩
  all_goals
    rw [hdescribes.get?_eq _ (by decide) (by decide)]
    rfl

/-- A property keeps its default where its block has another one. -/
theorem default_not_overridden :
    ∃ compiled, current.compileProperty
        (.map (withBlock [(.text "default", .text "user")] [(.text "default", .text "guest")]))
        (.text "role") .null (.text "Person") = pure (some (.map compiled)) ∧
      Entries.get? compiled (.text "default") = some (.text "user") := by
  refine ⟨[(.text "type", .type .text), (.text "default", .text "user")], ?_, rfl⟩
  rw [compileProperty_of_typed (by rfl : current.isLegacy = false)
    (by rfl : Entries.value (withBlock [(.text "default", .text "user")]
      [(.text "default", .text "guest")]) current.extensionKey = .map _)
    (List.cons_ne_nil _ _) (by rfl) (by rfl) (ofEntries_string (by rfl))
    (by rfl : current.isReserved (.text "role") = false)]
  rfl

end Context

end StoreSchema
