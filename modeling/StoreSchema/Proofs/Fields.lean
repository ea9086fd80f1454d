import StoreSchema.Compile.Definition
import StoreSchema.Proofs.Keys
import StoreSchema.Proofs.Meaning
import StoreSchema.Proofs.Shapes
import StoreSchema.Storage.CollectionRule

set_option autoImplicit false

namespace StoreSchema

/-- What the owner of a field says about required fields holds of the field. -/
def Data.requires (required : Data) (field : Scalar) : Bool :=
  match required with
  | .bool flag => flag
  | .list names => names.any (·.isScalar field)
  | .pair first second _ => first.isScalar field || second.isScalar field
  | .set names _ => names.any (·.same field)
  | _ => false

namespace Value

theorem fillRequired_cases (field : Scalar) (required : Data) :
    required.requires field = false ∧ (∀ v : Value, v.fillRequired field required = v) ∨
      ∀ v : Value, v.fillRequired field required = v.withRequired (required.requires field) := by
  have hif : ∀ flag : Bool, flag = false ∧ (∀ v : Value,
      (if flag then v.withRequired true else v) = v) ∨
        ∀ v : Value, (if flag then v.withRequired true else v) = v.withRequired flag := by
    intro flag
    cases flag with
    | true => exact Or.inr fun v => rfl
    | false => exact Or.inl ⟨rfl, fun v => rfl⟩
  cases required with
  | scalar s =>
    cases s with
    | bool flag => exact Or.inr fun v => rfl
    | _ => exact Or.inl ⟨rfl, fun v => rfl⟩
  | list names => exact hif _
  | pair first second origin => exact hif _
  | set names origin => exact hif _
  | map entries => exact Or.inl ⟨rfl, fun v => rfl⟩
  | recurrence isMap => exact Or.inl ⟨rfl, fun v => rfl⟩

/-- A facet of a descriptor: whether it is required, a default, or the values it is restricted
to. -/
inductive IsFacet : Scalar → Value → Prop
  | required (flag : Bool) : IsFacet (.text "required") (.bool flag)
  | default (d : Data) : IsFacet (.text "default") (ofData d)
  | choices (values : List Data) : IsFacet (.text "enum") (.list (ofItems values))

structure AreFacets (facets : Entries Value) : Prop where
  each : ∀ e ∈ facets, IsFacet e.1 e.2
  distinct : (Entries.keys facets).Nodup

def isBare : Value → Bool
  | .type _ => true
  | _ => false

def isPlainMap : Value → Bool
  | .map _ => true
  | _ => false

/-- The values that definitions compile to; an array may hold nothing but null where there may be
gaps. -/
inductive WellFormed (gaps : Prop) : Value → Prop
  | storage (storage : StorageType) : WellFormed gaps (.type storage)
  | array {item : Value} (hitem : WellFormed gaps item) : WellFormed gaps (.list [item])
  | gap (h : gaps) : WellFormed gaps (.list [.scalar .null])
  | embedded {fields : List (Scalar × Value)} (hfields : ∀ e ∈ fields, WellFormed gaps e.2)
      (hbare : ∀ e ∈ fields, e.2.isBare = false) : WellFormed gaps (.embedded fields)
  | descriptor {type : Value} {facets : List (Scalar × Value)} (htype : WellFormed gaps type)
      (hplain : type.isPlainMap = false) (hfacets : AreFacets facets) :
      WellFormed gaps (.map ((.text "type", type) :: facets))
  | reference {target : String} {facets : List (Scalar × Value)} (hfacets : AreFacets facets) :
      WellFormed gaps (.map ((.text "type", .type .identifier) ::
        (.text "ref", .text target) :: facets))

variable {gaps : Prop} {v : Value} {name : Scalar} {facet : Value} {facets : Entries Value}

theorem areFacets_nil : AreFacets [] where
  each _ he := by cases he
  distinct := List.nodup_nil

theorem areFacets_singleton (h : IsFacet name facet) : AreFacets [(name, facet)] where
  each e he := by
    rw [List.mem_singleton.mp he]
    exact h
  distinct := by simp [Entries.keys]

namespace IsFacet

theorem same_eq_false (h : IsFacet name facet) (word : String) (hword : word ∈ ["type", "ref"]) :
    (Scalar.text word).same name = false := by
  rcases List.mem_cons.mp hword with rfl | hword
  · cases h <;> decide
  · rw [List.mem_singleton.mp hword]
    cases h <;> decide

theorem put_type (h : IsFacet name facet) (type : Value) (entries : Entries Value) :
    Entries.put ((.text "type", type) :: entries) name facet =
      (.text "type", type) :: Entries.put entries name facet := by
  have hother := h.same_eq_false "type" (by decide)
  simp only [Entries.put, hother, Bool.false_eq_true, if_false]

theorem put_ref (h : IsFacet name facet) (target : Value) (entries : Entries Value) :
    Entries.put ((.text "ref", target) :: entries) name facet =
      (.text "ref", target) :: Entries.put entries name facet := by
  have hother := h.same_eq_false "ref" (by decide)
  simp only [Entries.put, hother, Bool.false_eq_true, if_false]

theorem of_same (h : IsFacet name facet) {other : Scalar} (hsame : other.same name = true) :
    other = name := by
  cases h <;> exact Scalar.same_text.mp hsame

end IsFacet

theorem AreFacets.put (hfacets : AreFacets facets) (h : IsFacet name facet) :
    AreFacets (Entries.put facets name facet) where
  each := Entries.forall_put IsFacet
    (fun hsame hother => hother.of_same hsame ▸ hother) hfacets.each h
  distinct := Entries.nodup_put hfacets.distinct name facet

theorem WellFormed.canBeType (h : v.WellFormed gaps) (hplain : v.isPlainMap = false) :
    v.canBeType = true := by
  cases h with
  | storage | array _ | gap _ | embedded _ _ => rfl
  | descriptor _ _ _ | reference _ => cases hplain

theorem WellFormed.withFacet_cases (h : v.WellFormed gaps) (hfacet : IsFacet name facet) :
    (∃ (type : Value) (facets : Entries Value), v = .map ((.text "type", type) :: facets) ∧
      type.canBeType = true ∧ v.withFacets [(name, facet)] =
        .map ((.text "type", type) :: Entries.put facets name facet)) ∨
    v.isPlainMap = false ∧
      v.withFacets [(name, facet)] = .map [(.text "type", v), (name, facet)] := by
  have hwrap : Entries.overlay [(.text "type", v)] [(name, facet)] =
      [(.text "type", v), (name, facet)] := hfacet.put_type v []
  have hdescriptor : ∀ (type : Value) (facets : Entries Value), type.canBeType = true →
      (Value.map ((.text "type", type) :: facets)).withFacets [(name, facet)] =
        .map ((.text "type", type) :: Entries.put facets name facet) := by
    intro type facets htype
    have his : isDescriptor (.map ((.text "type", type) :: facets)) = true := htype
    rw [withFacets, if_pos his, Entries.overlay, List.foldl_cons, List.foldl_nil,
      hfacet.put_type]
  cases h with
  | storage | array _ | gap _ | embedded _ _ => exact Or.inr ⟨rfl, congrArg Value.map hwrap⟩
  | descriptor htype hplain hfacets =>
    exact Or.inl ⟨_, _, rfl, htype.canBeType hplain, hdescriptor _ _ (htype.canBeType hplain)⟩
  | reference hfacets => exact Or.inl ⟨_, _, rfl, rfl, hdescriptor _ _ rfl⟩

/-- A value of the grammar with a facet is one of the grammar, and is no bare storage type. -/
theorem WellFormed.withFacet (h : v.WellFormed gaps) (hfacet : IsFacet name facet) :
    (v.withFacets [(name, facet)]).WellFormed gaps ∧
      (v.withFacets [(name, facet)]).isBare = false := by
  rcases h.withFacet_cases hfacet with ⟨type, facets, rfl, -, heq⟩ | ⟨hplain, heq⟩
  · rw [heq]
    refine ⟨?_, rfl⟩
    cases h with
    | descriptor htype hplain hfacets => exact .descriptor htype hplain (hfacets.put hfacet)
    | reference hfacets =>
      rw [hfacet.put_ref]
      exact .reference (hfacets.put hfacet)
  · rw [heq]
    exact ⟨.descriptor h hplain (areFacets_singleton hfacet), rfl⟩

private theorem isRequired_descriptor {type : Value} (htype : type.canBeType = true)
    (facets : Entries Value) :
    CollectionRule.isRequired (.map ((.text "type", type) :: facets)) = true ↔
      Entries.get? facets (.text "required") = some (.bool true) := by
  have his : isDescriptor (.map ((.text "type", type) :: facets)) = true := htype
  have hother : (Scalar.text "type").same (.text "required") = false := by decide
  rw [CollectionRule.isRequired_map, Entries.get?_cons, hother, if_neg Bool.false_ne_true]
  exact and_iff_right his

theorem isRequired_of_not_plainMap (h : v.isPlainMap = false) :
    CollectionRule.isRequired v = false := by
  cases v with
  | map entries => cases h
  | _ => rfl

theorem WellFormed.isRequired_withRequired (h : v.WellFormed gaps) (flag : Bool) :
    CollectionRule.isRequired (v.withRequired flag) = flag := by
  rw [Bool.eq_iff_iff]
  rcases h.withFacet_cases (.required flag) with ⟨type, facets, rfl, htype, heq⟩ | ⟨hplain, heq⟩
  · rw [withRequired, heq, isRequired_descriptor htype, Entries.get?_put_same]
    simp
  · rw [withRequired, heq, isRequired_descriptor (h.canBeType hplain), Entries.get?_cons,
      if_pos (Scalar.same_refl _)]
    simp

theorem WellFormed.isRequired_withDefault (h : v.WellFormed gaps) (d : Data) :
    CollectionRule.isRequired (v.withDefault d) = CollectionRule.isRequired v := by
  have hother : (Scalar.text "default").same (.text "required") = false := by decide
  rw [Bool.eq_iff_iff]
  rcases h.withFacet_cases (.default d) with ⟨type, facets, rfl, htype, heq⟩ | ⟨hplain, heq⟩
  · rw [withDefault, heq, isRequired_descriptor htype, isRequired_descriptor htype,
      Entries.get?_put_other _ _ hother]
  · rw [withDefault, heq, isRequired_descriptor (h.canBeType hplain), Entries.get?_cons, hother,
      if_neg Bool.false_ne_true, Entries.get?_nil, isRequired_of_not_plainMap hplain]
    simp

/-- A field of a compiled map: a value of the grammar that is no bare storage type, and whether it
is required. -/
structure IsField (gaps : Prop) (required : Bool) (v : Value) : Prop where
  wellFormed : v.WellFormed gaps
  bare : v.isBare = false
  required : CollectionRule.isRequired v = required

theorem IsField.fillRequired (h : v.IsField gaps false) (field : Scalar) (required : Data) :
    (v.fillRequired field required).IsField gaps (required.requires field) := by
  rcases fillRequired_cases field required with ⟨hnone, hfill⟩ | hfill
  · rw [hnone, hfill]
    exact h
  · rw [hfill]
    exact
      { wellFormed := (h.wellFormed.withFacet (.required _)).1
        bare := (h.wellFormed.withFacet (.required _)).2
        required := h.wellFormed.isRequired_withRequired _ }

theorem IsField.withDefault {required : Bool} (h : v.IsField gaps required) (d : Data) :
    (v.withDefault d).IsField gaps required where
  wellFormed := (h.wellFormed.withFacet (.default d)).1
  bare := (h.wellFormed.withFacet (.default d)).2
  required := (h.wellFormed.isRequired_withDefault d).trans h.required

theorem isField_array (h : (Value.list [v]).WellFormed gaps) :
    (Value.list [v]).IsField gaps false where
  wellFormed := h
  bare := rfl
  required := rfl

theorem isField_embedded {fields : Entries Value} {required : Scalar → Bool}
    (h : ∀ e ∈ fields, e.2.IsField gaps (required e.1)) :
    (Value.embedded fields).IsField gaps false where
  wellFormed := .embedded (fun e he => (h e he).wellFormed) fun e he => (h e he).bare
  bare := rfl
  required := rfl

theorem isField_referenceTo (target : String) :
    (Value.referenceTo target true).IsField gaps false where
  wellFormed := .reference areFacets_nil
  bare := rfl
  required := rfl

theorem IsField.manyOf (h : v.IsField gaps false) (many : Bool) :
    (v.manyOf many).IsField gaps false := by
  cases many with
  | true => exact isField_array (.array h.wellFormed)
  | false => exact h

end Value

namespace FieldType

theorem wellFormed_toValue (gaps : Prop) (type : FieldType) : type.toValue.WellFormed gaps := by
  induction type with
  | scalar storage => exact .storage storage
  | listOf item ih => exact .array ih

end FieldType

namespace Context

theorem isField_typedDescriptor (gaps : Prop) (type : FieldType) (choices : Option (List Data)) :
    (typedDescriptor type choices).IsField gaps false where
  wellFormed := by
    have hplain : type.toValue.isPlainMap = false := by cases type <;> rfl
    cases choices with
    | none => exact .descriptor (type.wellFormed_toValue gaps) hplain Value.areFacets_nil
    | some values =>
      exact .descriptor (type.wellFormed_toValue gaps) hplain
        (Value.areFacets_singleton (.choices values))
  bare := rfl
  required := by
    have htype : type.toValue.canBeType = true := by cases type <;> rfl
    have hother : (Scalar.text "enum").same (.text "required") = false := by decide
    cases choices with
    | none => simp [Bool.eq_false_iff, typedDescriptor, Value.isRequired_descriptor htype]
    | some values =>
      simp [Bool.eq_false_iff, typedDescriptor, Value.isRequired_descriptor htype,
        Entries.get?_cons, hother]

end Context

/-- A property that is a composition and no reference. -/
def Data.isComposition : Data → Bool
  | .map entries =>
    (Entries.value entries "allOf").isTruthy && (Form.referenceOf entries).isNull
  | _ => false

theorem Form.eq_composed_iff {key : String} {entries : Entries Data}
    (h : ∀ extension base many, ofEntries key entries ≠ .override extension base many) :
    ofEntries key entries = .composed ↔ (Data.map entries).isComposition = true := by
  rw [Data.isComposition]
  unfold ofEntries at h ⊢
  dsimp only at h ⊢
  cases hown : (Entries.value entries key).isTruthy with
  | true => exact absurd (if_pos hown) (h _ _ _)
  | false =>
    rw [if_neg Bool.false_ne_true]
    cases hitems : ((Entries.value entries "items").value key).isTruthy with
    | true =>
      rw [hown, if_neg Bool.false_ne_true] at h
      exact absurd (if_pos hitems) (h _ _ _)
    | false =>
      rw [if_neg Bool.false_ne_true]
      cases (referenceOf entries).isNull with
      | false =>
        rw [Bool.and_false, if_pos (by rfl)]
        split <;> simp
      | true =>
        rw [Bool.and_true, if_neg (by decide)]
        cases (Entries.value entries "allOf").isTruthy with
        | true => simp
        | false =>
          rw [if_neg Bool.false_ne_true]
          split
          · simp
          · split <;> simp

namespace Shape

mutual
/-- No extension block is read in the shape, and its references lead to definitions of a set. -/
def Plain (reached : String → Prop) : Shape → Prop
  | .override _ _ _ => False
  | .reference target _ => reached target
  | .fields _ members => PlainMembers reached members
  | .withDefault shape _ => Plain reached shape
  | _ => True

def PlainMembers (reached : String → Prop) : List (Scalar × Shape) → Prop
  | [] => True
  | (_, shape) :: rest => Plain reached shape ∧ PlainMembers reached rest
end

theorem plainMembers_iff {reached : String → Prop} {members : List (Scalar × Shape)} :
    PlainMembers reached members ↔ ∀ e ∈ members, e.2.Plain reached := by
  induction members with
  | nil => simp [PlainMembers]
  | cons e rest ih =>
    obtain ⟨name, shape⟩ := e
    simp [PlainMembers, ih]

def isOmitted : Shape → Bool
  | .composed => true
  | .withDefault shape _ => isOmitted shape
  | _ => false

theorem isOmitted_withDefaultOf (entries : Entries Data) (shape : Shape) :
    (withDefaultOf entries shape).isOmitted = shape.isOmitted := by
  unfold withDefaultOf
  split
  · simp only [isOmitted]
  · rfl

theorem plain_withDefaultOf {reached : String → Prop} {entries : Entries Data} {shape : Shape} :
    (withDefaultOf entries shape).Plain reached ↔ shape.Plain reached := by
  unfold withDefaultOf
  split
  · simp only [Plain]
  · rfl

theorem isOmitted_ofNode (key : String) (entries : Entries Data) :
    (ofNode key entries).isOmitted = false := by
  rw [ofNode]
  split
  · rfl
  · split
    · rfl
    · split <;> rfl
  · rfl
  · rfl

/-- Where no extension block is read, a property is left out exactly if it is a composition. -/
theorem isOmitted_ofProperty {reached : String → Prop} {key : String} {d : Data}
    (h : (ofProperty key d).Plain reached) :
    (ofProperty key d).isOmitted = d.isComposition := by
  cases d with
  | map entries =>
    rw [ofProperty_map, plain_withDefaultOf] at h
    rw [ofProperty_map, isOmitted_withDefaultOf]
    have hcomposed : Form.ofEntries key entries = .composed ↔
        (Data.map entries).isComposition = true :=
      Form.eq_composed_iff fun _ _ _ hform => by
        rw [hform] at h
        exact h
    have hother : Form.ofEntries key entries ≠ .composed →
        (Data.map entries).isComposition = false := by
      intro hne
      rw [Bool.eq_false_iff, Ne, ← hcomposed]
      exact hne
    cases hform : Form.ofEntries key entries with
    | composed => exact (hcomposed.mp hform).symm
    | embedded =>
      rw [hother (by rw [hform]; exact fun h => by cases h)]
      exact isOmitted_ofNode key entries
    | _ => exact (hother (by rw [hform]; exact fun h => by cases h)).symm
  | recurrence isMap =>
    cases isMap <;> simp only [ofProperty, isOmitted, Data.isComposition]
  | _ => simp only [ofProperty, isOmitted, Data.isComposition]

end Shape

namespace Context

/-- The shapes that a definition is compiled by are plain: as a set of fields, by its items, and as
a property of a field. -/
def PlainAt (ctx : Context) (reached : String → Prop) (name : Scalar) : Prop :=
  ∀ node entries, ctx.normalForm name = .ok node → node.members = .ok entries →
    (Shape.ofNode ctx.extensionKey entries).Plain reached ∧
    (Shape.ofProperty ctx.extensionKey (Entries.value entries "items")).Plain reached ∧
    (Shape.ofProperty ctx.extensionKey
      (.map (Entries.erase entries (.text ctx.extensionKey)))).Plain reached

/-- An array definition that has nothing to put in the array: its name is reserved, or its items are
a composition. -/
def LeavesOut (ctx : Context) (target : String) : Prop :=
  ∃ node entries, ctx.normalForm (.text target) = .ok node ∧ node.members = .ok entries ∧
    (Entries.value entries "type").isText "array" = true ∧
    (ctx.isReserved (.text target) = true ∨
      (Entries.value entries "items").isComposition = true)

variable {ctx : Context} {reached : String → Prop} {gaps : Prop}
  {resolve : Resolve (Except Fault)}

/-- A property is left out, or compiles to a field of a compiled map. -/
def IsCompiled (gaps : Prop) (omitted required : Bool) : Option Value → Prop
  | none => omitted = true
  | some v => omitted = false ∧ v.IsField gaps required

/-- References to definitions of a set compile to fields that are not required. -/
def ResolvesTo (ctx : Context) (gaps : Prop) (reached : String → Prop)
    (resolve : Resolve (Except Fault)) : Prop :=
  ∀ owner field target many r, reached target → ctx.isReserved field = false →
    resolve owner field target many = .ok r → ∃ v, r = some v ∧ v.IsField gaps false

mutual
/-- A property is left out exactly if its shape says so, and is required exactly if its owner says
so. -/
theorem isCompiled_compileShape (hresolve : ctx.ResolvesTo gaps reached resolve)
    {owner field : Scalar} (required : Data) (hfield : ctx.isReserved field = false)
    (shape : Shape) (hshape : shape.Plain reached) {r : Option Value}
    (h : ctx.compileShape resolve owner field required shape = .ok r) :
    IsCompiled gaps shape.isOmitted (required.requires field) r := by
  match shape with
  | .notMapping _ | .endless | .noFields | .malformed _ =>
    simp only [compileShape] at h
    cases h
  | .composed =>
    simp only [compileShape] at h
    cases h
    rfl
  | .override _ _ _ => exact hshape.elim
  | .typed type choices =>
    simp only [compileShape, ofExcept_eq] at h
    obtain ⟨type, -, h⟩ := exists_of_bind_eq_ok h
    cases h
    exact ⟨rfl, (isField_typedDescriptor gaps type choices).fillRequired field required⟩
  | .reference target many =>
    simp only [compileShape] at h
    obtain ⟨found, hfound, h⟩ := exists_of_bind_eq_ok h
    cases h
    obtain ⟨v, rfl, hv⟩ := hresolve owner field target many found hshape hfield hfound
    exact ⟨rfl, hv.fillRequired field required⟩
  | .fields inner members =>
    simp only [compileShape] at h
    obtain ⟨fields, hfields, h⟩ := exists_of_bind_eq_ok h
    cases h
    have hall := (isCompiled_compileMembers hresolve inner members hshape hfields).1
    exact ⟨rfl, (Value.isField_embedded hall).fillRequired field required⟩
  | .withDefault shape default =>
    simp only [compileShape] at h
    obtain ⟨found, hfound, h⟩ := exists_of_bind_eq_ok h
    cases h
    have hinner := isCompiled_compileShape hresolve required hfield shape hshape hfound
    cases found with
    | none => exact hinner
    | some v => exact ⟨hinner.1, hinner.2.withDefault default⟩

/-- The fields of a set are its properties in order, but for those that are reserved or left out. -/
theorem isCompiled_compileMembers (hresolve : ctx.ResolvesTo gaps reached resolve)
    {owner : Scalar} (required : Data) (members : List (Scalar × Shape))
    (hmembers : Shape.PlainMembers reached members) {fields : Entries Value}
    (h : ctx.compileMembers resolve owner required members = .ok fields) :
    (∀ e ∈ fields, e.2.IsField gaps (required.requires e.1)) ∧
      Entries.keys fields =
        (members.filter fun e => !ctx.isReserved e.1 && !e.2.isOmitted).map Prod.fst := by
  match members with
  | [] =>
    simp only [compileMembers] at h
    cases h
    exact ⟨fun e he => (List.not_mem_nil he).elim, rfl⟩
  | (name, shape) :: rest =>
    obtain ⟨more, hmore, hcases⟩ := compileMembers_cons_cases h
    obtain ⟨hall, hkeys⟩ := isCompiled_compileMembers hresolve required rest hmembers.2 hmore
    obtain ⟨hname, rfl⟩ | ⟨hname, hv, rfl⟩ | ⟨v, hname, hv, rfl⟩ := hcases
    · refine ⟨hall, ?_⟩
      rw [List.filter_cons_of_neg (by simp [hname]), hkeys]
    · have homitted : shape.isOmitted = true :=
        isCompiled_compileShape hresolve required hname shape hmembers.1 hv
      refine ⟨hall, ?_⟩
      rw [List.filter_cons_of_neg (by simp [homitted]), hkeys]
    · obtain ⟨homitted, hfield⟩ :=
        isCompiled_compileShape hresolve required hname shape hmembers.1 hv
      refine ⟨List.forall_mem_cons.mpr ⟨hfield, hall⟩, ?_⟩
      rw [List.filter_cons_of_pos (by simp [hname, homitted]), List.map_cons, ← hkeys]
      rfl
end

theorem isField_compileNode (hresolve : ctx.ResolvesTo gaps reached resolve) {owner : Scalar}
    {shape : Shape} (hshape : shape.Plain reached) {v : Value}
    (h : ctx.compileNode resolve owner shape = .ok v) : v.IsField gaps false := by
  unfold compileNode at h
  split at h
  · next required members =>
    obtain ⟨fields, hfields, h⟩ := exists_of_bind_eq_ok h
    cases h
    exact Value.isField_embedded (isCompiled_compileMembers hresolve required members hshape
      hfields).1
  · next type choices =>
    rw [ofExcept_eq] at h
    obtain ⟨type, -, h⟩ := exists_of_bind_eq_ok h
    cases h
    exact isField_typedDescriptor gaps type none
  · cases h
  · cases h

private theorem isComposed_of_members {node : Data} {entries : Entries Data}
    (h : node.members = .ok entries) :
    Composition.isComposed node = (Entries.value entries "allOf").isTruthy := by
  rw [Data.value_of_members h]
  rfl

section Target

variable {lookup : Scalar → Except Fault Data} {name field : Scalar} {many : Bool} {node : Data}
  {entries : Entries Data} {r : Option Value}

theorem isField_compileSetWith (hresolve : ctx.ResolvesTo gaps reached resolve)
    (hplain : Composition.isComposed node = false)
    (hshape : ∀ entries, node.members = .ok entries →
      (Shape.ofNode ctx.extensionKey entries).Plain reached) {v : Value}
    (h : ctx.compileSetWith lookup resolve name node = .ok v) : v.IsField gaps false := by
  unfold compileSetWith at h
  rw [hplain, if_neg Bool.false_ne_true, ofExcept_eq] at h
  obtain ⟨entries, hentries, h⟩ := exists_of_bind_eq_ok h
  exact isField_compileNode hresolve (hshape entries (eq_ok_of_orMisuse hentries)) h

private theorem isField_items (hresolve : ctx.ResolvesTo gaps reached resolve) {items : Data}
    (hshape : (Shape.ofProperty ctx.extensionKey items).Plain reached)
    (hgap : ctx.isReserved name = true ∨ items.isComposition = true → gaps)
    (h : ctx.compilePropertyWith resolve items name .null name = .ok r) :
    (Value.list [r.getD (.scalar .null)]).IsField gaps false := by
  unfold compilePropertyWith at h
  cases hname : ctx.isReserved name with
  | true =>
    rw [hname, if_pos rfl] at h
    cases h
    exact Value.isField_array (.gap (hgap (Or.inl hname)))
  | false =>
    rw [hname, if_neg Bool.false_ne_true] at h
    have hcompiled := isCompiled_compileShape hresolve .null hname _ hshape h
    cases r with
    | none =>
      have homitted : (Shape.ofProperty ctx.extensionKey items).isOmitted = true := hcompiled
      rw [Shape.isOmitted_ofProperty hshape] at homitted
      exact Value.isField_array (.gap (hgap (Or.inr homitted)))
    | some v => exact Value.isField_array (.array hcompiled.2.wellFormed)

private theorem isField_property (hresolve : ctx.ResolvesTo gaps reached resolve)
    (hfield : ctx.isReserved field = false) {property : Data}
    (hplain : property.isComposition = false)
    (hshape : (Shape.ofProperty ctx.extensionKey property).Plain reached)
    (h : ctx.compilePropertyWith resolve property field .null name = .ok r) :
    ∃ v, r = some v ∧ v.IsField gaps false := by
  unfold compilePropertyWith at h
  rw [hfield, if_neg Bool.false_ne_true] at h
  have hcompiled := isCompiled_compileShape hresolve .null hfield _ hshape h
  cases r with
  | none =>
    have homitted : (Shape.ofProperty ctx.extensionKey property).isOmitted = true := hcompiled
    rw [Shape.isOmitted_ofProperty hshape, hplain] at homitted
    cases homitted
  | some v => exact ⟨v, rfl, hcompiled.2⟩

/-- Null is put in an array, and nowhere else, where what the array holds is left out. -/
theorem isField_compileTarget {target : String} (hresolve : ctx.ResolvesTo gaps reached resolve)
    (hplain : ctx.PlainAt reached (.text target)) (hgap : ctx.LeavesOut target → gaps)
    (hfield : ctx.isReserved field = false) (hnode : ctx.normalForm (.text target) = .ok node)
    (h : ctx.compileTarget lookup resolve (.text target) field many node = .ok r) :
    ∃ v, r = some v ∧ v.IsField gaps false := by
  obtain ⟨entries, hentries, hembedded⟩ := embeddedAs_of_compileTarget h
  obtain ⟨-, hitems, hproperty⟩ := hplain node entries hnode hentries
  have hcomposed := isComposed_normalForm hnode
  cases hembedded with
  | items _ harray hfound hr =>
    refine ⟨_, hr, isField_items hresolve ?_ ?_ hfound⟩
    · split
      · exact hitems
      · rw [Shape.ofProperty_empty]
        trivial
    · rintro (hname | homitted)
      · exact hgap ⟨node, entries, hnode, hentries, harray, Or.inl hname⟩
      · split at homitted
        · exact hgap ⟨node, entries, hnode, hentries, harray, Or.inr homitted⟩
        · cases homitted
  | fields _ _ hfields hr =>
    have hfound := isField_compileSetWith hresolve hcomposed
      (fun entries hentries => (hplain node entries hnode hentries).1) hfields
    exact ⟨_, hr, hfound.manyOf many⟩
  | property _ hfound hr =>
    have hstripped : (Data.map (Entries.erase entries (.text ctx.extensionKey))).isComposition =
        false := by
      have hnone : (Entries.value (Entries.erase entries (.text ctx.extensionKey))
          "allOf").isTruthy = false := by
        rw [Entries.value_erase]
        split
        · rfl
        · rw [← isComposed_of_members hentries]
          exact hcomposed
      rw [Data.isComposition, hnone, Bool.false_and]
    obtain ⟨v, rfl, hv⟩ := isField_property hresolve hfield hstripped hproperty hfound
    cases many with
    | true => exact ⟨_, hr, Value.isField_array (.array hv.wellFormed)⟩
    | false => exact ⟨v, hr, hv⟩

end Target

theorem resolvesTo_resolution {embed : Embed (Except Fault)} (stack : List Scalar)
    (h : ∀ field target many r, reached target → ctx.isReserved field = false →
      embed field target many = .ok r → ∃ v, r = some v ∧ v.IsField gaps false) :
    ctx.ResolvesTo gaps reached (ctx.resolution embed stack) := by
  intro owner field target many r hreached hfield hr
  obtain ⟨-, -, hr⟩ := exists_of_bind_eq_ok hr
  split at hr
  · cases hr
    exact ⟨_, rfl, (Value.isField_referenceTo target).manyOf many⟩
  · exact h field target many r hreached hfield hr

variable (hplain : ∀ target, reached target → ctx.PlainAt reached (.text target))
  (hgap : ∀ target, reached target → ctx.LeavesOut target → gaps)

include hplain hgap

private theorem isField_embedAt (depth : Nat) : ∀ (stack : List Scalar) (field : Scalar)
    (target : String) (many : Bool) (r : Option Value), reached target →
      ctx.isReserved field = false → ctx.embedAt depth stack field target many = .ok r →
        ∃ v, r = some v ∧ v.IsField gaps false := by
  -- By induction on the references that may still follow one another: those of the definition that
  -- is embedded are resolved with one less.
  induction depth with
  | zero =>
    intro stack field target many r _ _ h
    cases h
  | succ depth ih =>
    intro stack field target many r hreached hfield h
    obtain ⟨node, hnode, h⟩ := exists_of_bind_eq_ok h
    exact isField_compileTarget (resolvesTo_resolution _ (ih _)) (hplain target hreached)
      (hgap target hreached) hfield hnode h

/-- References to plain definitions compile to fields that are not required, however many may follow
one another. -/
theorem resolvesTo_embedAt (depth : Nat) (stack : List Scalar) :
    ctx.ResolvesTo gaps reached (ctx.resolution (ctx.embedAt depth stack) stack) :=
  resolvesTo_resolution stack (isField_embedAt hplain hgap depth stack)

theorem resolvesTo_meaning (stack : List Scalar) :
    ctx.ResolvesTo gaps reached (ctx.meaning stack) :=
  resolvesTo_embedAt hplain hgap ctx.referenceBound stack

end Context

end StoreSchema
