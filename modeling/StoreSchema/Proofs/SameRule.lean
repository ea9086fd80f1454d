import StoreSchema.Proofs.Spelling
import StoreSchema.Proofs.RuleMeaning

set_option autoImplicit false

namespace StoreSchema

namespace Value

variable {v w u : Value} {word : String}

theorem withFacets_cases (v : Value) (htype : word ≠ "type") (facet : Value) :
    (∃ entries, v = .map entries ∧ v.isDescriptor = true ∧
      v.withFacets [(.text word, facet)] = .map (Entries.put entries (.text word) facet)) ∨
    v.isDescriptor = false ∧
      v.withFacets [(.text word, facet)] = .map [(.text "type", v), (.text word, facet)] := by
  have hother : (Scalar.text "type").same (.text word) = false :=
    Scalar.same_text_of_ne htype.symm
  have hwrap : Entries.overlay [(.text "type", v)] [(.text word, facet)] =
      [(.text "type", v), (.text word, facet)] := by
    simp only [Entries.overlay, List.foldl_cons, List.foldl_nil, Entries.put, hother,
      Bool.false_eq_true, if_false]
  cases v with
  | map entries =>
    cases hdescriptor : (Value.map entries).isDescriptor with
    | true =>
      refine Or.inl ⟨entries, rfl, rfl, ?_⟩
      simp only [withFacets, hdescriptor, if_true]
      rfl
    | false =>
      refine Or.inr ⟨rfl, ?_⟩
      simp only [withFacets, hdescriptor, Bool.false_eq_true, if_false, hwrap]
  | _ => exact Or.inr ⟨rfl, congrArg Value.map hwrap⟩

private theorem type_of_descriptor {entries : Entries Value}
    (h : (Value.map entries).isDescriptor = true) :
    ∃ type, Entries.get? entries (.text "type") = some type ∧ type.canBeType = true := by
  simpa [isDescriptor, Option.getD_eq_iff] using h

private theorem isDescriptor_put {entries : Entries Value} (htype : word ≠ "type") (facet : Value) :
    (Value.map (Entries.put entries (.text word) facet)).isDescriptor =
      (Value.map entries).isDescriptor := by
  simp only [isDescriptor, Entries.get?_put_other _ _ (Scalar.same_text_of_ne htype)]

theorem canBeType_withFacets (v : Value) (htype : word ≠ "type") (facet : Value) :
    (v.withFacets [(.text word, facet)]).canBeType = true := by
  rcases v.withFacets_cases htype facet with ⟨entries, -, -, heq⟩ | ⟨-, heq⟩
  all_goals
    rw [heq]
    rfl

theorem ofField_withFacets (hv : v.canBeType = true) (htype : word ≠ "type")
    (henum : word ≠ "enum") (facet : Value) :
    CollectionRule.ofField (v.withFacets [(.text word, facet)]) = CollectionRule.ofField v := by
  have hother : (Scalar.text word).same (.text "type") = false := Scalar.same_text_of_ne htype
  have hlisted : (Scalar.text word).same (.text "enum") = false := Scalar.same_text_of_ne henum
  rcases v.withFacets_cases htype facet with ⟨entries, rfl, hdescriptor, heq⟩ | ⟨hplain, heq⟩
  · obtain ⟨type, hunder, hcan⟩ := type_of_descriptor hdescriptor
    have hput : Entries.get? (Entries.put entries (.text word) facet) (.text "type") =
        some type := by rw [Entries.get?_put_other _ _ hother, hunder]
    rw [heq, CollectionRule.ofField_descriptor hput hcan,
      CollectionRule.ofField_descriptor hunder hcan]
    unfold CollectionRule.withChoices
    rw [Entries.get?_put_other _ _ hlisted]
  · have hunder : Entries.get? [(.text "type", v), (.text word, facet)] (.text "type") =
        some v := by rw [Entries.get?_cons, if_pos (Scalar.same_refl _)]
    have hnone : Entries.get? [(.text "type", v), (.text word, facet)] (.text "enum") = none := by
      rw [Entries.get?_cons, Entries.get?_cons, if_neg (by decide), hlisted,
        if_neg Bool.false_ne_true, Entries.get?_nil]
    rw [heq, CollectionRule.ofField_descriptor hunder hv]
    unfold CollectionRule.withChoices
    rw [hnone]
    cases v with
    | map entries =>
      rw [CollectionRule.ofField_plain hplain, Value.asFields, CollectionRule.ofField]
    | _ => rfl

theorem isRequired_withRequired (hv : v.canBeType = true) (flag : Bool) :
    CollectionRule.isRequired (v.withRequired flag) = flag := by
  rw [Bool.eq_iff_iff, withRequired]
  rcases v.withFacets_cases (by decide : "required" ≠ "type") (.bool flag) with
    ⟨entries, rfl, hdescriptor, heq⟩ | ⟨-, heq⟩
  · rw [heq, CollectionRule.isRequired_map, isDescriptor_put (by decide), Entries.get?_put_same]
    simp [hdescriptor]
  · have hdescriptor :
        (Value.map [(.text "type", v), (.text "required", .bool flag)]).isDescriptor = true := hv
    rw [heq, CollectionRule.isRequired_map, Entries.get?_cons, if_neg (by decide),
      Entries.get?_cons, if_pos (Scalar.same_refl _)]
    simp [hdescriptor]

theorem isRequired_withFacets (v : Value) (htype : word ≠ "type") (hword : word ≠ "required")
    (facet : Value) : CollectionRule.isRequired (v.withFacets [(.text word, facet)]) =
      CollectionRule.isRequired v := by
  have hother : (Scalar.text word).same (.text "required") = false :=
    Scalar.same_text_of_ne hword
  rw [Bool.eq_iff_iff]
  rcases v.withFacets_cases htype facet with ⟨entries, rfl, -, heq⟩ | ⟨hplain, heq⟩
  · rw [heq, CollectionRule.isRequired_map, CollectionRule.isRequired_map,
      isDescriptor_put htype, Entries.get?_put_other _ _ hother]
  · have hunmarked : CollectionRule.isRequired v = false := by
      cases v with
      | map entries => simp only [CollectionRule.isRequired, hplain, Bool.false_and]
      | _ => rfl
    rw [heq, CollectionRule.isRequired_map, Entries.get?_cons, if_neg (by decide),
      Entries.get?_cons, hother, hunmarked]
    simp

/-- Values that can be given facets, with the same rule and required alike. -/
structure SameRule (v w : Value) : Prop where
  rule : CollectionRule.ofField v = CollectionRule.ofField w
  required : CollectionRule.isRequired v = CollectionRule.isRequired w
  type : v.canBeType = true
  type' : w.canBeType = true

namespace SameRule

theorem refl (hv : v.canBeType = true) : SameRule v v := ⟨rfl, rfl, hv, hv⟩

theorem symm (h : SameRule v w) : SameRule w v :=
  ⟨h.rule.symm, h.required.symm, h.type', h.type⟩

theorem trans (h : SameRule v w) (h' : SameRule w u) : SameRule v u :=
  ⟨h.rule.trans h'.rule, h.required.trans h'.required, h.type, h'.type'⟩

theorem withRequired (h : SameRule v w) (flag : Bool) :
    SameRule (v.withRequired flag) (w.withRequired flag) where
  rule := by
    unfold Value.withRequired
    rw [ofField_withFacets h.type (by decide) (by decide),
      ofField_withFacets h.type' (by decide) (by decide), h.rule]
  required := by rw [isRequired_withRequired h.type, isRequired_withRequired h.type']
  type := v.canBeType_withFacets (by decide) _
  type' := w.canBeType_withFacets (by decide) _

theorem fillRequired (h : SameRule v w) (field : Scalar) (required : Data) :
    SameRule (v.fillRequired field required) (w.fillRequired field required) := by
  rcases Value.fillRequired_cases field required with ⟨-, hfill⟩ | hfill
  · rw [hfill, hfill]
    exact h
  · rw [hfill, hfill]
    exact h.withRequired _

theorem default_right (h : SameRule v w) (d : Data) : SameRule v (w.withDefault d) where
  rule := by
    unfold Value.withDefault
    rw [ofField_withFacets h.type' (by decide) (by decide), h.rule]
  required := by
    rw [Value.withDefault, isRequired_withFacets w (by decide) (by decide), h.required]
  type := h.type
  type' := w.canBeType_withFacets (by decide) _

theorem withDefault (h : SameRule v w) (d : Data) :
    SameRule (v.withDefault d) (w.withDefault d) :=
  ((h.default_right d).symm.default_right d).symm

theorem array (h : CollectionRule.ofField v = CollectionRule.ofField w) :
    SameRule (.list [v]) (.list [w]) where
  rule := by simp only [CollectionRule.ofField, CollectionRule.ofItems, h]
  required := rfl
  type := rfl
  type' := rfl

theorem manyOf (h : SameRule v w) (many : Bool) : SameRule (v.manyOf many) (w.manyOf many) := by
  cases many with
  | true => exact array h.rule
  | false => exact h

end SameRule

/-- The field is left out in both, or has values with the same rule. -/
abbrev SameRuleIfAny : Option Value → Option Value → Prop := Option.Rel SameRule

theorem SameRuleIfAny.map {a b : Option Value} (h : SameRuleIfAny a b) {f g : Value → Value}
    (hfg : ∀ v w, SameRule v w → SameRule (f v) (g w)) : SameRuleIfAny (a.map f) (b.map g) := by
  cases h with
  | some h => exact .some (hfg _ _ h)
  | none => exact .none

/-- Fields under the same names, in order, with the same rules. -/
abbrev SameRules : Entries Value → Entries Value → Prop :=
  List.Forall₂ fun e e' => e.1 = e'.1 ∧ SameRule e.2 e'.2

theorem SameRules.ofFields {fields fields' : Entries Value} (h : SameRules fields fields') :
    CollectionRule.ofFields fields = CollectionRule.ofFields fields' := by
  have hrules : CollectionRule.fieldRules fields = CollectionRule.fieldRules fields' := by
    induction h with
    | nil => rfl
    | @cons e e' rest rest' hfirst _ ih =>
      obtain ⟨name, v⟩ := e
      obtain ⟨name', v'⟩ := e'
      obtain ⟨rfl, hsame⟩ : name = name' ∧ SameRule v v' := hfirst
      simp only [CollectionRule.fieldRules, hsame.rule, ih]
  have hrequired : (fields.filter fun e => CollectionRule.isRequired e.2).map Prod.fst =
      (fields'.filter fun e => CollectionRule.isRequired e.2).map Prod.fst := by
    have hkept : SameRules (fields.filter fun e => CollectionRule.isRequired e.2)
        (fields'.filter fun e => CollectionRule.isRequired e.2) := by
      refine List.rel_filter (fun e e' hsame => ?_) h
      dsimp only
      rw [hsame.2.required]
    exact Entries.keys_of_forall₂ (fun _ _ => And.left) hkept
  simp only [CollectionRule.ofFields, hrules, hrequired]

theorem SameRules.embedded {fields fields' : Entries Value} (h : SameRules fields fields') :
    SameRule (.embedded fields) (.embedded fields') where
  rule := by simp only [CollectionRule.ofField, h.ofFields]
  required := rfl
  type := rfl
  type' := rfl

end Value

/-- Where the first outcome is a value, the second is one that compares. -/
def Carries {α β : Type} (R : α → β → Prop) (a : Except Fault α) (b : Except Fault β) : Prop :=
  ∀ v, a = .ok v → ∃ w, b = .ok w ∧ R v w

namespace Carries

variable {α β γ δ : Type} {R : α → β → Prop} {S : γ → δ → Prop} {a : Except Fault α}
  {b : Except Fault β}

theorem value {v : α} {w : β} (h : R v w) : Carries R (.ok v) (.ok w) := by
  intro _ hv
  cases hv
  exact ⟨w, rfl, h⟩

theorem fault (fault : Fault) (b : Except Fault β) : Carries R (.error fault) b :=
  fun _ hv => by cases hv

theorem refl {R : α → α → Prop} (hrefl : ∀ v, a = .ok v → R v v) : Carries R a a :=
  fun v hv => ⟨v, hv, hrefl v hv⟩

theorem of_bothYield (h : BothYield R a b) : Carries R a b := by
  cases h with
  | value h => exact value h
  | fault e => exact fault e _

theorem bind_of_ok (h : Carries R a b) {f : α → Except Fault γ} {g : β → Except Fault δ}
    (hfg : ∀ v w, a = .ok v → R v w → Carries S (f v) (g w)) : Carries S (a >>= f) (b >>= g) := by
  intro u hu
  obtain ⟨v, hv, hu⟩ := exists_of_bind_eq_ok hu
  obtain ⟨w, hw, hR⟩ := h v hv
  obtain ⟨u', hu', hS⟩ := hfg v w hv hR u hu
  exact ⟨u', bind_eq_ok hw hu', hS⟩

theorem bind (h : Carries R a b) {f : α → Except Fault γ} {g : β → Except Fault δ}
    (hfg : ∀ v w, R v w → Carries S (f v) (g w)) : Carries S (a >>= f) (b >>= g) :=
  h.bind_of_ok fun v w _ hR => hfg v w hR

end Carries

namespace Value

/-- Sets of fields with the same rules, or a descriptor that is the same. -/
inductive SameFields : Value → Value → Prop
  | typed {entries : Entries Value} (h : ∀ e ∈ entries, e.2.canBeType = true) :
      SameFields (.map entries) (.map entries)
  | fields {fields fields' : Entries Value} (h : SameRules fields fields') :
      SameFields (.embedded fields) (.embedded fields')

variable {v w : Value}

theorem SameFields.sameRule (h : SameFields v w) : SameRule v w := by
  cases h with
  | typed _ => exact .refl rfl
  | fields h => exact h.embedded

theorem SameRules.refl {fields : Entries Value} (h : ∀ e ∈ fields, e.2.canBeType = true) :
    SameRules fields fields :=
  List.forall₂_same.mpr fun e he => ⟨rfl, .refl (h e he)⟩

theorem SameFields.addFields (h : SameFields v w) {added added' : Entries Value}
    (hadded : SameRules added added') :
    ∃ fields fields', (Context.addFields v added).entries? = some fields ∧
      (Context.addFields w added').entries? = some fields' ∧ SameRules fields fields' := by
  cases h with
  | typed h => exact ⟨_, _, rfl, rfl, Entries.forall₂_overlay (SameRules.refl h) hadded⟩
  | fields h => exact ⟨_, _, rfl, rfl, Entries.forall₂_overlay h hadded⟩

end Value

open Value (SameRule SameRules SameRuleIfAny SameFields)

namespace Context

variable {ctx : Context} {lookup lookup' : Scalar → Except Fault Data}
  {resolve resolve' : Resolve (Except Fault)}

variable (ctx) in
def ResolvesAlike (resolve resolve' : Resolve (Except Fault)) : Prop :=
  ∀ owner field target many, ctx.isReserved field = false →
    Carries SameRuleIfAny (resolve owner field target many) (resolve' owner field target many)

variable (ctx) in
/-- Where the first of two shapes compiles to a value for a field of an owner, the second compiles
to one with the same rule. -/
def CompilesAlike (resolve resolve' : Resolve (Except Fault)) (owner : Scalar)
    (shape shape' : Shape) : Prop :=
  ∀ field required, ctx.isReserved field = false →
    Carries SameRuleIfAny (ctx.compileShape resolve owner field required shape)
      (ctx.compileShape resolve' owner field required shape')

private theorem canBeType_manyOf {v : Value} (h : v.canBeType = true) (many : Bool) :
    (v.manyOf many).canBeType = true := by
  cases many with
  | true => rfl
  | false => exact h

private theorem canBeType_override {extension base : Data} {many : Bool} {v : Value}
    (h : ctx.override extension base many = .ok v) : v.canBeType = true := by
  obtain ⟨below, -, h⟩ := exists_of_bind_eq_ok h
  obtain ⟨above, -, h⟩ := exists_of_bind_eq_ok h
  split at h
  · obtain ⟨target, -, h⟩ := exists_of_bind_eq_ok h
    obtain ⟨-, -, h⟩ := exists_of_bind_eq_ok h
    cases h
    exact canBeType_manyOf rfl many
  · dsimp only at h
    split at h
    · obtain ⟨function, -, h⟩ := exists_of_bind_eq_ok h
      obtain ⟨mapped, -, h⟩ := exists_of_bind_eq_ok h
      cases h
      exact canBeType_manyOf rfl many
    · obtain ⟨mapped, -, h⟩ := exists_of_bind_eq_ok h
      cases h
      exact canBeType_manyOf rfl many

theorem compileMembers_alike {owner : Scalar} {members members' : List (Scalar × Shape)}
    (h : List.Forall₂ (fun e e' => e.1 = e'.1 ∧
      ctx.CompilesAlike resolve resolve' owner e.2 e'.2) members members') (required : Data) :
    Carries SameRules (ctx.compileMembers resolve owner required members)
      (ctx.compileMembers resolve' owner required members') := by
  induction h with
  | nil =>
    simp only [compileMembers]
    exact .value .nil
  | @cons e e' rest rest' hfirst _ ih =>
    obtain ⟨name, shape⟩ := e
    obtain ⟨name', shape'⟩ := e'
    obtain ⟨rfl, hshape⟩ : name = name' ∧ ctx.CompilesAlike resolve resolve' owner shape shape' :=
      hfirst
    simp only [compileMembers]
    refine Carries.bind (R := SameRuleIfAny) ?_ fun v v' hv => ih.bind fun more more' hmore => ?_
    · cases hname : ctx.isReserved name with
      | true => exact .value .none
      | false => exact hshape name required hname
    · cases hv with
      | some hv => exact .value (.cons ⟨rfl, hv⟩ hmore)
      | none => exact .value hmore

mutual
theorem compileShape_alike (hresolve : ctx.ResolvesAlike resolve resolve') (owner : Scalar)
    (shape : Shape) : ctx.CompilesAlike resolve resolve' owner shape shape := by
  intro field required hfield
  match shape with
  | .notMapping _ | .endless | .noFields | .malformed _ =>
    simp only [compileShape]
    exact .fault _ _
  | .composed =>
    simp only [compileShape]
    exact .value .none
  | .override extension base many =>
    simp only [compileShape, ofExcept_eq]
    refine Carries.bind (R := SameRule) (.refl fun v hv => .refl (canBeType_override hv)) ?_
    exact fun v w hsame => .value (.some (hsame.fillRequired field required))
  | .reference target many =>
    simp only [compileShape]
    refine (hresolve owner field target many hfield).bind fun v w hsame => .value ?_
    exact hsame.map fun v w hsame => hsame.fillRequired field required
  | .typed type choices =>
    simp only [compileShape, ofExcept_eq]
    refine Carries.bind (R := (· = ·)) (.refl fun _ _ => rfl) ?_
    rintro type _ rfl
    exact .value (.some (.fillRequired (.refl rfl) field required))
  | .fields inner members =>
    simp only [compileShape]
    refine (compileMembers_alike (members_alike hresolve field members) inner).bind ?_
    exact fun fields fields' hsame => .value (.some (hsame.embedded.fillRequired field required))
  | .withDefault shape default =>
    simp only [compileShape]
    refine (compileShape_alike hresolve owner shape field required hfield).bind ?_
    exact fun v w hsame => .value (hsame.map fun v w hsame => hsame.withDefault default)

private theorem members_alike (hresolve : ctx.ResolvesAlike resolve resolve') (owner : Scalar)
    (members : List (Scalar × Shape)) :
    List.Forall₂ (fun e e' => e.1 = e'.1 ∧ ctx.CompilesAlike resolve resolve' owner e.2 e'.2)
      members members := by
  match members with
  | [] => exact .nil
  | (name, shape) :: rest =>
    exact .cons ⟨rfl, compileShape_alike hresolve owner shape⟩ (members_alike hresolve owner rest)
end

theorem withDefaultOf_alike {owner : Scalar} {shape shape' : Shape}
    {entries entries' : Entries Data}
    (h : ctx.CompilesAlike resolve resolve' owner shape shape')
    (hdefault : Entries.get? entries (.text "default") = Entries.get? entries' (.text "default")) :
    ctx.CompilesAlike resolve resolve' owner (Shape.withDefaultOf entries shape)
      (Shape.withDefaultOf entries' shape') := by
  intro field required hfield
  have hshape := h field required hfield
  unfold Shape.withDefaultOf
  rw [← hdefault]
  cases Entries.get? entries (.text "default") with
  | none => exact hshape
  | some default =>
    simp only [compileShape]
    refine hshape.bind fun v w hsame => ?_
    exact .value (hsame.map fun v w hsame => hsame.withDefault default)

theorem compilePropertyWith_alike {owner : Scalar} {property property' : Data}
    (h : ctx.CompilesAlike resolve resolve' owner (Shape.ofProperty ctx.extensionKey property)
      (Shape.ofProperty ctx.extensionKey property')) (field : Scalar) (required : Data) :
    Carries SameRuleIfAny (ctx.compilePropertyWith resolve property field required owner)
      (ctx.compilePropertyWith resolve' property' field required owner) := by
  unfold compilePropertyWith
  cases hfield : ctx.isReserved field with
  | true => exact .value .none
  | false => exact h field required hfield

theorem compileFields_alike {owner : Scalar} {members members' : List (Scalar × Shape)}
    (h : List.Forall₂ (fun e e' => e.1 = e'.1 ∧
      ctx.CompilesAlike resolve resolve' owner e.2 e'.2) members members') (required : Data) :
    Carries SameFields (ctx.compileNode resolve owner (.fields required members))
      (ctx.compileNode resolve' owner (.fields required members')) :=
  (compileMembers_alike h required).bind fun _ _ hsame => .value (.fields hsame)

theorem compileNode_typed_alike {ctx' : Context} (owner : Scalar) (type : Except Fault FieldType)
    (choices : Option (List Data)) :
    Carries SameFields (ctx.compileNode resolve owner (.typed type choices))
      (ctx'.compileNode resolve' owner (.typed type choices)) := by
  simp only [compileNode, ofExcept_eq]
  refine Carries.bind (R := (· = ·)) (.refl fun _ _ => rfl) ?_
  rintro type _ rfl
  refine .value (.typed fun e he => ?_)
  rw [List.mem_singleton.mp he]
  cases type <;> rfl

theorem compileNode_alike (hresolve : ctx.ResolvesAlike resolve resolve') (owner : Scalar)
    (shape : Shape) :
    Carries SameFields (ctx.compileNode resolve owner shape)
      (ctx.compileNode resolve' owner shape) := by
  cases shape with
  | fields required members => exact compileFields_alike (members_alike hresolve owner members) _
  | typed type choices => exact compileNode_typed_alike owner type choices
  | _ => exact .fault _ _

theorem compileSetWith_alike (hresolve : ctx.ResolvesAlike resolve resolve') {node : Data}
    (hplain : Composition.isComposed node = false) (owner : Scalar) :
    Carries SameFields (ctx.compileSetWith lookup resolve owner node)
      (ctx.compileSetWith lookup' resolve' owner node) := by
  unfold compileSetWith
  rw [hplain, if_neg Bool.false_ne_true, if_neg Bool.false_ne_true]
  refine Carries.bind (R := (· = ·)) (.refl fun _ _ => rfl) ?_
  rintro entries _ rfl
  exact compileNode_alike hresolve owner _

theorem array_alike {a b : Option Value} (h : SameRuleIfAny a b) :
    SameRule (.list [a.getD (.scalar .null)]) (.list [b.getD (.scalar .null)]) := by
  cases h with
  | some h => exact .array h.rule
  | none => exact .array rfl

/-- A definition is embedded as a value with the same rule where its references are. -/
theorem compileTarget_alike (hresolve : ctx.ResolvesAlike resolve resolve') {node : Data}
    (hplain : Composition.isComposed node = false) (name field : Scalar) (many : Bool) :
    Carries SameRuleIfAny (ctx.compileTarget lookup resolve name field many node)
      (ctx.compileTarget lookup' resolve' name field many node) := by
  unfold compileTarget
  refine Carries.bind (R := (· = ·)) (.refl fun _ _ => rfl) ?_
  rintro entries _ rfl
  split
  · split
    · refine (compilePropertyWith_alike (compileShape_alike hresolve name _) name .null).bind ?_
      exact fun a b hsame => .value (.some (array_alike hsame))
    · refine (compileSetWith_alike hresolve hplain name).bind fun v w hsame => .value ?_
      exact .some (hsame.sameRule.manyOf many)
  · refine (compilePropertyWith_alike (compileShape_alike hresolve name _) field .null).bind ?_
    intro a b hsame
    cases many with
    | true => exact .value (.some (array_alike hsame))
    | false => exact .value hsame

end Context

end StoreSchema
