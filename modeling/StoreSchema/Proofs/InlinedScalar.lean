import StoreSchema.Proofs.LinkedRuns
import StoreSchema.Proofs.Shorthand

set_option autoImplicit false

namespace StoreSchema

/-- A definition of a scalar type: its name, the type that it is mapped to and the values that it is
restricted to. -/
structure ScalarDefinition where
  name : String
  type : Except Fault FieldType
  choices : Option (List Data)

namespace ScalarDefinition

variable (s : ScalarDefinition)

/-- What the definition is embedded as has the rule of its type. -/
abbrev RuledBy (many : Bool) (v : Option Value) (type : FieldType) : Prop :=
  Value.SameRuleIfAny v (some ((Context.typedDescriptor type s.choices).manyOf many))

theorem carries_of_ruledBy {many : Bool} {a b : Except Fault (Option Value)}
    {type : Except Fault FieldType} (h : BothYield (s.RuledBy many) a type)
    (h' : BothYield (s.RuledBy many) b type) : Carries Value.SameRuleIfAny a b := by
  cases h with
  | fault fault => exact .fault fault b
  | value h =>
    cases h' with
    | value h' =>
      cases h with
      | some h =>
        cases h' with
        | some h' => exact .value (.some (h.trans h'.symm))

end ScalarDefinition

open Value (SameRule SameRules SameRuleIfAny SameFields)

variable {s : ScalarDefinition} {key : String}

namespace Shape

/-- A reference to a scalar definition and what the definition is typed as. -/
inductive Inlines (s : ScalarDefinition) : Shape → Shape → Prop
  | one : Inlines s (.reference s.name false) (.typed s.type s.choices)
  | array (h : s.choices = none) :
      Inlines s (.reference s.name true) (.typed (s.type.map .listOf) none)
  /-- The default of the definition goes with it. -/
  | ownDefault {shape shape' : Shape} (h : Inlines s shape shape') (d : Data) :
      Inlines s shape (.withDefault shape' d)
  | withDefault {shape shape' : Shape} (h : Inlines s shape shape') (d : Data) :
      Inlines s (.withDefault shape d) (.withDefault shape' d)

end Shape

private theorem sameRule_listOf (type : FieldType) :
    SameRule (.list [Context.typedDescriptor type none])
      (Context.typedDescriptor (.listOf type) none) where
  rule := by
    have hitem : CollectionRule.ofField (Context.typedDescriptor type none) =
        CollectionRule.ofField type.toValue := by
      rw [Context.typedDescriptor, CollectionRule.ofField_descriptor rfl (by cases type <;> rfl)]
      cases type <;> rfl
    have harray : CollectionRule.ofField (Context.typedDescriptor (.listOf type) none) =
        CollectionRule.ofField (.list [type.toValue]) := by
      rw [Context.typedDescriptor, CollectionRule.ofField_descriptor rfl rfl]
      rfl
    rw [harray]
    simp only [CollectionRule.ofField, CollectionRule.ofItems, hitem]
  required := rfl
  type := rfl
  type' := rfl

namespace Context

variable {ctx : Context} {lookup lookup' : Scalar → Except Fault Data}
  {resolve resolve' : Resolve (Except Fault)}

private theorem exists_of_inlines {shape shape' : Shape} (h : Shape.Inlines s shape shape')
    (owner field : Scalar) (required : Data) :
    ∃ (many : Bool) (f : Option Value → Option Value) (g : FieldType → Value),
      (∀ resolve : Resolve (Except Fault), ctx.compileShape resolve owner field required shape =
        (resolve owner field s.name many >>= fun v => .ok (f v))) ∧
      (∀ resolve : Resolve (Except Fault), ctx.compileShape resolve owner field required shape' =
        (s.type >>= fun type => .ok (some (g type)))) ∧
      ∀ v type, s.RuledBy many v type → SameRuleIfAny (f v) (some (g type)) := by
  induction h with
  | one =>
    refine ⟨false, fun v => v.map fun v => v.fillRequired field required,
      fun type => (typedDescriptor type s.choices).fillRequired field required,
      fun resolve => ?_, fun resolve => ?_, fun v type hsame => ?_⟩
    · simp only [compileShape]
      rfl
    · simp only [compileShape, ofExcept_eq]
      rfl
    · exact hsame.map fun v w hsame => hsame.fillRequired field required
  | array hnone =>
    refine ⟨true, fun v => v.map fun v => v.fillRequired field required,
      fun type => (typedDescriptor (.listOf type) none).fillRequired field required,
      fun resolve => ?_, fun resolve => ?_, fun v type hsame => ?_⟩
    · simp only [compileShape]
      rfl
    · simp only [compileShape, ofExcept_eq]
      cases s.type <;> rfl
    · rw [ScalarDefinition.RuledBy, hnone] at hsame
      cases hsame with
      | some hsame =>
        exact .some ((hsame.trans (sameRule_listOf type)).fillRequired field required)
  | ownDefault _ d ih =>
    obtain ⟨many, f, g, hshape, hshape', hsame⟩ := ih
    refine ⟨many, f, fun type => (g type).withDefault d, hshape, fun resolve => ?_,
      fun v type hruled => ?_⟩
    · simp only [compileShape, hshape']
      cases s.type <;> rfl
    · obtain ⟨w, hw, hrule⟩ : ∃ w, f v = some w ∧ SameRule w (g type) := by
        have hfound := hsame v type hruled
        generalize f v = found at hfound
        cases hfound with
        | some hrule => exact ⟨_, rfl, hrule⟩
      rw [hw]
      exact .some (hrule.default_right d)
  | withDefault _ d ih =>
    obtain ⟨many, f, g, hshape, hshape', hsame⟩ := ih
    refine ⟨many, fun v => (f v).map fun v => v.withDefault d,
      fun type => (g type).withDefault d, fun resolve => ?_, fun resolve => ?_,
      fun v type hruled => ?_⟩
    · simp only [compileShape, hshape]
      cases resolve owner field s.name many <;> rfl
    · simp only [compileShape, hshape']
      cases s.type <;> rfl
    · exact (hsame v type hruled).map fun v w hrule => hrule.withDefault d

/-- Where references to the definition compile to descriptors of its type, a property compiles to a
value with the same rule after the definition is inlined. -/
theorem compilesAlike_of_inlines {owner : Scalar}
    (hscalar : ∀ field many, ctx.isReserved field = false →
      Carries (s.RuledBy many) (resolve owner field s.name many) s.type)
    {shape shape' : Shape} (h : Shape.Inlines s shape shape') :
    ctx.CompilesAlike resolve resolve' owner shape shape' := by
  intro field required hfield
  obtain ⟨many, f, g, hshape, hshape', hsame⟩ :=
    @exists_of_inlines s ctx _ _ h owner field required
  rw [hshape, hshape']
  exact (hscalar field many hfield).bind fun v type hruled => .value (hsame v type hruled)

end Context

/-- A mapping of an allowed scalar type: no array, no reference and no composition, and without
properties. What stands under the key of extension blocks is no format and no list of values. -/
structure IsScalarBody (key : String) (body : Entries Data) : Prop where
  type : ∃ name ∈ FieldType.typeNames, name ≠ "array" ∧ Entries.value body "type" = .text name
  reference : Entries.value body "$ref" = .null
  composition : (Entries.value body "allOf").isTruthy = false
  properties : Entries.value body "properties" = .null
  unread : key ∈ ["format", "enum"] → Entries.value body key = .null

def ScalarDefinition.ofBody (name : String) (body : Entries Data) : ScalarDefinition where
  name
  type := FieldType.ofEntries body
  choices := Shape.choicesOf body

section Form

variable {key name : String} {es : Entries Data}

private theorem truthy_of_typeName (hname : name ∈ FieldType.typeNames) :
    (Data.text name).isTruthy = true ∧ (Data.text name).isText "object" = false := by
  have hempty : name ≠ "" := by
    rintro rfl
    exact absurd hname (by decide)
  have hobject : name ≠ "object" := by
    rintro rfl
    exact absurd hname (by decide)
  exact ⟨by simpa [Data.isTruthy, Scalar.isTruthy] using hempty,
    by simpa [Data.isText] using hobject⟩

private theorem isText_array (harray : name ≠ "array") :
    (Data.text name).isText "array" = false := by
  simpa [Data.isText] using harray

private theorem ofProperty_of_scalarType (hname : name ∈ FieldType.typeNames)
    (harray : name ≠ "array") (htype : Entries.value es "type" = .text name)
    (hreference : Entries.value es "$ref" = .null)
    (hcomposition : (Entries.value es "allOf").isTruthy = false)
    (hown : (Entries.value es key).isTruthy = false)
    (hitems : ((Entries.value es "items").value key).isTruthy = false) :
    Shape.ofProperty key (.map es) = Shape.withDefaultOf es
      (.typed (FieldType.ofEntries es) (Shape.choicesOf es)) := by
  obtain ⟨htruthy, hobject⟩ := truthy_of_typeName hname
  have hnull : Data.isNull .null = true := rfl
  have hform : Form.ofEntries key es = .scalar := by
    simp only [Form.ofEntries, Form.referenceOf, hown, hitems, htype, hreference, hcomposition,
      htruthy, hobject, isText_array harray, hnull, Bool.and_false, Bool.not_true,
      Bool.or_self, Bool.false_eq_true, if_false]
  exact Shape.ofProperty_of_typed (Or.inr hform)

end Form

namespace IsScalarBody

variable {key : String} {body : Entries Data}

theorem isTruthy_type (h : IsScalarBody key body) :
    (Entries.value body "type").isTruthy = true := by
  obtain ⟨name, hname, -, htype⟩ := h.type
  rw [htype]
  exact (truthy_of_typeName hname).1

theorem key_ne_type (h : IsScalarBody key body) (hblock : Data.Unblocked key body) :
    key ≠ "type" := by
  rintro rfl
  exact absurd (h.isTruthy_type.symm.trans hblock) (by decide)

private theorem isContainer_eq (h : IsScalarBody key body) : Context.isContainer body = false := by
  obtain ⟨name, hname, harray, htype⟩ := h.type
  simp only [Context.isContainer, htype, isText_array harray, (truthy_of_typeName hname).2,
    Bool.or_self]

theorem ofNode_eq (h : IsScalarBody key body) :
    Shape.ofNode key body = .typed (FieldType.ofEntries body) none := by
  refine Shape.ofNode_of_typed key h.properties h.isTruthy_type ?_
  obtain ⟨name, hname, -, htype⟩ := h.type
  rw [htype]
  exact (truthy_of_typeName hname).2

theorem ofProperty_eq (h : IsScalarBody key body)
    (hblocks : (Data.map body).Throughout (Data.Unblocked key)) :
    Shape.ofProperty key (.map body) = Shape.withDefaultOf body
      (.typed (FieldType.ofEntries body) (Shape.choicesOf body)) := by
  obtain ⟨name, hname, harray, htype⟩ := h.type
  exact ofProperty_of_scalarType hname harray htype h.reference h.composition hblocks.1
    (Data.isTruthy_value_of_throughout (Data.throughout_value hblocks.values "items"))

private theorem value_erase_of_read (h : IsScalarBody key body) {word : String}
    (hword : word ∈ ["format", "enum"]) :
    Entries.value (Entries.erase body (.text key)) word = Entries.value body word := by
  rw [Entries.value_erase]
  split
  · next hsame =>
    obtain rfl : key = word := by simpa using Scalar.same_text.mp hsame
    exact (h.unread hword).symm
  · rfl

private theorem falsy_value_erase {es : Entries Data} {word : String}
    (h : (Entries.value es word).isTruthy = false) (name : Scalar) :
    (Entries.value (Entries.erase es name) word).isTruthy = false := by
  rw [Entries.value_erase]
  split
  · rfl
  · exact h

private theorem ofProperty_erase_eq (h : IsScalarBody key body)
    (hblocks : (Data.map body).Throughout (Data.Unblocked key)) :
    Shape.ofProperty key (.map (Entries.erase body (.text key))) =
      Shape.withDefaultOf (Entries.erase body (.text key))
        (.typed (FieldType.ofEntries body) (Shape.choicesOf body)) := by
  obtain ⟨name, hname, harray, htype⟩ := h.type
  have hkey := h.key_ne_type hblocks.1
  have hread : Entries.value (Entries.erase body (.text key)) "type" = .text name := by
    rw [Entries.value_erase, Scalar.same_text_of_ne hkey, if_neg Bool.false_ne_true, htype]
  have hmapped : FieldType.ofEntries (Entries.erase body (.text key)) =
      FieldType.ofEntries body := by
    rw [FieldType.ofEntries_eq, FieldType.ofEntries_eq, hread, htype,
      h.value_erase_of_read (by decide : "format" ∈ ["format", "enum"])]
    simp only [if_neg harray]
  have hchoices : Shape.choicesOf (Entries.erase body (.text key)) = Shape.choicesOf body := by
    unfold Shape.choicesOf
    rw [h.value_erase_of_read (by decide)]
  have hitems : ((Entries.value (Entries.erase body (.text key)) "items").value key).isTruthy =
      false := by
    rw [Entries.value_erase]
    split
    · rfl
    · exact Data.isTruthy_value_of_throughout (Data.throughout_value hblocks.values "items")
  have hreference : Entries.value (Entries.erase body (.text key)) "$ref" = .null := by
    rw [Entries.value_erase, h.reference, ite_self]
  rw [← hmapped, ← hchoices]
  exact ofProperty_of_scalarType hname harray hread hreference (falsy_value_erase h.composition _)
    (falsy_value_erase hblocks.1 _) hitems

variable {ctx : Context} {lookup : Scalar → Except Fault Data} {resolve : Resolve (Except Fault)}

private theorem compileShape_typedOf (owner field : Scalar) (entries : Entries Data)
    (type : Except Fault FieldType) (choices : Option (List Data)) :
    BothYield (fun v type => Value.SameRuleIfAny v (some (Context.typedDescriptor type choices)))
      (ctx.compileShape resolve owner field .null
        (Shape.withDefaultOf entries (.typed type choices))) type := by
  unfold Shape.withDefaultOf
  cases type with
  | error fault =>
    split
    all_goals
      simp only [Context.compileShape, ofExcept_eq]
      exact .fault fault
  | ok type =>
    have hsame : Value.SameRule (Context.typedDescriptor type choices)
        (Context.typedDescriptor type choices) := .refl rfl
    split
    · next d _ =>
      simp only [Context.compileShape, ofExcept_eq]
      exact .value (.some (hsame.default_right d).symm)
    · simp only [Context.compileShape, ofExcept_eq]
      exact .value (.some hsame)

/-- A scalar definition is embedded as its type. -/
theorem compileTarget_ruledBy (h : IsScalarBody ctx.extensionKey body)
    (hblocks : (Data.map body).Throughout (Data.Unblocked ctx.extensionKey)) (scalar : String)
    {name field : Scalar} (hfield : ctx.isReserved field = false) (many : Bool) :
    BothYield ((ScalarDefinition.ofBody scalar body).RuledBy many)
      (ctx.compileTarget lookup resolve name field many (.map body))
      (ScalarDefinition.ofBody scalar body).type := by
  rw [Context.compileTarget_map, h.isContainer_eq, if_neg Bool.false_ne_true]
  simp only [Context.compilePropertyWith, hfield, Bool.false_eq_true, if_false,
    h.ofProperty_erase_eq hblocks]
  have htyped := @compileShape_typedOf ctx resolve name field
    (Entries.erase body (.text ctx.extensionKey)) (FieldType.ofEntries body) (Shape.choicesOf body)
  generalize ctx.compileShape resolve name field .null _ = outcome at htyped ⊢
  have htype : (ScalarDefinition.ofBody scalar body).type = FieldType.ofEntries body := rfl
  rw [htype]
  generalize FieldType.ofEntries body = type at htyped ⊢
  cases htyped with
  | fault fault => exact .fault fault
  | value hsame =>
    cases hsame with
    | some hsame =>
      refine .value ?_
      cases many with
      | true => exact .some (.array hsame.rule)
      | false => exact .some hsame

end IsScalarBody

end StoreSchema
