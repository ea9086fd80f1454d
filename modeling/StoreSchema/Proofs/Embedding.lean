import StoreSchema.Proofs.CycleGuard
import StoreSchema.Proofs.Reentry

/-!
The map that a definition is embedded as.

Without the cycle guard, what an object is embedded as depends on nothing but the definitions: not
on the stack, nor on what a run remembers, nor on the owner or the field of the reference, unless
the owner is the object itself. Main statement of this module: every reference to an object embeds
one and the same map, and that map is what the object compiles to as a definition of its own.
-/

set_option autoImplicit false

namespace StoreSchema

section RefersTo

variable {key target : String} {many : Bool} {entries items : Entries Data}

/-- The entries of a property that refers to a definition, itself or through the items of an array,
and holds no extension block. -/
inductive RefersTo (key target : String) : Bool → Entries Data → Prop where
  | one {entries : Entries Data} (hblock : (Entries.value entries key).isTruthy = false)
      (hitems : Entries.has entries (.text "items") = false)
      (hpointer : Pointer.target (Entries.value entries "$ref") = .ok target) :
      RefersTo key target false entries
  | array {entries items : Entries Data} (hblock : (Entries.value entries key).isTruthy = false)
      (hown : Entries.value entries "$ref" = .null)
      (htype : Entries.value entries "type" = .text "array")
      (hitems : Entries.value entries "items" = .map items)
      (hinner : (Entries.value items key).isTruthy = false)
      (hpointer : Pointer.target (Entries.value items "$ref") = .ok target) :
      RefersTo key target true entries

private theorem isNull_of_target {reference : Data} (h : Pointer.target reference = .ok target) :
    reference.isNull = false := by
  cases reference with
  | scalar s => cases s <;> first | rfl | cases h
  | _ => rfl

theorem RefersTo.form (h : RefersTo key target many entries) :
    Form.ofEntries key entries = .reference target many := by
  cases h with
  | one hblock hitems hpointer =>
    have hnull : Entries.value entries "items" = .null := by
      unfold Entries.has at hitems
      rw [Option.isSome_eq_false_iff, Option.isNone_iff_eq_none] at hitems
      rw [Entries.value, hitems]
      rfl
    have hown := isNull_of_target hpointer
    have hreference : Form.referenceOf entries = Entries.value entries "$ref" := by
      simp only [Form.referenceOf, hown, Bool.false_and, Bool.false_eq_true, if_false]
    have hinner : ((Data.null).value key).isTruthy = false := rfl
    simp only [Form.ofEntries, hblock, hnull, hinner, hreference, hown, hpointer, Bool.not_false,
      Bool.false_eq_true, if_false, if_true]
    rfl
  | @array _ items hblock hown htype hitems hinner hpointer =>
    have hnull := isNull_of_target hpointer
    have hreference : Form.referenceOf entries = Entries.value items "$ref" := by
      rw [Form.referenceOf, hown, htype, hitems]
      rfl
    have hitem : ((Data.map items).value key).isTruthy = false := hinner
    simp only [Form.ofEntries, hblock, hitems, hitem, hreference, hnull, hpointer, Bool.not_false,
      Bool.false_eq_true, if_false, if_true]
    rfl

theorem RefersTo.shape (h : RefersTo key target many entries) :
    Shape.ofProperty key (.map entries) =
      Shape.withDefaultOf entries (.reference target many) := by
  have hform : Form.ofEntries key entries ≠ .embedded := by
    rw [h.form]
    intro h
    cases h
  rw [Shape.ofProperty_of_form hform, h.form]
  rfl

end RefersTo

/-- The embedded map of an object with these fields, or a list of it. -/
def Value.expanded (fields : Entries Value) : Bool → Value
  | true => .list [.embedded fields]
  | false => .embedded fields

/-- The value with the facets that its property gives it: what the owner says about required
fields, then the default. -/
def Value.withOwnFacets (v : Value) (entries : Entries Data) (field : Scalar) (required : Data) :
    Value :=
  let v := v.fillRequired field required
  match Entries.get? entries (.text "default") with
  | some default => v.withDefault default
  | none => v

namespace Context

def compiledFrom (ctx : Context) (name : Scalar) (expansion : Except Fault (Entries Value)) :
    Except Fault (Option Compiled) := do
  let fields ← expansion
  let index ← ctx.extensions.indexFor name
  pure (some
    { name
      properties := .embedded fields
      options := ctx.extensions.optionsFor name
      index })

/-- A property that refers to a definition from a field, which is not reserved, of another owner. -/
structure ReferenceTo (ctx : Context) (target : String) where
  many : Bool
  entries : Entries Data
  owner : Scalar
  field : Scalar
  refers : RefersTo ctx.extensionKey target many entries
  foreign : owner ≠ .text target
  isOpen : ctx.isReserved field = false

/-- What the fields of a definition compile to is embedded for every reference to it, on any stack
and whatever normal forms are remembered. -/
structure EmbedsAs (ctx : Context) (target : String) (expansion : Except Fault (Entries Value)) :
    Prop where
  /-- What a reference compiles to before its own facets. -/
  resolved : ∀ (r : ctx.ReferenceTo target) {p : Progress}, ctx.Remembers p →
    (ctx.resolveProperty (.map r.entries) r.field r.owner).outcome p =
      expansion.map fun fields => some (Value.expanded fields r.many)
  /-- What the property compiles to. -/
  compiled : ∀ (r : ctx.ReferenceTo target) (required : Data) {p : Progress}, ctx.Remembers p →
    (ctx.compileProperty (.map r.entries) r.field required r.owner).outcome p =
      expansion.map fun fields =>
        some ((Value.expanded fields r.many).withOwnFacets r.entries r.field required)
  /-- Inside other definitions the property compiles to the same, unless the references that may
  still be followed there do not suffice. -/
  nested : ∀ (r : ctx.ReferenceTo target) (required : Data) (depth : Nat) {p : Progress},
    ctx.Remembers p →
      Approximates
        ((ctx.compilePropertyWith (ctx.resolve (ctx.embed Compile.within depth)) (.map r.entries)
          r.field required r.owner).outcome p)
        (expansion.map fun fields =>
          some ((Value.expanded fields r.many).withOwnFacets r.entries r.field required))
  /-- The definition compiles to these fields. -/
  whole : ctx.extensions.isExcluded (.text target) = false →
    ctx.extensions.additionalFor (.text target) = [] → ∀ {p : Progress}, ctx.Remembers p →
      (ctx.compileDefinition (.text target)).outcome p = ctx.compiledFrom (.text target) expansion

section Embedding

variable {ctx : Context} {target : String} {entries : Entries Data} {stack : List Scalar}
  {expansion : Except Fault (Entries Value)}

theorem exists_compileNode_of_objectLike {resolve : Resolve (Except Fault)}
    (hobject : ObjectLike entries) (owner : Scalar) :
    ∃ expansion : Except Fault (Entries Value),
      ctx.compileNode resolve owner (Shape.ofNode ctx.extensionKey entries) =
        expansion.map .embedded := by
  have hfields : ∀ required members, ∃ expansion : Except Fault (Entries Value),
      ctx.compileNode resolve owner (.fields required members) = expansion.map .embedded :=
    fun required members => ⟨ctx.compileMembers resolve owner required members, rfl⟩
  have hfault : ∀ fault : Fault, ∃ expansion : Except Fault (Entries Value),
      (throw fault : Except Fault Value) = expansion.map .embedded :=
    fun fault => ⟨.error fault, rfl⟩
  rw [Shape.ofNode]
  split
  · exact hfields _ _
  · split
    · exact hfields _ _
    · next htype =>
      rcases hobject with hobject | ⟨hnull, -⟩
      · rw [if_pos hobject]
        exact hfields _ _
      · exact absurd hnull htype
  · exact hfault _
  · exact hfault _

theorem exists_expansion (hguard : ctx.settings.detectCycles = false)
    (hnode : ctx.normalForm (.text target) = .ok (.map entries)) (hobject : ObjectLike entries) :
    ∃ expansion : Except Fault (Entries Value), ∀ stack,
      ctx.fieldsMeaning stack (.text target) = expansion.map .embedded := by
  have hexists : ∃ expansion : Except Fault (Entries Value),
      ctx.compileNode (ctx.resolution ctx.embedded []) (.text target)
        (Shape.ofNode ctx.extensionKey entries) = expansion.map .embedded :=
    exists_compileNode_of_objectLike hobject (.text target)
  obtain ⟨expansion, hexpansion⟩ := hexists
  refine ⟨expansion, fun stack => ?_⟩
  rw [fieldsMeaning_map hnode, meaning, embedAt_unguarded hguard _ _ [],
    resolution_unguarded hguard _ _ []]
  exact hexpansion

/-- Under a field that is not reserved, a reference to an object embeds its fields. -/
theorem embedded_eq_of_fieldsMeaning (hguard : ctx.settings.detectCycles = false)
    (hnode : ctx.normalForm (.text target) = .ok (.map entries)) (hobject : ObjectLike entries)
    (hexpansion : ∀ stack, ctx.fieldsMeaning stack (.text target) = expansion.map .embedded)
    {field : Scalar} (hopen : ctx.isReserved field = false) (many : Bool) :
    ctx.embedded field target many =
      expansion.map fun fields => some (Value.expanded fields many) := by
  have hfields : ctx.compileSetWith ctx.normalForm (ctx.resolution ctx.embedded [])
      (.text target) (.map entries) = expansion.map .embedded := by
    rw [← hexpansion []]
    simp only [fieldsMeaning, meaning, hnode, ok_bind]
    rw [embedAt_unguarded hguard _ ([] ++ [Scalar.text target]) [],
      resolution_unguarded hguard _ ([] ++ [Scalar.text target]) []]
    rfl
  rw [embedded_eq hguard hopen]
  simp only [expand, ofExcept_eq, hnode, ok_bind]
  rw [compileTarget_of_objectLike hobject, hfields]
  cases expansion <;> cases many <;> rfl

theorem resolution_of_foreign (hguard : ctx.settings.detectCycles = false)
    (hnode : ctx.normalForm (.text target) = .ok (.map entries)) {owner : Scalar}
    (hforeign : owner ≠ .text target) (embed : Embed (Except Fault)) (field : Scalar)
    (many : Bool) :
    ctx.resolution embed stack owner field target many = embed field target many := by
  have hregistered := requireDefinition_of_normalForm hnode
  have howner : owner.same (.text target) = false := by
    rw [Bool.eq_false_iff, Ne, Scalar.same_text]
    exact hforeign
  simp only [resolution, isSelfReference, hregistered, howner, hguard, ofExcept_eq, ok_bind,
    Bool.false_and, Bool.or_self, Bool.false_eq_true, if_false]

private theorem compileShape_reference {resolve : Resolve (Except Fault)} {owner field : Scalar}
    {many : Bool} {required : Data}
    (h : resolve owner field target many =
      expansion.map fun fields => some (Value.expanded fields many)) :
    ctx.compileShape resolve owner field required
        (Shape.withDefaultOf entries (.reference target many)) =
      expansion.map fun fields =>
        some ((Value.expanded fields many).withOwnFacets entries field required) := by
  unfold Shape.withDefaultOf Value.withOwnFacets
  cases Entries.get? entries (.text "default") with
  | none =>
    simp only [compileShape, h]
    cases expansion <;> rfl
  | some default =>
    simp only [compileShape, h]
    cases expansion <;> rfl

/-- Following any number of references in a row gives what is embedded, if it gives anything. -/
theorem embedAt_approximates_embedded (hguard : ctx.settings.detectCycles = false) (depth : Nat)
    {field : Scalar} (hopen : ctx.isReserved field = false) (many : Bool) :
    Approximates (ctx.embedAt depth [] field target many) (ctx.embedded field target many) := by
  rcases Nat.le_total depth ctx.referenceBound with hle | hle
  · exact embedAt_mono hle [] field target many
  · obtain ⟨k, rfl⟩ := Nat.exists_eq_add_of_le hle
    rw [embedAt_referenceBound hguard k hopen]
    exact .refl _

/-- Without the guard, what an object is embedded as is the same for every reference to it from
elsewhere, and is what it compiles to as a definition of its own. -/
theorem exists_embedsAs (hguard : ctx.settings.detectCycles = false)
    (hnode : ctx.normalForm (.text target) = .ok (.map entries)) (hobject : ObjectLike entries) :
    ∃ expansion, ctx.EmbedsAs target expansion := by
  obtain ⟨expansion, hfields⟩ := exists_expansion hguard hnode hobject
  have hmeaning : ∀ (r : ctx.ReferenceTo target) stack,
      ctx.meaning stack r.owner r.field target r.many =
        expansion.map fun fields => some (Value.expanded fields r.many) := by
    intro r stack
    rw [meaning, resolution_of_foreign hguard hnode r.foreign, embedAt_unguarded hguard _ stack []]
    exact embedded_eq_of_fieldsMeaning hguard hnode hobject hfields r.isOpen r.many
  have hcompiled : ∀ (r : ctx.ReferenceTo target) (required : Data) stack,
      ctx.compilePropertyWith (ctx.meaning stack) (.map r.entries) r.field required r.owner =
        expansion.map fun fields =>
          some ((Value.expanded fields r.many).withOwnFacets r.entries r.field
            required) := by
    intro r required stack
    rw [compilePropertyWith, r.isOpen, if_neg Bool.false_ne_true, r.refers.shape]
    exact compileShape_reference (hmeaning r stack)
  refine ⟨expansion, ⟨fun r p hmem => ?_, fun r required p hmem => ?_,
    fun r required depth p hmem => ?_, fun hincluded hnone p hmem => ?_⟩⟩
  · have hform : ctx.formOf (.map r.entries) r.field r.owner = .ok (.reference target r.many) := by
      simp only [formOf, r.refers.form]
    rw [resolveProperty, hform]
    rw [← hmeaning r p.resolving]
    exact (resolveWithin_yields p.resolving _ _ _ _ _ r.isOpen p rfl hmem).1
  · rw [← hcompiled r required p.resolving]
    exact (compileProperty_yields p.resolving _ r.field required r.owner p rfl hmem).1
  · have hyields := (compilePropertyWith_related (sequential_yields ctx p.resolving)
      (resolveWithin_yields p.resolving depth) (.map r.entries) r.field required r.owner p rfl
      hmem).1
    rw [hyields, ← hcompiled r required []]
    refine compilePropertyWith_related sequential_approximates ?_ _ _ _ _
    rw [embedAt_unguarded hguard _ _ [], resolution_unguarded hguard _ _ []]
    exact resolution_related sequential_approximates fun field target many hopen =>
      embedAt_approximates_embedded hguard depth hopen many
  · rw [(compileDefinition_yields p.resolving (.text target) p rfl hmem).1]
    simp only [definitionMeaning, compileDefinitionWith, hincluded, hnone, hfields,
      Bool.false_eq_true, if_false, compileAdditional, ofExcept_eq, compiledFrom]
    cases expansion <;> rfl

end Embedding

section Dwelling

/-- A definition with one field. -/
def dwelling : Context where
  definitions := [(.text "Address", .map address)]
where
  address : Entries Data :=
    [(.text "type", .text "object"),
      (.text "properties", .map [(.text "street", .map [(.text "type", .text "string")])])]

private theorem ofNode_address :
    Shape.ofNode "_mongoose" dwelling.address =
      .fields .null [(.text "street", .typed (.ok (.scalar .text)) none)] :=
  Shape.ofNode_of_property rfl (Shape.ofProperty_string (by decide))

private theorem fieldsMeaning_address :
    dwelling.fieldsMeaning [] (.text "Address") =
      .ok (.embedded [(.text "street", .map [(.text "type", .type .text)])]) := by
  have hnode : dwelling.normalForm (.text "Address") = .ok (.map dwelling.address) := rfl
  have hkey : dwelling.extensionKey = "_mongoose" := rfl
  rw [fieldsMeaning_map hnode, hkey, ofNode_address]
  rfl

private def home : dwelling.ReferenceTo "Address" where
  many := false
  entries := [(.text "$ref", .text "#/definitions/Address")]
  owner := .text "Person"
  field := .text "home"
  refers := .one rfl rfl rfl
  foreign := by decide
  isOpen := rfl

private def homes : dwelling.ReferenceTo "Address" where
  many := true
  entries :=
    [(.text "type", .text "array"),
      (.text "items", .map [(.text "$ref", .text "#/definitions/Address")])]
  owner := .text "Person"
  field := .text "homes"
  refers := .array rfl rfl rfl rfl rfl rfl
  foreign := by decide
  isOpen := rfl

/-- Every reference to the definition embeds its one field, and an array of references a list of
it. -/
theorem address_embedsAs :
    ∃ expansion, dwelling.EmbedsAs "Address" expansion ∧
      expansion = .ok [(.text "street", .map [(.text "type", .type .text)])] ∧
      (dwelling.resolveProperty (.map [(.text "$ref", .text "#/definitions/Address")])
          (.text "home") (.text "Person")).outcome {} =
        .ok (some (.embedded [(.text "street", .map [(.text "type", .type .text)])])) ∧
      (dwelling.resolveProperty (.map [(.text "type", .text "array"),
            (.text "items", .map [(.text "$ref", .text "#/definitions/Address")])])
          (.text "homes") (.text "Person")).outcome {} =
        .ok (some (.list [.embedded [(.text "street", .map [(.text "type", .type .text)])]])) := by
  have hguard : dwelling.settings.detectCycles = false := rfl
  have hnode : dwelling.normalForm (.text "Address") = .ok (.map dwelling.address) := rfl
  have hobject : ObjectLike dwelling.address := Or.inl rfl
  obtain ⟨expansion, h⟩ := exists_embedsAs hguard hnode hobject
  have hexpansion : expansion = .ok [(.text "street", .map [(.text "type", .type .text)])] := by
    have hwhole := h.whole rfl rfl (remembers_start [])
    rw [(compileDefinition_yields [] (.text "Address") {} rfl (remembers_start [])).1,
      definitionMeaning, compileDefinitionWith, fieldsMeaning_address] at hwhole
    cases expansion with
    | error fault => cases hwhole
    | ok fields =>
      injection hwhole with hwhole
      injection hwhole with hwhole
      injection hwhole with _ hfields
      injection hfields with hfields
      rw [← hfields]
      rfl
  have hhome := h.resolved home (remembers_start [])
  have hhomes := h.resolved homes (remembers_start [])
  subst hexpansion
  exact ⟨_, h, rfl, hhome, hhomes⟩

end Dwelling

end Context

end StoreSchema
