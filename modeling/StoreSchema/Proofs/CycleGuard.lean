import StoreSchema.Proofs.Meaning
import StoreSchema.Proofs.Shapes

/-!
The cycle guard and the runs that end without it.

A definition that is met again while it is being compiled would, without the guard, be embedded in
itself for ever. Main statement of this module: where every definition is an object or has a type,
a run that ends without the guard ends in the same with it.

The argument is about the least number of nested references with which an embedded definition
ends: with one less it does not, and so nothing that ends with one less refers to it.
-/

set_option autoImplicit false

namespace StoreSchema

namespace Context

def guarding (ctx : Context) (detectCycles : Bool) : Context :=
  { ctx with settings := { ctx.settings with detectCycles } }

variable {ctx : Context} {detectCycles : Bool}

theorem normalForm_guarding (name : Scalar) :
    (ctx.guarding detectCycles).normalForm name = ctx.normalForm name := by
  have hat : ∀ depth, (ctx.guarding detectCycles).normalAt depth = ctx.normalAt depth := by
    intro depth
    induction depth with
    | zero => rfl
    | succ depth ih =>
      rw [normalAt, ih]
      rfl
  exact congrFun (hat _) name

theorem alike_guarding (ctx : Context) (detectCycles : Bool) :
    (ctx.guarding detectCycles).Alike ctx where
  extensionKey := rfl
  isReserved _ := rfl
  override _ _ _ := rfl
  extensions := rfl

theorem embedAt_guarding (detectCycles : Bool) (depth : Nat) (stack : List Scalar) (field : Scalar)
    (target : String) (many : Bool) :
    (ctx.guarding detectCycles).embedAt (depth + 1) stack field target many = (do
      let node ← ctx.normalForm (.text target)
      ctx.compileTarget ctx.normalForm
        ((ctx.guarding detectCycles).resolution
          ((ctx.guarding detectCycles).embedAt depth (stack ++ [.text target]))
          (stack ++ [.text target]))
        (.text target) field many node) := by
  simp only [embedAt, (alike_guarding ctx detectCycles).compileTarget_eq,
    funext normalForm_guarding]

end Context

namespace Context

/-- An object, by its type or for want of one by its properties. -/
def ObjectLike (entries : Entries Data) : Prop :=
  (Entries.value entries "type").isText "object" = true ∨
    Entries.value entries "type" = .null ∧ Entries.has entries (.text "properties") = true

/-- Another type that is not empty, and no properties. -/
def OtherwiseTyped (entries : Entries Data) : Prop :=
  (Entries.value entries "type").isTruthy = true ∧
    (Entries.value entries "type").isText "object" = false ∧
    Entries.has entries (.text "properties") = false

/-- Every normal form is object-like or has another type. -/
def Kinded (ctx : Context) : Prop :=
  ∀ name node, ctx.normalForm name = .ok node →
    ∃ entries, node = .map entries ∧ (ObjectLike entries ∨ OtherwiseTyped entries)

section Targets

variable {ctx : Context} {lookup : Scalar → Except Fault Data} {resolve : Resolve (Except Fault)}
  {entries : Entries Data}

theorem compileTarget_of_objectLike (h : ObjectLike entries) (name field : Scalar) (many : Bool) :
    ctx.compileTarget lookup resolve name field many (.map entries) = (do
      let v ← ctx.compileSetWith lookup resolve name (.map entries)
      pure (some (v.manyOf many))) := by
  have hcontainer : isContainer entries = true := by
    unfold isContainer
    rcases h with htype | ⟨htype, hprops⟩
    · split
      · next hnull => rw [hnull] at htype; cases htype
      · rw [htype, Bool.or_true]
    · rw [htype, hprops, Bool.true_or]
  have harray : (Entries.value entries "type").isText "array" = false := by
    rcases h with htype | ⟨htype, -⟩
    · cases hv : Entries.value entries "type" with
      | scalar s =>
        rw [hv] at htype
        cases s <;> simp_all [Data.isText]
      | _ => rfl
    · rw [htype]
      rfl
  rw [compileTarget_map, if_pos hcontainer, if_neg (by rw [harray]; exact Bool.false_ne_true)]

theorem compileSetWith_of_otherwiseTyped (h : OtherwiseTyped entries)
    (hplain : Composition.isComposed (.map entries) = false)
    (resolve resolve' : Resolve (Except Fault)) (owner : Scalar) :
    ctx.compileSetWith lookup resolve owner (.map entries) =
      ctx.compileSetWith lookup resolve' owner (.map entries) := by
  obtain ⟨htype, hobject, hprops⟩ := h
  have hnull : Entries.value entries "properties" = .null := by
    unfold Entries.has at hprops
    rw [Option.isSome_eq_false_iff, Option.isNone_iff_eq_none] at hprops
    rw [Entries.value, hprops]
    rfl
  have hshape := Shape.ofNode_of_typed ctx.extensionKey hnull htype hobject
  rw [compileSetWith_map hplain, compileSetWith_map hplain, hshape]
  rfl

private theorem compileShape_field {field field' : Scalar} (form : Form) (owner : Scalar)
    (hres : ∀ target many, resolve owner field target many = resolve owner field' target many) :
    ctx.compileShape resolve owner field .null
        (Shape.withDefaultOf entries (Shape.ofForm entries form)) =
      ctx.compileShape resolve owner field' .null
        (Shape.withDefaultOf entries (Shape.ofForm entries form)) := by
  have hform : ctx.compileShape resolve owner field .null (Shape.ofForm entries form) =
      ctx.compileShape resolve owner field' .null (Shape.ofForm entries form) := by
    cases form with
    | reference target many =>
      simp only [Shape.ofForm, compileShape, hres]
      rfl
    | malformed _ | composed => simp only [Shape.ofForm, compileShape]
    | override _ _ _ | embedded | array | scalar =>
      simp only [Shape.ofForm, compileShape]
      rfl
  unfold Shape.withDefaultOf
  split
  · simp only [compileShape, hform]
  · exact hform

/-- Whatever field refers to a definition that is an object or has another type, it is embedded as
the same. -/
theorem compileTarget_field (hkey : ctx.extensionKey ≠ "type")
    (h : ObjectLike entries ∨ OtherwiseTyped entries) {field field' : Scalar}
    (hfield : ctx.isReserved field = false) (hfield' : ctx.isReserved field' = false)
    (name : Scalar) (many : Bool)
    (hres : ∀ target many, resolve name field target many = resolve name field' target many) :
    ctx.compileTarget lookup resolve name field many (.map entries) =
      ctx.compileTarget lookup resolve name field' many (.map entries) := by
  rcases h with hobject | ⟨htype, hobject, -⟩
  · rw [compileTarget_of_objectLike hobject, compileTarget_of_objectLike hobject]
  · have hother : (Scalar.text ctx.extensionKey).same (.text "type") = false := by
      rw [Bool.eq_false_iff, Ne, Scalar.same_text]
      intro h
      injection h with h
      exact hkey h
    have hstripped : Entries.value (Entries.erase entries (.text ctx.extensionKey)) "type" =
        Entries.value entries "type" := by
      rw [Entries.value, Entries.get?_erase_other hother]
      rfl
    have hform : Form.ofEntries ctx.extensionKey
        (Entries.erase entries (.text ctx.extensionKey)) ≠ .embedded :=
      Form.ofEntries_ne_embedded _ (by rw [hstripped, htype]) (by rw [hstripped, hobject])
    have hclone : ctx.compilePropertyWith resolve
          (.map (Entries.erase entries (.text ctx.extensionKey))) field .null name =
        ctx.compilePropertyWith resolve
          (.map (Entries.erase entries (.text ctx.extensionKey))) field' .null name := by
      simp only [compilePropertyWith, hfield, hfield', Bool.false_eq_true, if_false]
      rw [Shape.ofProperty_of_form hform]
      exact compileShape_field _ name hres
    simp only [compileTarget_map, hclone]

end Targets

section Transparent

variable {ctx : Context} {stack : List Scalar}

/-- What an embedded definition compiles to without the guard, following at most `depth` references
in a row. -/
abbrev unguardedAt (ctx : Context) (depth : Nat) : Embed (Except Fault) :=
  (ctx.guarding false).embedAt depth []

/-- Without the guard a definition is embedded as the same under any field. -/
theorem unguardedAt_field (hkey : ctx.extensionKey ≠ "type") (hkinds : ctx.Kinded)
    {field field' : Scalar} (hfield : ctx.isReserved field = false)
    (hfield' : ctx.isReserved field' = false) (depth : Nat) (target : String) (many : Bool) :
    ctx.unguardedAt depth field target many = ctx.unguardedAt depth field' target many := by
  induction depth generalizing target many with
  | zero => rfl
  | succ depth ih =>
    unfold unguardedAt at ih ⊢
    rw [embedAt_guarding, embedAt_guarding]
    cases hnode : ctx.normalForm (.text target) with
    | error fault => rfl
    | ok node =>
      obtain ⟨entries, rfl, hkind⟩ := hkinds _ _ hnode
      apply compileTarget_field hkey hkind hfield hfield'
      intro target' many'
      unfold resolution
      rw [@embedAt_unguarded (ctx.guarding false) rfl depth _ [], ih target' many']

/-- Every definition on the stack goes on for ever if it is embedded without the guard and at most
`depth` references are followed in a row. -/
def Blocked (ctx : Context) (depth : Nat) (stack : List Scalar) : Prop :=
  ∀ target : String, (stack.any fun name => name.same (.text target)) = true →
    ∀ field many, ctx.isReserved field = false →
      ¬ Ends (ctx.unguardedAt depth field target many)

private theorem Blocked.of_succ {depth : Nat} (h : ctx.Blocked (depth + 1) stack) :
    ctx.Blocked depth stack := by
  intro target hmem field many hfield hends
  exact h target hmem field many hfield ((embedAt_grows depth [] field target many).ends hends)

theorem Blocked.push {depth : Nat} {name : Scalar} (h : ctx.Blocked depth stack)
    (hname : ∀ target, name = .text target → ∀ field many, ctx.isReserved field = false →
      ¬ Ends (ctx.unguardedAt depth field target many)) :
    ctx.Blocked depth (stack ++ [name]) := by
  intro target hmem
  rw [List.any_append, Bool.or_eq_true] at hmem
  rcases hmem with hmem | hmem
  · exact h target hmem
  · rw [List.any_cons, List.any_nil, Bool.or_false, Scalar.same_text] at hmem
    exact hname target hmem

/-- Where references are compared as far as the stack allows, the guard changes only what would not
end. -/
theorem resolution_guarded {depth : Nat} (hblocked : ctx.Blocked depth stack)
    (hembed : ∀ field target many, ctx.isReserved field = false →
      Approximates (ctx.unguardedAt depth field target many)
        ((ctx.guarding true).embedAt depth stack field target many)) :
    ctx.Resolves (fun _ a b => Approximates a b)
      ((ctx.guarding false).resolution ((ctx.guarding false).embedAt depth stack) stack)
      ((ctx.guarding true).resolution ((ctx.guarding true).embedAt depth stack) stack) := by
  intro owner field target many hfield
  rw [@embedAt_unguarded (ctx.guarding false) rfl depth stack []]
  have hrequire : (ctx.guarding true).requireDefinition = (ctx.guarding false).requireDefinition :=
    rfl
  unfold resolution isSelfReference
  rw [hrequire]
  refine (Approximates.refl _).bind fun _ => ?_
  cases howner : owner.same (.text target) with
  | true => exact .refl _
  | false =>
    cases hmem : stack.any fun name => name.same (.text target) with
    | true =>
      have hstuck : ¬ Ends (ctx.unguardedAt depth field target many) :=
        hblocked target hmem field many hfield
      exact Or.inl (not_not.mp hstuck)
    | false => exact hembed field target many hfield

/-- Whatever is embedded without the guard and ends is embedded as the same with it, from inside a
stack of definitions that do not end. -/
theorem embedAt_guarded (hkey : ctx.extensionKey ≠ "type") (hkinds : ctx.Kinded) (depth : Nat) :
    ∀ (stack : List Scalar), ctx.Blocked depth stack →
      ∀ (field : Scalar) (target : String) (many : Bool), ctx.isReserved field = false →
        Approximates (ctx.unguardedAt depth field target many)
          ((ctx.guarding true).embedAt depth stack field target many) := by
  induction depth with
  | zero => exact fun stack _ field target many _ => .bot _
  | succ depth ih =>
    intro stack hblocked field target many hfield
    -- The bound is brought down to the least with which the embedded definition ends: there it is
    -- certain that nothing in it leads back to it.
    by_cases hearlier : Ends (ctx.unguardedAt depth field target many)
    · have hlow := ih stack hblocked.of_succ field target many hfield
      have hunguarded := (embedAt_grows depth [] field target many).eq hearlier
      have hguarded := (embedAt_grows depth stack field target many).eq (hlow.ends hearlier)
      unfold unguardedAt at hlow ⊢
      rw [← hunguarded, ← hguarded]
      exact hlow
    · have hinner : ctx.Blocked depth (stack ++ [.text target]) := by
        -- What blocks the target is that one reference less is not enough, under whatever field.
        refine hblocked.of_succ.push fun target' htarget field' many' hfield' hends => ?_
        injection htarget with htarget
        subst htarget
        apply hearlier
        rw [unguardedAt_field hkey hkinds hfield hfield']
        exact fun hstuck => hends (embedAt_fault_many hstuck many')
      unfold unguardedAt
      rw [embedAt_guarding, embedAt_guarding,
        @embedAt_unguarded (ctx.guarding false) rfl depth _ (stack ++ [Scalar.text target]),
        @resolution_unguarded (ctx.guarding false) rfl _ _ (stack ++ [Scalar.text target])]
      refine (Approximates.refl _).bind fun node => ?_
      exact compileTarget_related sequential_approximates
        (resolution_guarded hinner (ih _ hinner)) (fun _ => .refl _) _ field many node

/-- What the fields of a definition compile to at the top of a run, following at most `depth`
references in a row. -/
abbrev fieldsAt (ctx : Context) (detectCycles : Bool) (depth : Nat) (name : Scalar) (node : Data) :
    Except Fault Value :=
  ctx.compileSetWith ctx.normalForm
    ((ctx.guarding detectCycles).resolution
      ((ctx.guarding detectCycles).embedAt depth [name]) [name]) name node

private theorem fieldsAt_grows (detectCycles : Bool) (depth : Nat) (name : Scalar) (node : Data) :
    Approximates (ctx.fieldsAt detectCycles depth name node)
      (ctx.fieldsAt detectCycles (depth + 1) name node) := by
  have hembed := @embedAt_grows (ctx.guarding detectCycles) depth [name]
  have hres : (ctx.guarding detectCycles).Resolves (fun _ a b => Approximates a b)
      ((ctx.guarding detectCycles).resolution ((ctx.guarding detectCycles).embedAt depth [name])
        [name])
      ((ctx.guarding detectCycles).resolution
        ((ctx.guarding detectCycles).embedAt (depth + 1) [name]) [name]) :=
    resolution_related sequential_approximates fun field target many _ => hembed field target many
  have hsame : ctx.Resolves (fun _ a b => Approximates a b) _ _ := hres
  exact compileSetWith_related sequential_approximates hsame (fun _ => .refl _) name node

private theorem ends_fieldsAt {entries : Entries Data} (hobject : ObjectLike entries)
    {target : String} (hnode : ctx.normalForm (.text target) = .ok (.map entries)) {depth : Nat}
    {field : Scalar} {many : Bool}
    (h : Ends (ctx.unguardedAt (depth + 1) field target many)) :
    Ends (ctx.fieldsAt false depth (.text target) (.map entries)) := by
  unfold unguardedAt at h
  rw [embedAt_guarding, hnode, ok_bind, compileTarget_of_objectLike hobject] at h
  exact h.of_bind

/-- The guard changes the fields of a definition only where they do not end without it. -/
theorem fieldsAt_guarded (hkey : ctx.extensionKey ≠ "type") (hkinds : ctx.Kinded) {name : Scalar}
    {node : Data} (hnode : ctx.normalForm name = .ok node) (depth : Nat) :
    Approximates (ctx.fieldsAt false depth name node) (ctx.fieldsAt true depth name node) := by
  obtain ⟨entries, rfl, hobject | htyped⟩ := hkinds _ _ hnode
  · have hnone : ∀ depth, ctx.Blocked depth [] := by
      intro depth target hmem
      cases hmem
    have hstep : ∀ depth, ctx.Blocked depth [name] →
        Approximates (ctx.fieldsAt false depth name (.map entries))
          (ctx.fieldsAt true depth name (.map entries)) := by
      intro depth hblocked
      exact compileSetWith_related sequential_approximates
        (resolution_guarded hblocked (embedAt_guarded hkey hkinds depth [name] hblocked))
        (fun _ => .refl _) name _
    induction depth with
    | zero =>
      have hblocked : ctx.Blocked 0 [name] :=
        (hnone 0).push fun target _ field many _ hends => hends rfl
      exact hstep 0 hblocked
    | succ depth ih =>
      by_cases hearlier : Ends (ctx.fieldsAt false depth name (.map entries))
      · have hunguarded := (fieldsAt_grows false depth name (.map entries)).eq hearlier
        have hguarded := (fieldsAt_grows true depth name (.map entries)).eq (ih.ends hearlier)
        rw [← hunguarded, ← hguarded]
        exact ih
      · -- The fields do not end with one reference less, and so the definition is blocked.
        have hblocked : ctx.Blocked (depth + 1) [name] := by
          refine (hnone (depth + 1)).push fun target htarget field many _ hends => ?_
          subst htarget
          exact hearlier (ends_fieldsAt hobject hnode hends)
        exact hstep (depth + 1) hblocked
  · have hplain := isComposed_normalForm hnode
    rw [fieldsAt, compileSetWith_of_otherwiseTyped htyped hplain _
      ((ctx.guarding true).resolution ((ctx.guarding true).embedAt depth [name]) [name])]
    exact .refl _

private theorem meaning_guarding (detectCycles : Bool) (stack : List Scalar) :
    (ctx.guarding detectCycles).meaning stack =
      (ctx.guarding detectCycles).resolution
        ((ctx.guarding detectCycles).embedAt ctx.referenceBound stack) stack := rfl

private theorem definitionMeaning_guarding (detectCycles : Bool) (name : Scalar) :
    (ctx.guarding detectCycles).definitionMeaning [] name =
      ctx.compileDefinitionWith
        (do
          let node ← ctx.normalForm name
          ctx.fieldsAt detectCycles ctx.referenceBound name node)
        ((ctx.guarding detectCycles).meaning []) name := by
  unfold definitionMeaning fieldsMeaning
  have halike := alike_guarding ctx detectCycles
  simp only [halike.compileDefinitionWith_eq, halike.compileSetWith_eq, funext normalForm_guarding]
  rfl

/-- The guard changes what a definition compiles to only where it does not end without it. -/
theorem definitionMeaning_guarded (hkey : ctx.extensionKey ≠ "type") (hkinds : ctx.Kinded)
    (name : Scalar) :
    Approximates ((ctx.guarding false).definitionMeaning [] name)
      ((ctx.guarding true).definitionMeaning [] name) := by
  have hnone : ctx.Blocked ctx.referenceBound [] := by
    intro target hmem
    cases hmem
  have hres : ctx.Resolves (fun _ a b => Approximates a b) ((ctx.guarding false).meaning [])
      ((ctx.guarding true).meaning []) := by
    rw [meaning_guarding, meaning_guarding]
    exact resolution_guarded hnone (embedAt_guarded hkey hkinds ctx.referenceBound [] hnone)
  rw [definitionMeaning_guarding, definitionMeaning_guarding]
  refine compileDefinitionWith_related sequential_approximates hres ?_ name
  cases hnode : ctx.normalForm name with
  | error fault =>
    rw [error_bind, error_bind]
    exact .refl _
  | ok node =>
    rw [ok_bind, ok_bind]
    exact fieldsAt_guarded hkey hkinds hnode _

/-- Provided that no extension block stands under `type` and that every normal form is object-like
or has another type: what a definition compiles to without the guard, if that ends, it compiles to
with the guard. -/
theorem compileDefinition_guarded (ctx : Context) (p : Progress) (name : Scalar)
    (hkey : ctx.extensionKey ≠ "type") (hkinds : ctx.Kinded) (hstack : p.resolving = [])
    (hmem : ctx.Remembers p)
    (hends : Ends (((ctx.guarding false).compileDefinition name).outcome p)) :
    ((ctx.guarding true).compileDefinition name).outcome p =
      ((ctx.guarding false).compileDefinition name).outcome p := by
  have hremembers : ∀ detectCycles, (ctx.guarding detectCycles).Remembers p := by
    intro detectCycles other node hget
    rw [normalForm_guarding]
    exact hmem other node hget
  have hfree := (compileDefinition_yields [] name p hstack (hremembers false)).1
  have hguarded := (compileDefinition_yields [] name p hstack (hremembers true)).1
  rw [hfree] at hends
  rw [hfree, hguarded]
  exact ((definitionMeaning_guarded hkey hkinds name).eq hends).symm

/-- One definition, with one field that refers back to it. -/
def linked : Context where
  definitions := [(.text "A", .map node)]
where
  node : Entries Data :=
    [(.text "properties", .map [(.text "next", .map [(.text "$ref", .text "#/definitions/A")])])]

private theorem normalForm_linked (name : Scalar) :
    linked.normalForm name = linked.rawDefinition name := by
  cases hraw : linked.rawDefinition name with
  | error fault => rw [normalForm_of_unregistered hraw]
  | ok raw =>
    obtain ⟨key, hmem, -⟩ := exists_key_of_rawDefinition hraw
    obtain ⟨-, rfl⟩ := Prod.mk.inj (List.mem_singleton.mp hmem)
    rw [normalForm_eq, readDefinition_of_raw hraw]
    rfl

private theorem kinded_linked : linked.Kinded := by
  intro name node hnode
  rw [normalForm_linked] at hnode
  obtain ⟨key, hmem, -⟩ := exists_key_of_rawDefinition hnode
  obtain ⟨-, rfl⟩ := Prod.mk.inj (List.mem_singleton.mp hmem)
  exact ⟨linked.node, rfl, Or.inl (Or.inr ⟨rfl, rfl⟩)⟩

private theorem ends_linked :
    Ends (((linked.guarding false).compileDefinition (.text "A")).outcome {}) := by
  have hyields := @compileDefinition_yields (linked.guarding false) [] (.text "A")
  have hraw : linked.rawDefinition (.text "A") = .ok (.map linked.node) := rfl
  have hplain : Composition.isComposed (.map linked.node) = false := rfl
  have hkey : linked.extensionKey = "_mongoose" := rfl
  have hpointer : Shape.ofProperty "_mongoose" (.map [(.text "$ref", .text "#/definitions/A")]) =
      .reference "A" false := Shape.ofProperty_pointer (by decide) rfl
  have hnext : linked.isReserved (.text "next") = false := rfl
  have hnode : Shape.ofNode "_mongoose" linked.node =
      .fields .null [(.text "next", .reference "A" false)] := by
    rw [Shape.ofNode_of_properties "_mongoose" rfl]
    simp only [Shape.members, Bool.false_and, Bool.false_eq_true, if_false, hpointer]
    rfl
  rw [(hyields {} rfl (remembers_start [])).1, definitionMeaning_guarding, compileDefinitionWith,
    if_neg (by decide), normalForm_linked, hraw, ok_bind, fieldsAt, compileSetWith_map hplain, hkey,
    hnode]
  simp only [compileNode, compileMembers, compileShape, hnext, Bool.false_eq_true, if_false]
  rw [resolution, if_pos (by decide)]
  exact ends_ok _

/-- A definition that refers to itself directly compiles to the same with the guard. -/
theorem linked_guarded :
    ((linked.guarding true).compileDefinition (.text "A")).outcome {} =
      ((linked.guarding false).compileDefinition (.text "A")).outcome {} :=
  compileDefinition_guarded linked {} (.text "A") (by decide) kinded_linked rfl
    (remembers_start []) ends_linked

end Transparent

section TypeKeyed

/-- Two definitions that refer to a third, which lists its one field directly and has a mapping
under `type`, the key of its extension block. -/
def typeKeyed : Context where
  definitions :=
    [(.text "A", declaring "z"), (.text "B", declaring "B"), (.text "S", .map shorthand)]
  settings := { legacyExtensionKey := "type" }
where
  /-- A node with one property, a reference to `S`. -/
  declaring (field : String) : Data :=
    .map [(.text "properties",
      .map [(.text field, .map [(.text "$ref", .text "#/definitions/S")])])]
  /-- The entries of `S`. -/
  shorthand : Entries Data :=
    (.text "type", .map [(.text "k", .int 1)]) :: fields
  /-- The field of `S`, which refers to `B`. -/
  fields : Entries Data :=
    [(.text "f", .map [(.text "$ref", .text "#/definitions/B")])]

private theorem rawDefinition_typeKeyed {name : Scalar} {raw : Data}
    (h : typeKeyed.rawDefinition name = .ok raw) :
    raw = typeKeyed.declaring "z" ∨ raw = typeKeyed.declaring "B" ∨
      raw = .map typeKeyed.shorthand := by
  obtain ⟨key, hmem, -⟩ := exists_key_of_rawDefinition h
  simp only [typeKeyed, List.mem_cons, Prod.mk.injEq, List.not_mem_nil, or_false] at hmem
  rcases hmem with ⟨-, h⟩ | ⟨-, h⟩ | ⟨-, h⟩
  · exact Or.inl h
  · exact Or.inr (Or.inl h)
  · exact Or.inr (Or.inr h)

private theorem normalForm_typeKeyed (name : Scalar) :
    typeKeyed.normalForm name = typeKeyed.rawDefinition name := by
  cases hraw : typeKeyed.rawDefinition name with
  | error fault => rw [normalForm_of_unregistered hraw]
  | ok raw =>
    have hplain : Composition.isComposed raw = false := by
      rcases rawDefinition_typeKeyed hraw with rfl | rfl | rfl <;> rfl
    rw [normalForm_eq, readDefinition_of_raw hraw, hplain]
    rfl

private theorem kinded_typeKeyed : typeKeyed.Kinded := by
  intro name node hnode
  rw [normalForm_typeKeyed] at hnode
  rcases rawDefinition_typeKeyed hnode with rfl | rfl | rfl
  · exact ⟨_, rfl, Or.inl (Or.inr ⟨rfl, rfl⟩)⟩
  · exact ⟨_, rfl, Or.inl (Or.inr ⟨rfl, rfl⟩)⟩
  · exact ⟨_, rfl, Or.inr ⟨rfl, rfl, rfl⟩⟩

variable {lookup : Scalar → Except Fault Data} {resolve : Resolve (Except Fault)}

private theorem compileSetWith_declaring (owner : Scalar) {field : String}
    (hfield : typeKeyed.isReserved (.text field) = false) :
    typeKeyed.compileSetWith lookup resolve owner (typeKeyed.declaring field) = (do
      let v ← resolve owner (.text field) "S" false
      pure (.embedded (v.toList.map fun v => (.text field, v)))) := by
  have hplain : Composition.isComposed (typeKeyed.declaring field) = false := rfl
  have hkey : typeKeyed.extensionKey = "type" := rfl
  have hshape : Shape.ofProperty "type" (.map [(.text "$ref", .text "#/definitions/S")]) =
      .reference "S" false := Shape.ofProperty_pointer (by decide) rfl
  unfold typeKeyed.declaring at hplain ⊢
  rw [compileSetWith_map hplain, hkey, Shape.ofNode_of_properties "type" rfl]
  simp only [Shape.members, Bool.false_and, Bool.false_eq_true, if_false, hshape, compileNode,
    compileMembers, compileShape, hfield]
  cases resolve owner (.text field) "S" false with
  | error => rfl
  | ok v => cases v <;> rfl

private theorem compileTarget_shorthand {field : Scalar}
    (hfield : typeKeyed.isReserved field = false) :
    typeKeyed.compileTarget lookup resolve (.text "S") field false (.map typeKeyed.shorthand) =
      (do
        let v ← resolve field (.text "f") "B" false
        pure (some (.embedded (v.toList.map fun v => (.text "f", v))))) := by
  have hfields : Entries.erase typeKeyed.shorthand (.text typeKeyed.extensionKey) =
      typeKeyed.fields := rfl
  have hkey : typeKeyed.extensionKey = "type" := rfl
  have hpointer : Shape.ofProperty "type" (.map [(.text "$ref", .text "#/definitions/B")]) =
      .reference "B" false := Shape.ofProperty_pointer (by decide) rfl
  have hdirect : Shape.isDirectField "type" (.text "f")
      (.map [(.text "$ref", .text "#/definitions/B")]) = true := by decide
  have hform : Form.ofEntries "type" typeKeyed.fields = .embedded := rfl
  have hnode := @Shape.ofNode_of_direct "type" typeKeyed.fields rfl rfl
  have hshape : Shape.ofProperty "type" (.map typeKeyed.fields) =
      .fields .null [(.text "f", .reference "B" false)] := by
    rw [Shape.ofProperty_map, hform, hnode]
    simp only [typeKeyed.fields, Shape.members, hdirect, Bool.not_true, Bool.and_false,
      Bool.false_eq_true, if_false, hpointer]
    rfl
  have hreserved : typeKeyed.isReserved (.text "f") = false := rfl
  rw [compileTarget_map, if_neg (by decide), hfields]
  simp only [compilePropertyWith, hfield, hkey, hshape, compileShape, compileMembers, hreserved,
    Bool.false_eq_true, if_false]
  cases resolve field (.text "f") "B" false with
  | error => rfl
  | ok v => cases v <;> rfl

variable (detectCycles : Bool) (depth : Nat) (stack : List Scalar)

private abbrev resolveTypeKeyed : Resolve (Except Fault) :=
  (typeKeyed.guarding detectCycles).resolution
    ((typeKeyed.guarding detectCycles).embedAt depth stack) stack

private theorem embedAt_shorthand {field : Scalar} (hfield : typeKeyed.isReserved field = false) :
    (typeKeyed.guarding detectCycles).embedAt (depth + 1) stack field "S" false = (do
      let v ← resolveTypeKeyed detectCycles depth (stack ++ [.text "S"]) field (.text "f") "B" false
      pure (some (.embedded (v.toList.map fun v => (.text "f", v))))) := by
  have hraw : typeKeyed.rawDefinition (.text "S") = .ok (.map typeKeyed.shorthand) := rfl
  rw [embedAt_guarding, normalForm_typeKeyed, hraw, ok_bind, compileTarget_shorthand hfield]

private theorem embedAt_declaring (field : Scalar) :
    (typeKeyed.guarding detectCycles).embedAt (depth + 1) stack field "B" false = (do
      let v ← resolveTypeKeyed detectCycles depth (stack ++ [.text "B"]) (.text "B") (.text "B")
        "S" false
      pure (some (.embedded (v.toList.map fun v => (.text "B", v))))) := by
  have hraw : typeKeyed.rawDefinition (.text "B") = .ok (typeKeyed.declaring "B") := rfl
  have hobject : ObjectLike [(.text "properties",
      .map [(.text "B", .map [(.text "$ref", .text "#/definitions/S")])])] := Or.inr ⟨rfl, rfl⟩
  rw [embedAt_guarding, normalForm_typeKeyed, hraw, ok_bind, typeKeyed.declaring,
    compileTarget_of_objectLike hobject, ← typeKeyed.declaring, compileSetWith_declaring _ rfl,
    bind_assoc]
  rfl

private def innermost : Bool → Value
  | true => Value.referenceTo "S" true
  | false => .embedded [(.text "f", Value.referenceTo "B" true)]

private theorem fieldsAt_typeKeyed :
    typeKeyed.fieldsAt detectCycles (depth + 3) (.text "A") (typeKeyed.declaring "z") =
      .ok (.embedded [(.text "z", .embedded [(.text "f",
        .embedded [(.text "B", innermost detectCycles)])])]) := by
  rw [fieldsAt, compileSetWith_declaring _ rfl, resolution,
    if_neg (by cases detectCycles <;> decide), embedAt_shorthand _ _ _ rfl, resolveTypeKeyed,
    resolution, if_neg (by cases detectCycles <;> decide), embedAt_declaring, resolveTypeKeyed,
    resolution]
  cases detectCycles with
  | true =>
    rw [if_pos (by decide)]
    rfl
  | false =>
    rw [if_neg (by decide), embedAt_shorthand _ _ _ rfl, resolveTypeKeyed, resolution,
      if_pos (by decide)]
    rfl

private theorem outcome_typeKeyed :
    ((typeKeyed.guarding detectCycles).compileDefinition (.text "A")).outcome {} =
      .ok (some
        { name := .text "A"
          properties := .embedded [(.text "z", .embedded [(.text "f",
            .embedded [(.text "B", innermost detectCycles)])])]
          options := []
          index := none }) := by
  have hyields := @compileDefinition_yields (typeKeyed.guarding detectCycles) [] (.text "A")
  rw [(hyields {} rfl (remembers_start [])).1, definitionMeaning_guarding, compileDefinitionWith,
    if_neg (by decide), normalForm_typeKeyed]
  have hraw : typeKeyed.rawDefinition (.text "A") = .ok (typeKeyed.declaring "z") := rfl
  have hfields := fieldsAt_typeKeyed detectCycles 13
  have hbound : typeKeyed.referenceBound = 13 + 3 := rfl
  rw [hraw, ok_bind, hbound, hfields]
  rfl

/-- Where extension blocks stand under `type`, the guard changes what `A` compiles to although
compiling it ends without the guard. -/
theorem typeKeyed_guard_matters :
    typeKeyed.Kinded ∧
      Ends (((typeKeyed.guarding false).compileDefinition (.text "A")).outcome {}) ∧
      ((typeKeyed.guarding true).compileDefinition (.text "A")).outcome {} ≠
        ((typeKeyed.guarding false).compileDefinition (.text "A")).outcome {} := by
  rw [outcome_typeKeyed true, outcome_typeKeyed false]
  refine ⟨kinded_typeKeyed, ends_ok _, ?_⟩
  intro h
  simp [innermost, Value.referenceTo] at h

end TypeKeyed

end Context

end StoreSchema
