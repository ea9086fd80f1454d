import Mathlib.Data.Finset.Card
import Mathlib.Data.Finset.Image
import Mathlib.Data.Finset.Range
import Mathlib.Data.Fintype.Pigeonhole
import Mathlib.Data.Fintype.Sets
import Mathlib.Logic.Relation
import StoreSchema.Proofs.Keys
import StoreSchema.Proofs.Outcome

/-!
The normal form of a definition: what merging its composition gives, read from the definitions
alone.

Where finitely many codes tell the inputs of a recursive reading apart, its approximations by the
number of nested calls stop growing after as many steps as there are codes, and one more. A run
looks definitions up in what it remembers of earlier lookups. As long as it remembers normal forms
only, each lookup gives the normal form and leaves a memory of normal forms.
-/

set_option autoImplicit false

namespace StoreSchema

section Saturation

variable {σ κ β : Type}

structure Approximations (f : Nat → σ → Except Fault β) : Prop where
  grows : ∀ depth s, Approximates (f depth s) (f (depth + 1) s)
  follows : ∀ depth, f depth = f (depth + 1) → f (depth + 1) = f (depth + 2)

namespace Approximations

variable {f : Nat → σ → Except Fault β}

theorem mono (hf : Approximations f) {depth depth' : Nat} (hle : depth ≤ depth') (s : σ) :
    Approximates (f depth s) (f depth' s) := by
  induction hle with
  | refl => exact .refl _
  | step _ ih => exact ih.trans (hf.grows _ s)

private theorem eq_of_stable (hf : Approximations f) {depth : Nat}
    (h : f depth = f (depth + 1)) (k : Nat) : f (depth + k) = f depth := by
  have next : ∀ k, f (depth + k) = f (depth + k + 1) := by
    intro k
    induction k with
    | zero => exact h
    | succ k ih => exact hf.follows _ ih
  induction k with
  | zero => rfl
  | succ k ih => exact (next k).symm.trans ih

private theorem exists_new (hf : Approximations f) {bound depth : Nat} (hle : depth ≤ bound)
    (hgrow : f bound ≠ f (bound + 1)) : ∃ s, ¬ Ends (f depth s) ∧ Ends (f (depth + 1) s) := by
  have hdepth : f depth ≠ f (depth + 1) := by
    intro h
    obtain ⟨k, rfl⟩ := Nat.exists_eq_add_of_le hle
    apply hgrow
    rw [hf.eq_of_stable h k, Nat.add_assoc, hf.eq_of_stable h (k + 1)]
  by_contra hnone
  apply hdepth
  funext s
  rcases hf.grows depth s with hbot | heq
  · have hstuck : ¬ Ends (f depth s) := fun h => h hbot
    have : ¬ Ends (f (depth + 1) s) := fun h => hnone ⟨s, hstuck, h⟩
    rw [hbot]
    exact (not_not.mp this).symm
  · exact heq

/-- The approximations have stopped growing after one step more than there are codes. -/
theorem stable_of_codes (hf : Approximations f) (code : σ → κ) (codes : List κ)
    (hsame : ∀ depth s s', code s = code s' → Ends (f depth s) → Ends (f depth s'))
    (hnew : ∀ depth s, ¬ Ends (f (depth + 1) s) → Ends (f (depth + 2) s) → code s ∈ codes)
    (k : Nat) : f (codes.length + 1 + k) = f (codes.length + 1) := by
  classical
  apply hf.eq_of_stable
  by_contra hgrow
  have hex : ∀ j : Nat, j ∈ Finset.range (codes.length + 1) →
      ∃ s, ¬ Ends (f (j + 1) s) ∧ Ends (f (j + 2) s) := by
    intro j hj
    have hle : j + 1 ≤ codes.length + 1 := by
      have := Finset.mem_range.mp hj
      omega
    exact hf.exists_new hle hgrow
  have : Nonempty σ := (hex 0 (Finset.mem_range.mpr (by omega))).nonempty
  choose! s hstuck hends using hex
  have hmaps : ∀ j ∈ Finset.range (codes.length + 1), code (s j) ∈ codes.toFinset := by
    intro j hj
    exact List.mem_toFinset.mpr (hnew j (s j) (hstuck j hj) (hends j hj))
  -- Of two inputs with one code the earlier one ends before the later one is still stuck.
  have hlt : ∀ i ∈ Finset.range (codes.length + 1), ∀ j ∈ Finset.range (codes.length + 1),
      i < j → code (s i) ≠ code (s j) := by
    intro i hi j hj hij hcode
    have hend : Ends (f (i + 2) (s j)) := hsame _ _ _ hcode (hends i hi)
    exact hstuck j hj ((hf.mono (by omega) (s j)).ends hend)
  have hinj : Set.InjOn (fun j => code (s j)) (Finset.range (codes.length + 1)) := by
    intro i hi j hj hcode
    rcases Nat.lt_trichotomy i j with h | h | h
    · exact absurd hcode (hlt i hi j hj h)
    · exact h
    · exact absurd hcode.symm (hlt j hj i hi h)
  have hcard := Finset.card_le_card_of_injOn _ hmaps hinj
  rw [Finset.card_range] at hcard
  have := codes.toFinset_card_le
  omega

end Approximations

/-- Where each input of a kind is followed by another of that kind, two inputs with one code follow
each other sooner or later. -/
theorem exists_repetition {r : σ → σ → Prop} {p : σ → Prop}
    (hstep : ∀ s, p s → ∃ next, r s next ∧ p next) (code : σ → κ) (codes : List κ)
    (hcode : ∀ s, p s → code s ∈ codes) {s : σ} (h : p s) :
    ∃ first second, Relation.ReflTransGen r s first ∧ p first ∧
      Relation.TransGen r first second ∧ p second ∧ code first = code second := by
  classical
  have hnext : ∀ s : { s // p s }, ∃ next : { s // p s }, r s.1 next.1 := by
    rintro ⟨s, hs⟩
    obtain ⟨next, hr, hp⟩ := hstep s hs
    exact ⟨⟨next, hp⟩, hr⟩
  -- The chain of chosen successors never leaves the kind, while there are finitely many codes.
  choose next hr using hnext
  let chain : Nat → { s // p s } := fun k => next^[k] ⟨s, h⟩
  have hsucc : ∀ k, r (chain k).1 (chain (k + 1)).1 := by
    intro k
    simp only [chain, Function.iterate_succ_apply']
    exact hr _
  have hfrom : ∀ k, Relation.ReflTransGen r s (chain k).1 := by
    intro k
    induction k with
    | zero => exact .refl
    | succ k ih => exact ih.tail (hsucc k)
  have hway : ∀ {i j : Nat}, i < j → Relation.TransGen r (chain i).1 (chain j).1 := by
    intro i j hij
    induction hij with
    | refl => exact .single (hsucc i)
    | step _ ih => exact ih.tail (hsucc _)
  have hpair : ∀ {i j : Nat}, i < j → code (chain i).1 = code (chain j).1 →
      ∃ first second, Relation.ReflTransGen r s first ∧ p first ∧
        Relation.TransGen r first second ∧ p second ∧ code first = code second := by
    intro i j hij hsame
    exact ⟨_, _, hfrom i, (chain i).2, hway hij, (chain j).2, hsame⟩
  let codeAt : Nat → { c // c ∈ codes } := fun k => ⟨code (chain k).1, hcode _ (chain k).2⟩
  obtain ⟨i, j, hne, hsame⟩ := Finite.exists_ne_map_eq_of_infinite codeAt
  replace hsame : code (chain i).1 = code (chain j).1 := congrArg Subtype.val hsame
  rcases Nat.lt_or_gt_of_ne hne with hij | hij
  · exact hpair hij hsame
  · exact hpair hij hsame.symm

end Saturation

private theorem Composition.Gathered.value_finish_allOf (gathered : Composition.Gathered)
    (node : Entries Data) : Entries.value (gathered.finish node) "allOf" = .null := by
  have hproperties : (Scalar.text "properties").same (.text "allOf") = false := by decide
  have hrequired : (Scalar.text "required").same (.text "allOf") = false := by decide
  have hplain : Entries.get? (Entries.erase node (.text "allOf")) (.text "allOf") = none :=
    Entries.get?_erase_same node _
  unfold Entries.value finish
  split <;> split <;> simp only [Entries.get?_put, hproperties, hrequired, Bool.false_eq_true,
    if_false, hplain, Option.getD_none]

theorem Composition.Gathered.mem_of_mem_foldl_addRequired {names more : List Scalar} {name : Scalar}
    (h : name ∈ more.foldl addRequired names) : name ∈ names ∨ name ∈ more := by
  induction more generalizing names with
  | nil => exact Or.inl h
  | cons next rest ih =>
    rcases ih h with hadded | hrest
    · unfold addRequired at hadded
      split at hadded
      · exact Or.inl hadded
      · rcases List.mem_append.mp hadded with hname | hnext
        · exact Or.inl hname
        · rw [List.mem_singleton.mp hnext]
          exact Or.inr List.mem_cons_self
    · exact Or.inr (List.mem_cons_of_mem _ hrest)

namespace Context

variable (ctx : Context)

/-- A definition with its composition merged, following at most `depth` references in a row and
remembering nothing. -/
def normalAt : Nat → Scalar → Except Fault Data
  | 0 => fun _ => .error .endless
  | depth + 1 => ctx.readDefinition (normalAt depth)

/-- The normal form of a definition. -/
def normalForm (name : Scalar) : Except Fault Data :=
  ctx.normalAt (ctx.definitions.length + 1) name

variable {ctx}

theorem rawDefinition_same {name other : Scalar} {raw : Data} (h : name.same other = true)
    (hraw : ctx.rawDefinition name = .ok raw) : ctx.rawDefinition other = .ok raw := by
  unfold rawDefinition at hraw ⊢
  rw [← Entries.get?_same h]
  cases hget : Entries.get? ctx.definitions name with
  | none => rw [hget] at hraw; cases hraw
  | some d => rw [hget] at hraw; exact hraw

theorem exists_key_of_rawDefinition {name : Scalar} {raw : Data}
    (hraw : ctx.rawDefinition name = .ok raw) :
    ∃ k, (k, raw) ∈ ctx.definitions ∧ k.same name = true := by
  unfold rawDefinition at hraw
  cases hget : Entries.get? ctx.definitions name with
  | none => rw [hget] at hraw; cases hraw
  | some d =>
    rw [hget] at hraw
    cases hraw
    exact Entries.exists_mem_of_get? hget

theorem mem_keys_of_rawDefinition {target : String} {raw : Data}
    (hraw : ctx.rawDefinition (.text target) = .ok raw) :
    Scalar.text target ∈ Entries.keys ctx.definitions := by
  obtain ⟨key, hmem, hkey⟩ := exists_key_of_rawDefinition hraw
  rw [Scalar.same_text.mp hkey] at hmem
  exact List.mem_map.mpr ⟨_, hmem, rfl⟩

theorem readDefinition_of_raw {name : Scalar} {raw : Data}
    (hraw : ctx.rawDefinition name = .ok raw) (lookup : Scalar → Except Fault Data) :
    ctx.readDefinition lookup name =
      if Composition.isComposed raw then (do
        let entries ← merge lookup raw
        pure (.map entries))
      else pure raw := by
  simp only [readDefinition, ofExcept_eq, hraw]
  rfl

theorem readDefinition_of_unregistered {name : Scalar} {fault : Fault}
    (hraw : ctx.rawDefinition name = .error fault) (lookup : Scalar → Except Fault Data) :
    ctx.readDefinition lookup name = .error fault := by
  simp only [readDefinition, ofExcept_eq, hraw]
  rfl

theorem ends_of_rawDefinition_error {α : Type} {name : Scalar} {fault : Fault}
    (hraw : ctx.rawDefinition name = .error fault) : Ends (.error fault : Except Fault α) := by
  unfold rawDefinition at hraw
  split at hraw <;> cases hraw
  intro h
  cases h

private theorem approximations_normalAt : Approximations ctx.normalAt where
  grows depth := by
    induction depth with
    | zero => exact fun name => .bot _
    | succ depth ih => exact readDefinition_related sequential_approximates ctx ih
  follows depth h := congrArg ctx.readDefinition h

private theorem ends_normalAt_same {depth : Nat} {name other : Scalar}
    (h : name.identity = other.identity) (hends : Ends (ctx.normalAt depth name)) :
    Ends (ctx.normalAt depth other) := by
  have hsame : name.same other = true := Scalar.same_iff.mpr h
  cases depth with
  | zero => exact hends
  | succ depth =>
    rw [normalAt] at hends ⊢
    cases hraw : ctx.rawDefinition other with
    | error fault =>
      rw [readDefinition_of_unregistered hraw]
      exact ends_of_rawDefinition_error hraw
    | ok raw =>
      -- Both names have one raw definition, and its composition refers to names of its own.
      rw [readDefinition_of_raw (rawDefinition_same (Scalar.same_symm hsame) hraw)] at hends
      rw [readDefinition_of_raw hraw]
      exact hends

/-- Following more references than there are definitions brings nothing new. -/
theorem normalAt_add_eq_normalForm (k : Nat) (name : Scalar) :
    ctx.normalAt (ctx.definitions.length + 1 + k) name = ctx.normalForm name := by
  have h := approximations_normalAt.stable_of_codes (f := ctx.normalAt) Scalar.identity
    (ctx.definitions.map fun e => e.1.identity)
    (fun depth name other => ends_normalAt_same)
    (fun depth name hstuck hends => by
      cases hraw : ctx.rawDefinition name with
      | error fault =>
        rw [normalAt, readDefinition_of_unregistered hraw] at hstuck
        exact absurd (ends_of_rawDefinition_error hraw) hstuck
      | ok raw =>
        obtain ⟨k, hmem, hk⟩ := exists_key_of_rawDefinition hraw
        exact List.mem_map.mpr ⟨(k, raw), hmem, Scalar.same_iff.mp hk⟩)
    k
  rw [List.length_map] at h
  exact congrFun h name

theorem normalAt_approximates (depth : Nat) (name : Scalar) :
    Approximates (ctx.normalAt depth name) (ctx.normalForm name) := by
  rcases Nat.le_total depth (ctx.definitions.length + 1) with hle | hle
  · exact approximations_normalAt.mono hle name
  · obtain ⟨k, rfl⟩ := Nat.exists_eq_add_of_le hle
    rw [normalAt_add_eq_normalForm]
    exact .refl _

theorem normalForm_eq (name : Scalar) :
    ctx.normalForm name = ctx.readDefinition ctx.normalForm name :=
  (normalAt_add_eq_normalForm 1 name).symm

theorem normalForm_of_unregistered {name : Scalar} {fault : Fault}
    (hraw : ctx.rawDefinition name = .error fault) : ctx.normalForm name = .error fault := by
  rw [normalForm_eq, readDefinition_of_unregistered hraw]

theorem hasDefinition_of_requireDefinition {name found : Scalar}
    (h : ctx.requireDefinition name = .ok found) : ctx.hasDefinition name = true := by
  unfold requireDefinition rawDefinition at h
  unfold hasDefinition Entries.has
  cases hget : Entries.get? ctx.definitions name with
  | none => rw [hget] at h; cases h
  | some d => rfl

theorem requireDefinition_of_normalForm {name : Scalar} {node : Data}
    (h : ctx.normalForm name = .ok node) : ctx.requireDefinition name = .ok name := by
  cases hraw : ctx.rawDefinition name with
  | error fault =>
    rw [normalForm_of_unregistered hraw] at h
    cases h
  | ok raw =>
    rw [requireDefinition, hraw]
    rfl

theorem hasDefinition_of_normalForm {name : Scalar} {node : Data}
    (h : ctx.normalForm name = .ok node) : ctx.hasDefinition name = true :=
  hasDefinition_of_requireDefinition (requireDefinition_of_normalForm h)

/-- What holds at first of what was gathered, and still does after any node that a fragment stands
for is added, holds of all that the fragments gather. -/
theorem gather_induction {lookup : Scalar → Except Fault Data}
    (motive : Composition.Gathered → Prop) {fragments : List Data}
    (hadd : ∀ fragment ∈ fragments, ∀ source node, Composition.source fragment = .ok source →
      nodeOf lookup source = .ok node → ∀ start next : Composition.Gathered, motive start →
        start.add node = .ok next → motive next)
    {start gathered : Composition.Gathered} (hstart : motive start)
    (h : gather lookup start fragments = .ok gathered) : motive gathered := by
  induction fragments generalizing start with
  | nil =>
    cases h
    exact hstart
  | cons fragment rest ih =>
    obtain ⟨hfirst, hrest⟩ := List.forall_mem_cons.mp hadd
    obtain ⟨source, hsource, h⟩ := exists_of_bind_eq_ok h
    obtain ⟨node, hnode, h⟩ := exists_of_bind_eq_ok h
    obtain ⟨next, hnext, h⟩ := exists_of_bind_eq_ok h
    rw [ofExcept_eq] at hsource hnext
    have hkept := hfirst source node hsource hnode start next hstart (eq_ok_of_orMisuse hnext)
    exact ih hrest hkept h

theorem exists_gathered_of_merge {lookup : Scalar → Except Fault Data} {node : Data}
    {entries : Entries Data} (h : merge lookup node = .ok entries) :
    ∃ (own : Entries Data) (fragments : List Data) (gathered : Composition.Gathered),
      node.members = .ok own ∧ Composition.fragments own = .ok fragments ∧
        gather lookup .empty fragments = .ok gathered ∧ entries = gathered.finish own := by
  unfold merge at h
  obtain ⟨own, hown, h⟩ := exists_of_bind_eq_ok h
  obtain ⟨fragments, hfragments, h⟩ := exists_of_bind_eq_ok h
  obtain ⟨gathered, hgathered, h⟩ := exists_of_bind_eq_ok h
  cases h
  rw [ofExcept_eq] at hown hfragments
  exact ⟨own, fragments, gathered, eq_ok_of_orMisuse hown, eq_ok_of_orMisuse hfragments, hgathered,
    rfl⟩

theorem isComposed_normalForm {name : Scalar} {node : Data} (h : ctx.normalForm name = .ok node) :
    Composition.isComposed node = false := by
  cases hraw : ctx.rawDefinition name with
  | error fault => rw [normalForm_of_unregistered hraw] at h; cases h
  | ok raw =>
    rw [normalForm_eq, readDefinition_of_raw hraw] at h
    split at h
    · obtain ⟨entries, hmerge, h⟩ := exists_of_bind_eq_ok h
      obtain ⟨own, -, gathered, -, -, -, rfl⟩ := exists_gathered_of_merge hmerge
      cases h
      have hnone := gathered.value_finish_allOf own
      simp only [Composition.isComposed, Data.value, hnone]
      rfl
    · next hplain =>
      cases h
      exact Bool.eq_false_iff.mpr hplain

theorem normalForm_same {name other : Scalar} {node : Data} (h : name.same other = true)
    (hnode : ctx.normalForm name = .ok node) : ctx.normalForm other = .ok node := by
  cases hraw : ctx.rawDefinition name with
  | error fault => rw [normalForm_of_unregistered hraw] at hnode; cases hnode
  | ok raw =>
    rw [normalForm_eq, readDefinition_of_raw hraw] at hnode
    rw [normalForm_eq, readDefinition_of_raw (rawDefinition_same h hraw)]
    exact hnode

end Context

namespace Context

variable {α : Type}

/-- The progress remembers normal forms only. -/
def Remembers (ctx : Context) (p : Progress) : Prop :=
  ∀ name node, Entries.get? p.normalized name = some node → ctx.normalForm name = .ok node

/-- With this stack, and remembering normal forms only, a step has an outcome that compares with
the given one; it restores the stack and remembers normal forms only. -/
def Follows (ctx : Context) (cmp : (α : Type) → Except Fault α → Except Fault α → Prop)
    (stack : List Scalar) (α : Type) (step : Compile α) (value : Except Fault α) : Prop :=
  ∀ p, p.resolving = stack → ctx.Remembers p →
    cmp α (step.outcome p) value ∧ (step.after p).resolving = stack ∧ ctx.Remembers (step.after p)

/-- With this stack, and remembering normal forms only, a step has the given outcome. -/
abbrev Yields (ctx : Context) (stack : List Scalar) (step : Compile α)
    (value : Except Fault α) : Prop :=
  ctx.Follows (fun _ a b => a = b) stack α step value

variable {ctx : Context} {stack : List Scalar}

theorem remembers_start (resolving : List Scalar) : ctx.Remembers { resolving } := by
  intro name node h
  cases h

theorem Remembers.put {p : Progress} {name : Scalar} {node : Data} (h : ctx.Remembers p)
    (hnode : ctx.normalForm name = .ok node) :
    ctx.Remembers { p with normalized := Entries.put p.normalized name node } := by
  intro other found hget
  rw [Entries.get?_put] at hget
  split at hget
  · next hsame =>
    cases hget
    exact normalForm_same hsame hnode
  · exact h other found hget

theorem sequential_follows {cmp : (α : Type) → Except Fault α → Except Fault α → Prop}
    (hcmp : Sequential cmp) (ctx : Context) (stack : List Scalar) :
    Sequential (ctx.Follows cmp stack) where
  value v p hstack hmem := ⟨hcmp.value v, hstack, hmem⟩
  fault f p hstack hmem := ⟨hcmp.fault f, hstack, hmem⟩
  step {_ _ x y f g} hx hf p hstack hmem := by
    obtain ⟨hout, hstack', hmem'⟩ := hx p hstack hmem
    refine ⟨?_, ?_⟩
    · rw [Compile.outcome_bind]
      exact hcmp.step hout fun v => (hf v _ hstack' hmem').1
    · cases hval : x.outcome p with
      | ok v =>
        rw [Compile.after_bind_ok f hval]
        exact (hf v _ hstack' hmem').2
      | error fault =>
        rw [Compile.after_bind_error f hval]
        exact ⟨hstack', hmem'⟩

theorem sequential_yields (ctx : Context) (stack : List Scalar) :
    Sequential (ctx.Follows (fun _ a b => a = b) stack) :=
  sequential_follows sequential_eq ctx stack

private theorem remembered_follows {cmp : (α : Type) → Except Fault α → Except Fault α → Prop}
    {name : Scalar} {read : Compile Data} {value : Except Fault Data}
    (hread : ctx.Follows cmp stack Data read value)
    (hknown : ∀ node, ctx.normalForm name = .ok node → cmp Data (.ok node) value)
    (htrue : ∀ p, p.resolving = stack → ctx.Remembers p →
      ∀ node, read.outcome p = .ok node → ctx.normalForm name = .ok node) :
    ctx.Follows cmp stack Data (Compile.remembered name read) value := by
  intro p hstack hmem
  rw [Compile.outcome_remembered, Compile.after_remembered]
  cases hget : Entries.get? p.normalized name with
  | some node => exact ⟨hknown node (hmem name node hget), hstack, hmem⟩
  | none =>
    obtain ⟨hout, hstack', hmem'⟩ := hread p hstack hmem
    refine ⟨hout, ?_⟩
    cases hval : read.outcome p with
    | ok node => exact ⟨hstack', hmem'.put (htrue p hstack hmem node hval)⟩
    | error fault => exact ⟨hstack', hmem'⟩

private theorem normalize_below (depth : Nat) (name : Scalar) :
    ctx.Follows (fun _ a b => Approximates a b) stack Data (ctx.normalize depth name)
      (ctx.normalForm name) := by
  induction depth generalizing name with
  | zero => exact fun p hstack hmem => ⟨.bot _, hstack, hmem⟩
  | succ depth ih =>
    have hread := readDefinition_related
      (sequential_follows sequential_approximates ctx stack) ctx ih name
    rw [← normalForm_eq] at hread
    refine remembered_follows hread (fun node h => ?_) fun p hstack hmem node hval => ?_
    · rw [h]
      exact .refl _
    · have hout := (hread p hstack hmem).1
      rw [hval] at hout
      exact (hout.eq (by simp [Ends])).symm

private theorem normalize_above (depth : Nat) (name : Scalar) :
    ctx.Follows (fun _ a b => Approximates b a) stack Data (ctx.normalize depth name)
      (ctx.normalAt depth name) := by
  induction depth generalizing name with
  | zero => exact fun p hstack hmem => ⟨.bot _, hstack, hmem⟩
  | succ depth ih =>
    have hread := readDefinition_related
      (sequential_follows sequential_approximated ctx stack) ctx ih name
    refine remembered_follows hread (fun node h => ?_) fun p hstack hmem node hval => ?_
    · rw [← h]
      exact normalAt_approximates (depth + 1) name
    · -- Only the other bound tells that what is read here is a normal form, fit to be remembered.
      have hbelow := (readDefinition_related (sequential_follows sequential_approximates ctx stack)
        ctx (normalize_below depth) name p hstack hmem).1
      rw [hval, ← normalForm_eq] at hbelow
      exact (hbelow.eq (by simp [Ends])).symm

/-- Looking a definition up gives its normal form. -/
theorem definition_yields (name : Scalar) :
    ctx.Yields stack (ctx.definition name) (ctx.normalForm name) := by
  intro p hstack hmem
  obtain ⟨hbelow, hafter⟩ := normalize_below (ctx.definitions.length + 1) name p hstack hmem
  obtain ⟨habove, -⟩ := normalize_above (ctx.definitions.length + 1) name p hstack hmem
  exact ⟨hbelow.antisymm habove, hafter⟩

end Context

end StoreSchema
