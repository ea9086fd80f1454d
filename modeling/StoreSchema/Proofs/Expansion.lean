import Mathlib.Data.List.ProdSigma
import StoreSchema.Proofs.Meaning
import StoreSchema.Proofs.Outcome

/-!
Compiling without the cycle guard, one embedded definition at a time.

What a definition compiles to depends on what those compile to that are embedded in it, and of the
field that refers to it only on whether, and after which definition, it is named. Main statement of
this module: without the guard, following more references in a row than the bound changes nothing.
-/

set_option autoImplicit false

namespace StoreSchema

variable {α β : Type}

/-- A reference that is followed: the field that it stands under and the definition that it leads
to. -/
structure Site where
  field : Scalar
  target : String

/-- An outcome, and the references that were followed on the way to it. -/
structure Traced (α : Type) where
  outcome : Except Fault α
  met : List Site

namespace Traced

def after (x : Traced α) (f : α → Traced β) : Traced β :=
  match x.outcome with
  | .ok v => ⟨(f v).outcome, x.met ++ (f v).met⟩
  | .error fault => ⟨.error fault, x.met⟩

def recover (x : Traced α) (f : Fault → Traced α) : Traced α :=
  match x.outcome with
  | .ok _ => x
  | .error fault => ⟨(f fault).outcome, x.met ++ (f fault).met⟩

instance : Monad Traced where
  pure v := ⟨.ok v, []⟩
  bind := after

instance : MonadExceptOf Fault Traced where
  throw fault := ⟨.error fault, []⟩
  tryCatch := recover

theorem sequential_outcome : Sequential fun α (x : Traced α) (a : Except Fault α) => x.outcome = a
    where
  value _ := rfl
  fault _ := rfl
  step := by
    rintro α β ⟨outcome, met⟩ a f g rfl hfg
    cases outcome with
    | error fault => rfl
    | ok v => exact hfg v

/-- The step ends in the outcome unless it meets a bad reference. -/
def EndsIn (bad : Site → Prop) (x : Traced α) (a : Except Fault α) : Prop :=
  x.outcome = a ∨ ∃ s ∈ x.met, bad s

theorem sequential_endsIn (bad : Site → Prop) :
    Sequential fun α (x : Traced α) (a : Except Fault α) => x.EndsIn bad a where
  value _ := Or.inl rfl
  fault _ := Or.inl rfl
  step := by
    rintro α β ⟨outcome, met⟩ a f g hx hfg
    rcases hx with heq | ⟨s, hs, hbad⟩
    · cases heq
      cases outcome with
      | error fault => exact Or.inl rfl
      | ok v =>
        rcases hfg v with hrest | ⟨s, hs, hbad⟩
        · exact Or.inl hrest
        · exact Or.inr ⟨s, List.mem_append_right met hs, hbad⟩
    · cases outcome with
      | error fault => exact Or.inr ⟨s, hs, hbad⟩
      | ok v => exact Or.inr ⟨s, List.mem_append_left _ hs, hbad⟩

/-- The first outcome is that of the step, unless it never ends; and it never ends if the step meets
a bad reference. -/
structure Stops (bad : Site → Prop) (a : Except Fault α) (x : Traced α) : Prop where
  approximates : Approximates a x.outcome
  endless : ∀ s ∈ x.met, bad s → ¬ Ends a

theorem sequential_stops (bad : Site → Prop) :
    Sequential fun α (a : Except Fault α) (x : Traced α) => x.Stops bad a where
  value v := ⟨.refl _, fun s hs => by cases hs⟩
  fault f := ⟨.refl _, fun s hs => by cases hs⟩
  step := by
    rintro α β a ⟨outcome, met⟩ f g ⟨happrox, hbad⟩ hfg
    rcases happrox with rfl | rfl
    · exact ⟨.bot _, fun s _ _ h => h rfl⟩
    · cases a with
      | error fault =>
        refine ⟨.refl _, fun s hs hs' hends => hbad s hs hs' fun hstuck => hends ?_⟩
        cases hstuck
        rfl
      | ok v =>
        refine ⟨(hfg v).approximates, fun s hs hs' => ?_⟩
        rcases List.mem_append.mp hs with hs | hs
        · exact absurd (ends_ok v) (hbad s hs hs')
        · exact (hfg v).endless s hs hs'

/-- Equal outcomes, or two faults neither of which is to go on for ever. -/
def Agree (a b : Except Fault α) : Prop :=
  a = b ∨ ∃ fault fault', a = .error fault ∧ b = .error fault' ∧ fault ≠ .endless ∧
    fault' ≠ .endless

theorem Agree.ends {a b : Except Fault α} (h : Agree a b) (ha : Ends a) : Ends b := by
  rcases h with rfl | ⟨fault, fault', rfl, rfl, -, hfault⟩
  · exact ha
  · intro hb
    cases hb
    exact hfault rfl

/-- The outcomes agree, and each reference that the first step meets has a counterpart that the
second one meets. -/
structure Simulated (counterpart : Site → Site → Prop) (x y : Traced α) : Prop where
  agree : Agree x.outcome y.outcome
  met : ∀ s ∈ x.met, ∃ s' ∈ y.met, counterpart s s'

variable {counterpart : Site → Site → Prop}

theorem Simulated.refl (h : ∀ s, counterpart s s) (x : Traced α) : x.Simulated counterpart x where
  agree := Or.inl rfl
  met s hs := ⟨s, hs, h s⟩

theorem sequential_simulated (h : ∀ s, counterpart s s) :
    Sequential fun α (x y : Traced α) => x.Simulated counterpart y where
  value _ := .refl h _
  fault _ := .refl h _
  step := by
    rintro α β ⟨outcome, met⟩ ⟨outcome', met'⟩ f g ⟨hagree, hmet⟩ hfg
    rcases hagree with heq | ⟨fault, fault', heq, heq', hends, hends'⟩
    · cases heq
      cases outcome with
      | error fault => exact ⟨Or.inl rfl, hmet⟩
      | ok v =>
        refine ⟨(hfg v).agree, fun s hs => ?_⟩
        rcases List.mem_append.mp hs with hs | hs
        · obtain ⟨s', hs', hpair⟩ := hmet s hs
          exact ⟨s', List.mem_append_left _ hs', hpair⟩
        · obtain ⟨s', hs', hpair⟩ := (hfg v).met s hs
          exact ⟨s', List.mem_append_right _ hs', hpair⟩
    · cases heq
      cases heq'
      exact ⟨Or.inr ⟨fault, fault', rfl, rfl, hends, hends'⟩, hmet⟩

def Within (kind : Site → Prop) (x : Traced α) : Prop :=
  ∀ s ∈ x.met, kind s

variable {kind : Site → Prop}

theorem within_pure (v : α) : (pure v : Traced α).Within kind := by
  intro s hs
  cases hs

theorem within_throw (fault : Fault) : (throw fault : Traced α).Within kind := by
  intro s hs
  cases hs

theorem within_outcome (a : Except Fault α) : (Compile.ofExcept a : Traced α).Within kind := by
  cases a with
  | ok v => exact within_pure v
  | error fault => exact within_throw fault

theorem Within.bind {x : Traced α} {f : α → Traced β} (h : x.Within kind)
    (hf : ∀ v, x.outcome = .ok v → (f v).Within kind) : (x >>= f).Within kind := by
  obtain ⟨outcome, met⟩ := x
  cases outcome with
  | error fault => exact h
  | ok v =>
    intro s hs
    rcases List.mem_append.mp hs with hs | hs
    · exact h s hs
    · exact hf v rfl s hs

@[simp] theorem outcome_ofExcept (a : Except Fault α) :
    (Compile.ofExcept a : Traced α).outcome = a := by
  cases a <;> rfl

end Traced

namespace Context

variable (ctx : Context)

section Expand

variable {m : Type → Type} [Monad m] [MonadExceptOf Fault m]

/-- What a definition compiles to for the field that refers to it, given what the definitions
compile to that are embedded in it. -/
def expand (embed : Embed m) : Embed m := fun field target many => do
  let lookup := fun name => Compile.ofExcept (ctx.normalForm name)
  let node ← lookup (.text target)
  ctx.compileTarget lookup (ctx.resolution embed []) (.text target) field many node

/-- What every definition compiles to, given what the definitions compile to that are embedded. -/
def expandAll (embed : Embed m) : m (List Compiled) :=
  let lookup := fun name => Compile.ofExcept (ctx.normalForm name)
  let resolve := ctx.resolution embed []
  let compile := fun name =>
    let fields := do
      let node ← lookup name
      ctx.compileSetWith lookup resolve name node
    ctx.compileDefinitionWith fields resolve name
  compileEach compile (Entries.keys ctx.definitions)

variable {ctx} {n : Type → Type} [Monad n] [MonadExceptOf Fault n]
  {R : (α : Type) → m α → n α → Prop} {embed : Embed m} {embed' : Embed n}

theorem expand_related (hR : Sequential R)
    (h : ∀ field target many, ctx.isReserved field = false →
      R _ (embed field target many) (embed' field target many))
    (field : Scalar) (target : String) (many : Bool) :
    R _ (ctx.expand embed field target many) (ctx.expand embed' field target many) := by
  have hlookup := fun name => hR.outcome (ctx.normalForm name)
  refine hR.step (hlookup _) fun node => ?_
  exact compileTarget_related hR (resolution_related hR h) hlookup _ field many node

theorem expandAll_related (hR : Sequential R)
    (h : ∀ field target many, ctx.isReserved field = false →
      R _ (embed field target many) (embed' field target many)) :
    R _ (ctx.expandAll embed) (ctx.expandAll embed') := by
  have hlookup := fun name => hR.outcome (ctx.normalForm name)
  have hres : ctx.Resolves R (ctx.resolution embed []) (ctx.resolution embed' []) :=
    resolution_related hR h
  refine compileEach_related hR (fun name => ?_) _
  refine compileDefinitionWith_related hR hres (hR.step (hlookup name) fun node => ?_) name
  exact compileSetWith_related hR hres hlookup name node

end Expand

variable {ctx}

theorem embedAt_succ (hguard : ctx.settings.detectCycles = false) (depth : Nat) :
    ctx.embedAt (depth + 1) [] = ctx.expand (ctx.embedAt depth []) := by
  funext field target many
  simp only [embedAt, expand, ofExcept_eq]
  rw [embedAt_unguarded hguard depth _ [], resolution_unguarded hguard _ _ []]

theorem compileAll_eq_expandAll (hguard : ctx.settings.detectCycles = false) :
    ctx.compileAll = ctx.expandAll (ctx.embedAt ctx.referenceBound []) := by
  rw [compileAll_eq]
  simp only [expandAll, ofExcept_eq]
  congr 1
  funext name
  simp only [definitionMeaning, fieldsMeaning, meaning]
  rw [embedAt_unguarded hguard _ _ [], resolution_unguarded hguard _ ([] ++ [name]) []]

/-- A definition that is embedded, with a trace of that. -/
def noted (embed : Embed (Except Fault)) : Embed Traced := fun field target many =>
  ⟨embed field target many, [⟨field, target⟩]⟩

section Foreign

/-- The field is named after no definition. -/
def Foreign (ctx : Context) (field : Scalar) : Prop :=
  field ∉ Entries.keys ctx.definitions

variable {field field' : Scalar}

private theorem Foreign.not_same (h : ctx.Foreign field) {target : String} {name : Scalar}
    (hregistered : ctx.requireDefinition (.text target) = .ok name) :
    field.same (.text target) = false := by
  rw [Bool.eq_false_iff]
  intro hsame
  apply h
  rw [Scalar.same_text.mp hsame]
  cases hraw : ctx.rawDefinition (.text target) with
  | error fault =>
    rw [requireDefinition, hraw] at hregistered
    cases hregistered
  | ok raw => exact mem_keys_of_rawDefinition hraw

private theorem resolution_foreign (hfield : ctx.Foreign field) (hfield' : ctx.Foreign field')
    (embed : Embed Traced) (inner : Scalar) (target : String) (many : Bool) :
    ctx.resolution embed [] field inner target many =
      ctx.resolution embed [] field' inner target many := by
  unfold resolution
  cases hregistered : ctx.requireDefinition (.text target) with
  | error fault => rfl
  | ok name =>
    simp only [isSelfReference, hfield.not_same hregistered, hfield'.not_same hregistered]

/-- The same reference, or one under the first field and the same one under the second. -/
def Renamed (field field' : Scalar) (s s' : Site) : Prop :=
  s = s' ∨ ∃ target, s = ⟨field, target⟩ ∧ s' = ⟨field', target⟩

/-- What is embedded for a field that is named after no definition is embedded for another such
field just as well, if the same holds of what is embedded in it. -/
theorem expand_foreign (hfield : ctx.Foreign field) (hfield' : ctx.Foreign field')
    (hopen : ctx.isReserved field = false) (hopen' : ctx.isReserved field' = false)
    {embed : Embed (Except Fault)}
    (h : ∀ target many, Traced.Agree (embed field target many) (embed field' target many))
    (target : String) (many : Bool) :
    (ctx.expand (noted embed) field target many).Simulated (Renamed field field')
      (ctx.expand (noted embed) field' target many) := by
  have hrefl : ∀ s, Renamed field field' s s := fun s => Or.inl rfl
  have hR := Traced.sequential_simulated hrefl
  have hsame : ∀ {α : Type} (x : Traced α), x.Simulated (Renamed field field') x :=
    fun x => .refl hrefl x
  have hfault : ∀ {fault fault' : Fault}, fault ≠ .endless → fault' ≠ .endless →
      (throw fault : Traced (Option Value)).Simulated (Renamed field field') (throw fault') := by
    intro fault fault' hends hends'
    exact ⟨Or.inr ⟨fault, fault', rfl, rfl, hends, hends'⟩, fun s hs => by cases hs⟩
  refine hR.step (hsame _) fun node => ?_
  refine compileTarget_placed hR (fun _ _ _ _ _ => hsame _) (fun _ => hsame _)
    (hopen.trans hopen'.symm) (fun _ => ?_) many node
  exact
    { references := fun inner many => by
        refine hR.step (hsame _) fun _ => ?_
        split
        · exact hsame _
        · exact
            { agree := h inner many
              met := fun s hs => by
                rw [List.mem_singleton.mp hs]
                exact ⟨_, List.mem_singleton_self _, Or.inr ⟨inner, rfl, rfl⟩⟩ }
      notMapping := fun value => hfault (fun h => by cases h) fun h => by cases h
      owned :=
        { references := fun inner target many _ => by
            rw [resolution_foreign hfield hfield']
            exact hsame _
          notMapping := fun inner value => hfault (fun h => by cases h) fun h => by cases h }
      required := fun _ => rfl }

theorem outcome_expand_noted (embed : Embed (Except Fault)) (field : Scalar) (target : String)
    (many : Bool) :
    (ctx.expand (noted embed) field target many).outcome = ctx.expand embed field target many :=
  expand_related Traced.sequential_outcome (fun _ _ _ _ => rfl) field target many

theorem embedAt_foreign (hguard : ctx.settings.detectCycles = false) (hfield : ctx.Foreign field)
    (hfield' : ctx.Foreign field') (hopen : ctx.isReserved field = false)
    (hopen' : ctx.isReserved field' = false) (depth : Nat) (target : String) (many : Bool) :
    Traced.Agree (ctx.embedAt depth [] field target many)
      (ctx.embedAt depth [] field' target many) := by
  induction depth generalizing target many with
  | zero => exact Or.inl rfl
  | succ depth ih =>
    have h := (expand_foreign hfield hfield' hopen hopen' ih target many).agree
    rw [outcome_expand_noted, outcome_expand_noted] at h
    rw [embedAt_succ hguard]
    exact h

end Foreign

section Bound

private theorem embedAt_unregistered {target : String} {fault : Fault}
    (hraw : ctx.rawDefinition (.text target) = .error fault) (depth : Nat) (field : Scalar)
    (many : Bool) : ctx.embedAt (depth + 1) [] field target many = .error fault := by
  simp only [embedAt, normalForm_of_unregistered hraw]
  rfl

/-- The definition that a reference leads to, and the one that its field is named after if there is
one. -/
def codeOf (ctx : Context) (s : Site) : Scalar × Option Scalar :=
  (.text s.target, if s.field ∈ Entries.keys ctx.definitions then some s.field else none)

def codes (ctx : Context) : List (Scalar × Option Scalar) :=
  let keys := Entries.keys ctx.definitions
  keys.product (none :: keys.map some)

theorem codeOf_mem_codes {s : Site} {raw : Data}
    (hraw : ctx.rawDefinition (.text s.target) = .ok raw) :
    ctx.codeOf s ∈ ctx.codes := by
  refine List.mem_product.mpr ⟨mem_keys_of_rawDefinition hraw, ?_⟩
  split
  · next hfield => exact List.mem_cons_of_mem _ (List.mem_map.mpr ⟨_, hfield, rfl⟩)
  · exact List.mem_cons_self

/-- References with one code lead to one definition, and their fields are the same or are both
named after none. -/
theorem alike_of_codeOf {s s' : Site} (h : ctx.codeOf s = ctx.codeOf s') :
    s.target = s'.target ∧
      (s.field = s'.field ∨ ctx.Foreign s.field ∧ ctx.Foreign s'.field) := by
  obtain ⟨htarget, hfield⟩ := Prod.mk.inj h
  injection htarget with htarget
  refine ⟨htarget, ?_⟩
  split at hfield
  · split at hfield
    · exact Or.inl (Option.some.inj hfield)
    · cases hfield
  · next hforeign =>
    split at hfield
    · cases hfield
    · next hforeign' => exact Or.inr ⟨hforeign, hforeign'⟩

abbrev Open (ctx : Context) : Type :=
  { s : Site × Bool // ctx.isReserved s.1.field = false }

def embedOpen (ctx : Context) (depth : Nat) (s : ctx.Open) : Except Fault (Option Value) :=
  ctx.embedAt depth [] s.1.1.field s.1.1.target s.1.2

private theorem approximations_embedOpen (hguard : ctx.settings.detectCycles = false) :
    Approximations ctx.embedOpen where
  grows depth s := embedAt_grows depth [] _ _ _
  follows depth h := by
    funext s
    unfold embedOpen
    rw [embedAt_succ hguard, embedAt_succ hguard (depth + 1)]
    refine expand_related sequential_eq (fun field target many hopen => ?_) _ _ _
    exact congrFun h ⟨(⟨field, target⟩, many), hopen⟩

private theorem ends_embedOpen_of_codeOf (hguard : ctx.settings.detectCycles = false) {depth : Nat}
    {s s' : ctx.Open} (hcode : ctx.codeOf s.1.1 = ctx.codeOf s'.1.1)
    (hends : Ends (ctx.embedOpen depth s)) : Ends (ctx.embedOpen depth s') := by
  obtain ⟨⟨⟨field, target⟩, many⟩, hopen⟩ := s
  obtain ⟨⟨⟨field', target'⟩, many'⟩, hopen'⟩ := s'
  obtain ⟨htarget, hfield⟩ := alike_of_codeOf hcode
  replace htarget : target = target' := htarget
  subst htarget
  have hsame : Ends (ctx.embedAt depth [] field' target many) := by
    rcases hfield with heq | ⟨hforeign, hforeign'⟩
    · replace heq : field = field' := heq
      subst heq
      exact hends
    · exact (embedAt_foreign hguard hforeign hforeign' hopen hopen' depth target many).ends hends
  exact fun hstuck => hsame (embedAt_fault_many hstuck many)

/-- Without the guard, following more references in a row than the bound changes nothing. -/
theorem embedAt_referenceBound (hguard : ctx.settings.detectCycles = false) (k : Nat)
    {field : Scalar} (hopen : ctx.isReserved field = false) (target : String) (many : Bool) :
    ctx.embedAt (ctx.referenceBound + k) [] field target many =
      ctx.embedAt ctx.referenceBound [] field target many := by
  have hf := approximations_embedOpen hguard
  have hstable : ∀ k, ctx.embedOpen (ctx.codes.length + 1 + k) =
      ctx.embedOpen (ctx.codes.length + 1) := by
    intro k
    refine hf.stable_of_codes (fun s => ctx.codeOf s.1.1) ctx.codes ?_ ?_ k
    · intro depth s s' hcode hends
      exact ends_embedOpen_of_codeOf hguard hcode hends
    · intro depth s hstuck _
      cases hraw : ctx.rawDefinition (.text s.1.1.target) with
      | ok raw => exact codeOf_mem_codes hraw
      | error fault =>
        apply absurd _ hstuck
        rw [embedOpen, embedAt_unregistered hraw]
        exact ends_of_rawDefinition_error hraw
  have hlength : ctx.codes.length = ctx.definitions.length * (ctx.definitions.length + 1) := by
    refine (List.length_product _ _).trans ?_
    rw [List.length_cons, List.length_map, Entries.keys, List.length_map]
  -- The bound exceeds what is needed, by as many references as there are definitions.
  have hbound : ctx.referenceBound = ctx.codes.length + 1 + ctx.definitions.length := by
    rw [hlength, referenceBound, Nat.succ_mul]
    omega
  have h := (hstable (ctx.definitions.length + k)).trans (hstable ctx.definitions.length).symm
  rw [← Nat.add_assoc, ← hbound] at h
  exact congrFun h ⟨(⟨field, target⟩, many), hopen⟩

end Bound

end Context

end StoreSchema
