import StoreSchema.Compile.Context
import StoreSchema.Compile.Definition

set_option autoImplicit false

namespace StoreSchema

variable {α β : Type}

/-- The outcome is not that of a step that never ends. -/
def Ends (outcome : Except Fault α) : Prop := outcome ≠ .error .endless

/-- The first outcome is the second, unless it never ends. -/
def Approximates (a b : Except Fault α) : Prop := a = .error .endless ∨ a = b

namespace Approximates

theorem refl (a : Except Fault α) : Approximates a a := Or.inr rfl

theorem bot (a : Except Fault α) : Approximates (.error .endless) a := Or.inl rfl

theorem eq {a b : Except Fault α} (h : Approximates a b) (ends : Ends a) : a = b :=
  h.resolve_left ends

theorem ends {a b : Except Fault α} (h : Approximates a b) (ends : Ends a) : Ends b := by
  rw [← h.eq ends]
  exact ends

theorem trans {a b c : Except Fault α} (hab : Approximates a b) (hbc : Approximates b c) :
    Approximates a c := by
  rcases hab with rfl | rfl
  · exact bot c
  · exact hbc

theorem antisymm {a b : Except Fault α} (hab : Approximates a b) (hba : Approximates b a) :
    a = b := by
  rcases hab with rfl | rfl
  · rcases hba with h | h
    · exact h.symm
    · exact h.symm
  · rfl

theorem bind {a b : Except Fault α} {f g : α → Except Fault β} (h : Approximates a b)
    (hfg : ∀ v, Approximates (f v) (g v)) : Approximates (a >>= f) (b >>= g) := by
  rcases h with rfl | rfl
  · exact bot _
  · cases a with
    | error fault => exact refl _
    | ok v => exact hfg v

end Approximates

@[simp] theorem ok_bind {ε : Type} (v : α) (f : α → Except ε β) : (.ok v >>= f) = f v := rfl

@[simp] theorem error_bind {ε : Type} (fault : ε) (f : α → Except ε β) :
    (.error fault >>= f) = .error fault := rfl

theorem run_run_bind {ε σ α β : Type} (step : ExceptT ε (StateM σ) α)
    (next : α → ExceptT ε (StateM σ) β) (s : σ) :
    (step >>= next : ExceptT ε (StateM σ) β).run.run s =
      match step.run.run s with
      | (.ok v, after) => (next v).run.run after
      | (.error e, after) => (.error e, after) := by
  simp only [ExceptT.run, bind, ExceptT.bind, ExceptT.mk, StateT.bind, StateT.run]
  rcases step s with ⟨a, after⟩
  cases a <;> rfl

theorem exists_of_bind_eq_ok {ε : Type} {a : Except ε α} {f : α → Except ε β} {w : β}
    (h : a >>= f = .ok w) : ∃ v, a = .ok v ∧ f v = .ok w := by
  cases a with
  | error fault => cases h
  | ok v => exact ⟨v, rfl, h⟩

theorem bind_eq_ok {ε : Type} {a : Except ε α} {f : α → Except ε β} {v : α} {w : β}
    (h : a = .ok v) (hf : f v = .ok w) : a >>= f = .ok w := by
  rw [h]
  exact hf

theorem eq_ok_of_orMisuse {a : Except Misuse α} {v : α} (h : orMisuse a = .ok v) : a = .ok v := by
  cases a with
  | error misuse => cases h
  | ok w =>
    cases h
    rfl

theorem eq_error_of_map {a : Except Fault α} {f : α → β} {fault : Fault}
    (h : (do let v ← a; pure (f v)) = Except.error fault) : a = .error fault := by
  cases a with
  | error other =>
    cases h
    rfl
  | ok v => cases h

theorem Ends.of_bind {a : Except Fault α} {f : α → Except Fault β} (h : Ends (a >>= f)) :
    Ends a := by
  intro hstuck
  rw [hstuck] at h
  exact h rfl

@[simp] theorem ends_ok (v : α) : Ends (.ok v : Except Fault α) := by
  intro h
  cases h

/-- A relation between the steps of two kinds that plain outcomes and sequencing respect. -/
structure Sequential {m n : Type → Type} [Monad m] [MonadExceptOf Fault m] [Monad n]
    [MonadExceptOf Fault n] (R : (α : Type) → m α → n α → Prop) : Prop where
  value : ∀ {α : Type} (v : α), R α (pure v) (pure v)
  fault : ∀ {α : Type} (f : Fault), R α (throw f) (throw f)
  step : ∀ {α β : Type} {x : m α} {y : n α} {f : α → m β} {g : α → n β},
    R α x y → (∀ v, R β (f v) (g v)) → R β (x >>= f) (y >>= g)

namespace Sequential

variable {m n : Type → Type} [Monad m] [MonadExceptOf Fault m] [Monad n] [MonadExceptOf Fault n]
  {R : (α : Type) → m α → n α → Prop}

theorem outcome (h : Sequential R) (a : Except Fault α) :
    R α (Compile.ofExcept a) (Compile.ofExcept a) := by
  cases a with
  | ok v => exact h.value v
  | error f => exact h.fault f

end Sequential

theorem sequential_eq : Sequential fun α (a b : Except Fault α) => a = b where
  value _ := rfl
  fault _ := rfl
  step h hfg := by rw [h, funext hfg]

theorem sequential_approximates : Sequential fun α (a b : Except Fault α) => Approximates a b where
  value _ := .refl _
  fault _ := .refl _
  step := Approximates.bind

theorem sequential_approximated :
    Sequential fun α (a b : Except Fault α) => Approximates b a where
  value _ := .refl _
  fault _ := .refl _
  step h hfg := h.bind hfg

@[simp] theorem ofExcept_eq (a : Except Fault α) : (Compile.ofExcept a : Except Fault α) = a := by
  cases a <;> rfl

namespace Compile

/-- What a step ends in. -/
def outcome (step : Compile α) (p : Progress) : Except Fault α := (step.run.run p).1

def after (step : Compile α) (p : Progress) : Progress := (step.run.run p).2

theorem outcome_bind (step : Compile α) (next : α → Compile β) (p : Progress) :
    (step >>= next).outcome p = step.outcome p >>= fun v => (next v).outcome (step.after p) := by
  simp only [outcome, after, ExceptT.run, bind, ExceptT.bind, ExceptT.mk, StateT.bind, StateT.run]
  rcases h : step p with ⟨a, q⟩
  cases a <;> rfl

theorem after_bind_ok {step : Compile α} {p : Progress} {v : α} (next : α → Compile β)
    (h : step.outcome p = .ok v) : (step >>= next).after p = (next v).after (step.after p) := by
  simp only [outcome, after, ExceptT.run, bind, ExceptT.bind, ExceptT.mk, StateT.bind,
    StateT.run] at h ⊢
  rcases hs : step p with ⟨a, q⟩
  rw [hs] at h
  cases h
  rfl

theorem after_bind_error {step : Compile α} {p : Progress} {fault : Fault}
    (next : α → Compile β) (h : step.outcome p = .error fault) :
    (step >>= next).after p = step.after p := by
  simp only [outcome, after, ExceptT.run, bind, ExceptT.bind, ExceptT.mk, StateT.bind,
    StateT.run] at h ⊢
  rcases hs : step p with ⟨a, q⟩
  rw [hs] at h
  cases h
  rfl

@[simp] theorem outcome_get_bind (next : Progress → Compile β) (p : Progress) :
    (get >>= next : Compile β).outcome p = (next p).outcome p := rfl

@[simp] theorem after_get_bind (next : Progress → Compile β) (p : Progress) :
    (get >>= next : Compile β).after p = (next p).after p := rfl

theorem outcome_remembered (name : Scalar) (read : Compile Data) (p : Progress) :
    (remembered name read).outcome p =
      match Entries.get? p.normalized name with
      | some known => .ok known
      | none => read.outcome p := by
  simp only [remembered, outcome_get_bind]
  cases Entries.get? p.normalized name with
  | some known => rfl
  | none =>
    rw [outcome_bind]
    cases read.outcome p <;> rfl

theorem after_remembered (name : Scalar) (read : Compile Data) (p : Progress) :
    (remembered name read).after p =
      match Entries.get? p.normalized name, read.outcome p with
      | some _, _ => p
      | none, .ok node =>
        let q := read.after p
        { q with normalized := Entries.put q.normalized name node }
      | none, .error _ => read.after p := by
  simp only [remembered, after_get_bind]
  cases Entries.get? p.normalized name with
  | some known => rfl
  | none =>
    cases hread : read.outcome p with
    | ok node =>
      rw [after_bind_ok _ hread]
      rfl
    | error fault => rw [after_bind_error _ hread]

theorem outcome_within (name : Scalar) (step : Compile α) (p : Progress) :
    (within name step).outcome p =
      step.outcome { p with resolving := p.resolving ++ [name] } := rfl

theorem after_within (name : Scalar) (step : Compile α) (p : Progress) :
    (within name step).after p =
      let q := step.after { p with resolving := p.resolving ++ [name] }
      { q with resolving := q.resolving.dropLast } := rfl

end Compile

variable {m n : Type → Type} [Monad m] [MonadExceptOf Fault m] [Monad n] [MonadExceptOf Fault n]
  {R : (α : Type) → m α → n α → Prop}

namespace Context

def Resolves (ctx : Context) (R : (α : Type) → m α → n α → Prop) (resolve : Resolve m)
    (resolve' : Resolve n) : Prop :=
  ∀ owner field target many, ctx.isReserved field = false →
    R _ (resolve owner field target many) (resolve' owner field target many)

/-- Owners that the references of their fields are treated alike for, and so are the fields that
are no mapping. -/
structure Owned (ctx : Context) (R : (α : Type) → m α → n α → Prop) (resolve : Resolve m)
    (resolve' : Resolve n) (owner owner' : Scalar) : Prop where
  references : ∀ field target many, ctx.isReserved field = false →
    R _ (resolve owner field target many) (resolve' owner' field target many)
  notMapping : ∀ field value, R (Option Value) (throw (.propertyNotMapping field owner value))
    (throw (.propertyNotMapping field owner' value))

/-- Places, each a field of an owner, that are treated alike: as references, as no mapping, as what
is required and as the owners of the fields of an inline object. -/
structure Placed (ctx : Context) (R : (α : Type) → m α → n α → Prop) (resolve : Resolve m)
    (resolve' : Resolve n) (required : Data) (owner owner' field field' : Scalar) : Prop where
  references : ∀ target many,
    R _ (resolve owner field target many) (resolve' owner' field' target many)
  notMapping : ∀ value, R (Option Value) (throw (.propertyNotMapping field owner value))
    (throw (.propertyNotMapping field' owner' value))
  owned : ctx.Owned R resolve resolve' field field'
  required : ∀ v : Value, v.fillRequired field required = v.fillRequired field' required

theorem Resolves.owned {ctx : Context} {resolve : Resolve m} {resolve' : Resolve n}
    (h : ctx.Resolves R resolve resolve') (hR : Sequential R) (owner : Scalar) :
    ctx.Owned R resolve resolve' owner owner where
  references := h owner
  notMapping _ _ := hR.fault _

theorem Owned.placed {ctx : Context} {resolve : Resolve m} {resolve' : Resolve n}
    {owner owner' field : Scalar} (h : ctx.Owned R resolve resolve' owner owner')
    (hR : Sequential R) (hres : ctx.Resolves R resolve resolve')
    (hfield : ctx.isReserved field = false) (required : Data) :
    ctx.Placed R resolve resolve' required owner owner' field field where
  references target many := h.references field target many hfield
  notMapping := h.notMapping field
  owned := hres.owned hR field
  required _ := rfl

private theorem gather_related (hR : Sequential R) {lookup : Scalar → m Data}
    {lookup' : Scalar → n Data} (hlookup : ∀ name, R _ (lookup name) (lookup' name))
    (fragments : List Data) :
    ∀ gathered, R _ (gather lookup gathered fragments) (gather lookup' gathered fragments) := by
  induction fragments with
  | nil => exact fun gathered => hR.value gathered
  | cons fragment rest ih =>
    intro gathered
    simp only [gather]
    refine hR.step (hR.outcome _) fun source => hR.step ?_ fun node => hR.step (hR.outcome _) ih
    cases source with
    | named target => exact hlookup _
    | inline node => exact hR.value node

theorem merge_related (hR : Sequential R) {lookup : Scalar → m Data} {lookup' : Scalar → n Data}
    (hlookup : ∀ name, R _ (lookup name) (lookup' name)) (node : Data) :
    R _ (merge lookup node) (merge lookup' node) :=
  hR.step (hR.outcome _) fun _ => hR.step (hR.outcome _) fun fragments =>
    hR.step (gather_related hR hlookup fragments _) fun _ => hR.value _

theorem readDefinition_related (hR : Sequential R) (ctx : Context) {lookup : Scalar → m Data}
    {lookup' : Scalar → n Data} (hlookup : ∀ name, R _ (lookup name) (lookup' name))
    (name : Scalar) : R _ (ctx.readDefinition lookup name) (ctx.readDefinition lookup' name) := by
  refine hR.step (hR.outcome _) fun raw => ?_
  split
  · exact hR.step (merge_related hR hlookup raw) fun _ => hR.value _
  · exact hR.value raw

variable {ctx : Context} {resolve : Resolve m} {resolve' : Resolve n}

mutual
theorem compileShape_related (hR : Sequential R) (hres : ctx.Resolves R resolve resolve')
    {required : Data} {owner owner' field field' : Scalar}
    (hplaced : ctx.Placed R resolve resolve' required owner owner' field field') (shape : Shape) :
    R _ (ctx.compileShape resolve owner field required shape)
      (ctx.compileShape resolve' owner' field' required shape) := by
  match shape with
  | .notMapping value =>
    simp only [compileShape]
    exact hplaced.notMapping value
  | .endless | .noFields | .malformed _ =>
    simp only [compileShape]
    exact hR.fault _
  | .composed =>
    simp only [compileShape]
    exact hR.value _
  | .override _ _ _ | .typed _ _ =>
    simp only [compileShape, hplaced.required]
    exact hR.step (hR.outcome _) fun _ => hR.value _
  | .reference target many =>
    simp only [compileShape, hplaced.required]
    exact hR.step (hplaced.references target many) fun _ => hR.value _
  | .fields inner members =>
    simp only [compileShape, hplaced.required]
    exact hR.step (compileMembers_related hR hres hplaced.owned inner members) fun _ => hR.value _
  | .withDefault shape _ =>
    simp only [compileShape]
    exact hR.step (compileShape_related hR hres hplaced shape) fun _ => hR.value _

theorem compileMembers_related (hR : Sequential R) (hres : ctx.Resolves R resolve resolve')
    {owner owner' : Scalar} (howner : ctx.Owned R resolve resolve' owner owner') (required : Data)
    (members : List (Scalar × Shape)) :
    R _ (ctx.compileMembers resolve owner required members)
      (ctx.compileMembers resolve' owner' required members) := by
  match members with
  | [] =>
    simp only [compileMembers]
    exact hR.value _
  | (name, shape) :: rest =>
    simp only [compileMembers]
    refine hR.step ?_ fun v =>
      hR.step (compileMembers_related hR hres howner required rest) fun more => ?_
    · cases hname : ctx.isReserved name with
      | true => exact hR.value none
      | false => exact compileShape_related hR hres (howner.placed hR hres hname required) shape
    · cases v with
      | none => exact hR.value _
      | some v => exact hR.value _
end

/-- A property is compiled alike at places that are treated alike, and is left out at both if the
field is reserved. -/
theorem compilePropertyWith_placed (hR : Sequential R) (hres : ctx.Resolves R resolve resolve')
    {required : Data} {owner owner' field field' : Scalar}
    (hopen : ctx.isReserved field = ctx.isReserved field')
    (hplaced : ctx.isReserved field = false →
      ctx.Placed R resolve resolve' required owner owner' field field') (property : Data) :
    R _ (ctx.compilePropertyWith resolve property field required owner)
      (ctx.compilePropertyWith resolve' property field' required owner') := by
  unfold compilePropertyWith
  rw [← hopen]
  cases hfield : ctx.isReserved field with
  | true => exact hR.value none
  | false => exact compileShape_related hR hres (hplaced hfield) _

theorem compilePropertyWith_related (hR : Sequential R) (hres : ctx.Resolves R resolve resolve')
    (property : Data) (field : Scalar) (required : Data) (owner : Scalar) :
    R _ (ctx.compilePropertyWith resolve property field required owner)
      (ctx.compilePropertyWith resolve' property field required owner) :=
  compilePropertyWith_placed hR hres rfl
    (fun hfield => (hres.owned hR owner).placed hR hres hfield required) property

theorem compileNode_related (hR : Sequential R) (hres : ctx.Resolves R resolve resolve')
    (owner : Scalar) (shape : Shape) :
    R _ (ctx.compileNode resolve owner shape) (ctx.compileNode resolve' owner shape) := by
  unfold compileNode
  split
  · exact hR.step (compileMembers_related hR hres (hres.owned hR owner) _ _) fun _ => hR.value _
  · exact hR.step (hR.outcome _) fun _ => hR.value _
  · exact hR.fault _
  · exact hR.fault _

variable {lookup : Scalar → m Data} {lookup' : Scalar → n Data}

theorem compileSetWith_related (hR : Sequential R) (hres : ctx.Resolves R resolve resolve')
    (hlookup : ∀ name, R _ (lookup name) (lookup' name)) (owner : Scalar) (node : Data) :
    R _ (ctx.compileSetWith lookup resolve owner node)
      (ctx.compileSetWith lookup' resolve' owner node) := by
  refine hR.step ?_ fun entries => compileNode_related hR hres owner _
  split
  · exact merge_related hR hlookup node
  · exact hR.outcome _

/-- What is embedded for one of two fields that are treated alike is related to what is embedded
for the other. -/
theorem compileTarget_placed (hR : Sequential R) (hres : ctx.Resolves R resolve resolve')
    (hlookup : ∀ name, R _ (lookup name) (lookup' name)) {name field field' : Scalar}
    (hopen : ctx.isReserved field = ctx.isReserved field')
    (hplaced : ctx.isReserved field = false →
      ctx.Placed R resolve resolve' .null name name field field') (many : Bool) (node : Data) :
    R _ (ctx.compileTarget lookup resolve name field many node)
      (ctx.compileTarget lookup' resolve' name field' many node) := by
  refine hR.step (hR.outcome _) fun definition => ?_
  split
  · split
    · exact hR.step (compilePropertyWith_related hR hres _ name .null name) fun _ => hR.value _
    · exact hR.step (compileSetWith_related hR hres hlookup name node) fun _ => hR.value _
  · exact hR.step (compilePropertyWith_placed hR hres hopen hplaced _) fun _ => hR.value _

theorem compileTarget_related (hR : Sequential R) (hres : ctx.Resolves R resolve resolve')
    (hlookup : ∀ name, R _ (lookup name) (lookup' name)) (name field : Scalar) (many : Bool)
    (node : Data) :
    R _ (ctx.compileTarget lookup resolve name field many node)
      (ctx.compileTarget lookup' resolve' name field many node) :=
  compileTarget_placed hR hres hlookup rfl
    (fun hfield => (hres.owned hR name).placed hR hres hfield .null) many node

theorem compileAdditional_related (hR : Sequential R) (hres : ctx.Resolves R resolve resolve')
    (name : Scalar) (properties : Entries Data) :
    R _ (ctx.compileAdditional resolve name properties)
      (ctx.compileAdditional resolve' name properties) := by
  induction properties with
  | nil => exact hR.value _
  | cons entry rest ih =>
    obtain ⟨field, property⟩ := entry
    simp only [compileAdditional]
    refine hR.step (hR.outcome _) fun entries =>
      hR.step (compilePropertyWith_related hR hres _ field _ name) fun v =>
        hR.step ih fun more => ?_
    cases v with
    | none => exact hR.value _
    | some v => exact hR.value _

theorem compileDefinitionWith_related (hR : Sequential R) (hres : ctx.Resolves R resolve resolve')
    {fields : m Value} {fields' : n Value} (hfields : R _ fields fields') (name : Scalar) :
    R _ (ctx.compileDefinitionWith fields resolve name)
      (ctx.compileDefinitionWith fields' resolve' name) := by
  unfold compileDefinitionWith
  split
  · exact hR.value none
  · exact hR.step hfields fun properties =>
      hR.step (compileAdditional_related hR hres name _) fun additional =>
        hR.step (hR.outcome _) fun index => hR.value _

theorem compileEach_related (hR : Sequential R) {compile : Scalar → m (Option Compiled)}
    {compile' : Scalar → n (Option Compiled)} (h : ∀ name, R _ (compile name) (compile' name))
    (names : List Scalar) : R _ (compileEach compile names) (compileEach compile' names) := by
  induction names with
  | nil => exact hR.value _
  | cons name rest ih => exact hR.step (h name) fun first => hR.step ih fun more => hR.value _

end Context

end StoreSchema
