import StoreSchema.Compile.Definition
import StoreSchema.Proofs.NormalForm
import StoreSchema.Proofs.Shapes

/-!
What compiling means without a memory: outcomes read from the definitions and the stack alone.

The steps of a run that embed a definition, compile a set of fields or compile a whole definition
yield these outcomes, whatever normal forms the run remembers. Main statement of this module: a
definition compiles to the same, or fails in the same way, whatever was compiled before it on the
same run, and each call leaves the stack as it was.
-/

set_option autoImplicit false

namespace StoreSchema

namespace Context

variable (ctx : Context)

/-- What a reference compiles to on a stack, given what the definitions that are embedded compile
to. -/
def resolution {m : Type → Type} [Monad m] [MonadExceptOf Fault m] (embed : Embed m)
    (stack : List Scalar) : Resolve m :=
  fun owner field target many => do
    let _ ← Compile.ofExcept (ctx.requireDefinition (.text target))
    if ctx.isSelfReference owner target stack then
      pure (some ((Value.referenceTo target true).manyOf many))
    else embed field target many

/-- What a definition compiles to for the field that refers to it from inside a stack, following at
most `depth` references in a row. -/
def embedAt : Nat → List Scalar → Embed (Except Fault)
  | 0, _ => fun _ _ _ => .error .endless
  | depth + 1, stack => fun field target many => do
    let node ← ctx.normalForm (.text target)
    let inner := stack ++ [.text target]
    ctx.compileTarget ctx.normalForm (ctx.resolution (embedAt depth inner) inner)
      (.text target) field many node

/-- What a reference compiles to on a stack. -/
def meaning (stack : List Scalar) : Resolve (Except Fault) :=
  ctx.resolution (ctx.embedAt ctx.referenceBound stack) stack

variable {ctx} {stack : List Scalar}

theorem within_yields {α : Type} {name : Scalar} {step : Compile α} {value : Except Fault α}
    (h : ctx.Yields (stack ++ [name]) step value) :
    ctx.Yields stack (Compile.within name step) value := by
  intro p hstack hmem
  have hinner := h { p with resolving := p.resolving ++ [name] } (by rw [hstack]) hmem
  obtain ⟨hout, hafter, hmem'⟩ := hinner
  rw [Compile.outcome_within, Compile.after_within]
  refine ⟨hout, ?_, hmem'⟩
  simp only [hafter, List.dropLast_concat]

/-- Entering a definition yields what its step yields on the longer stack, as long as that stack is
an allowed one. -/
def Enters (ctx : Context) (allowed : List Scalar → Prop) (enter : Enter) : Prop :=
  ∀ {α : Type} (stack : List Scalar) (name : Scalar) (step : Compile α) (value : Except Fault α),
    allowed (stack ++ [name]) → ctx.Yields (stack ++ [name]) step value →
      ctx.Yields stack (enter name step) value

theorem enters_within (allowed : List Scalar → Prop) : ctx.Enters allowed Compile.within :=
  fun _ _ _ _ _ h => within_yields h

def Allows (ctx : Context) (allowed : List Scalar → Prop) : Prop :=
  ∀ stack owner target, allowed stack → ctx.isSelfReference owner target stack = false →
    allowed (stack ++ [.text target])

private theorem allows_all : ctx.Allows fun _ => True := fun _ _ _ _ _ => trivial

variable {allowed : List Scalar → Prop} {enter : Enter}

private theorem resolve_yields {embed : Embed Compile} {embed' : Embed (Except Fault)}
    (h : ∀ owner field target many, ctx.isSelfReference owner target stack = false →
      ctx.Yields stack (embed field target many) (embed' field target many)) :
    ctx.Resolves (ctx.Follows (fun _ a b => a = b) stack) (ctx.resolve embed)
      (ctx.resolution embed' stack) := by
  intro owner field target many _
  have hR := sequential_yields ctx stack
  refine hR.step (hR.outcome (ctx.requireDefinition (.text target))) fun _ p hstack hmem => ?_
  rw [Compile.outcome_get_bind, Compile.after_get_bind, hstack]
  cases hself : ctx.isSelfReference owner target stack with
  | true => exact hR.value (some ((Value.referenceTo target true).manyOf many)) p hstack hmem
  | false => exact h owner field target many hself p hstack hmem

private theorem embed_yields (henter : ctx.Enters allowed enter) (hallows : ctx.Allows allowed)
    (depth : Nat) : ∀ (stack : List Scalar) (field : Scalar) (target : String) (many : Bool),
      allowed (stack ++ [.text target]) →
        ctx.Yields stack (ctx.embed enter depth field target many)
          (ctx.embedAt depth stack field target many) := by
  induction depth with
  | zero => exact fun stack field target many _ => (sequential_yields ctx stack).fault .endless
  | succ depth ih =>
    intro stack field target many hallowed
    refine (sequential_yields ctx stack).step (definition_yields _) fun node => ?_
    apply henter _ _ _ _ hallowed
    have hres := resolve_yields fun owner field target' many hself =>
      ih (stack ++ [Scalar.text target]) field target' many (hallows _ _ _ hallowed hself)
    exact compileTarget_related (sequential_yields ctx _) hres definition_yields _ field many node

theorem resolution_related {m n : Type → Type} [Monad m] [MonadExceptOf Fault m] [Monad n]
    [MonadExceptOf Fault n] {R : (α : Type) → m α → n α → Prop} (hR : Sequential R)
    {embed : Embed m} {embed' : Embed n}
    (h : ∀ field target many, ctx.isReserved field = false →
      R _ (embed field target many) (embed' field target many)) :
    ctx.Resolves R (ctx.resolution embed stack) (ctx.resolution embed' stack) := by
  intro owner field target many hfield
  refine hR.step (hR.outcome _) fun _ => ?_
  split
  · exact hR.value _
  · exact h field target many hfield

theorem embedAt_grows (depth : Nat) : ∀ (stack : List Scalar) (field : Scalar) (target : String)
    (many : Bool), Approximates (ctx.embedAt depth stack field target many)
      (ctx.embedAt (depth + 1) stack field target many) := by
  induction depth with
  | zero => exact fun stack field target many => .bot _
  | succ depth ih =>
    intro stack field target many
    have hinner := ih (stack ++ [Scalar.text target])
    refine (Approximates.refl (ctx.normalForm (.text target))).bind fun node => ?_
    refine compileTarget_related sequential_approximates ?_ (fun _ => .refl _) _ field many node
    exact resolution_related sequential_approximates fun field target many _ =>
      hinner field target many

theorem embedAt_mono {depth depth' : Nat} (hle : depth ≤ depth') (stack : List Scalar)
    (field : Scalar) (target : String) (many : Bool) :
    Approximates (ctx.embedAt depth stack field target many)
      (ctx.embedAt depth' stack field target many) := by
  induction hle with
  | refl => exact .refl _
  | step _ ih => exact ih.trans (embedAt_grows _ stack field target many)

theorem resolution_unguarded (hguard : ctx.settings.detectCycles = false)
    (embed : Embed (Except Fault)) (stack stack' : List Scalar) :
    ctx.resolution embed stack = ctx.resolution embed stack' := by
  funext owner field target many
  simp only [resolution, isSelfReference, hguard, Bool.false_and]

theorem embedAt_unguarded (hguard : ctx.settings.detectCycles = false) (depth : Nat)
    (stack stack' : List Scalar) : ctx.embedAt depth stack = ctx.embedAt depth stack' := by
  induction depth generalizing stack stack' with
  | zero => rfl
  | succ depth ih =>
    funext field target many
    simp only [embedAt]
    rw [ih (stack ++ [Scalar.text target]) (stack' ++ [Scalar.text target]),
      resolution_unguarded hguard _ (stack ++ [Scalar.text target])
        (stack' ++ [Scalar.text target])]

theorem compileTarget_fault_many {lookup : Scalar → Except Fault Data}
    {resolve : Resolve (Except Fault)} {name field : Scalar} {many : Bool} {node : Data}
    {fault : Fault} (h : ctx.compileTarget lookup resolve name field many node = .error fault)
    (many' : Bool) : ctx.compileTarget lookup resolve name field many' node = .error fault := by
  unfold compileTarget at h ⊢
  cases hmembers : orMisuse node.members with
  | error other =>
    rw [hmembers] at h
    exact h
  | ok entries =>
    simp only [hmembers, ofExcept_eq, ok_bind] at h ⊢
    split
    · next hcontainer =>
      rw [if_pos hcontainer] at h
      split
      · next harray =>
        rw [if_pos harray] at h
        exact h
      · next harray =>
        rw [if_neg harray] at h
        rw [eq_error_of_map h]
        rfl
    · next hsimple =>
      rw [if_neg hsimple] at h
      rw [eq_error_of_map h]
      rfl

theorem embedAt_fault_many {depth : Nat} {field : Scalar} {target : String} {many : Bool}
    {fault : Fault} (h : ctx.embedAt depth stack field target many = .error fault)
    (many' : Bool) : ctx.embedAt depth stack field target many' = .error fault := by
  cases depth with
  | zero => exact h
  | succ depth =>
    simp only [embedAt] at h ⊢
    cases hnode : ctx.normalForm (.text target) with
    | error other =>
      rw [hnode] at h
      exact h
    | ok node =>
      rw [hnode] at h
      exact compileTarget_fault_many h many'

/-- A run that may follow at most `depth` more references in a row treats references as they are
meant with that many. -/
theorem resolve_embed_yields (henter : ctx.Enters allowed enter) (hallows : ctx.Allows allowed)
    (hstack : allowed stack) (depth : Nat) :
    ctx.Resolves (ctx.Follows (fun _ a b => a = b) stack) (ctx.resolve (ctx.embed enter depth))
      (ctx.resolution (ctx.embedAt depth stack) stack) :=
  resolve_yields fun owner field target many hself =>
    embed_yields henter hallows depth stack field target many
      (hallows stack owner target hstack hself)

theorem resolveInRun_yields (henter : ctx.Enters allowed enter) (hallows : ctx.Allows allowed)
    (hstack : allowed stack) :
    ctx.Resolves (ctx.Follows (fun _ a b => a = b) stack) (ctx.resolveInRun enter)
      (ctx.meaning stack) :=
  resolve_embed_yields henter hallows hstack ctx.referenceBound

theorem resolveWithin_yields (stack : List Scalar) (depth : Nat) :
    ctx.Resolves (ctx.Follows (fun _ a b => a = b) stack)
      (ctx.resolve (ctx.embed Compile.within depth))
      (ctx.resolution (ctx.embedAt depth stack) stack) :=
  resolve_embed_yields (enters_within _) allows_all trivial depth

/-- Compiling a property gives what its shape compiles to with the references as they are meant on
the stack. -/
theorem compileProperty_yields (stack : List Scalar) (property : Data) (field : Scalar)
    (required : Data) (owner : Scalar) :
    ctx.Yields stack (ctx.compileProperty property field required owner)
      (ctx.compilePropertyWith (ctx.meaning stack) property field required owner) :=
  compilePropertyWith_related (sequential_yields ctx stack)
    (resolveWithin_yields stack ctx.referenceBound) property field required owner

variable (ctx) in
/-- What the fields of a definition compile to at the top of a stack. -/
def fieldsMeaning (stack : List Scalar) (name : Scalar) : Except Fault Value := do
  let node ← ctx.normalForm name
  ctx.compileSetWith ctx.normalForm (ctx.meaning (stack ++ [name])) name node

theorem fieldsMeaning_map {name : Scalar} {entries : Entries Data}
    (hnode : ctx.normalForm name = .ok (.map entries)) (stack : List Scalar) :
    ctx.fieldsMeaning stack name = ctx.compileNode (ctx.meaning (stack ++ [name])) name
      (Shape.ofNode ctx.extensionKey entries) := by
  rw [fieldsMeaning, hnode, ok_bind, compileSetWith_map (isComposed_normalForm hnode)]

variable (ctx) in
/-- What a definition compiles to from inside a stack. -/
def definitionMeaning (stack : List Scalar) (name : Scalar) : Except Fault (Option Compiled) :=
  ctx.compileDefinitionWith (ctx.fieldsMeaning stack name) (ctx.meaning stack) name

/-- However definitions are entered, as long as the stacks are allowed ones: compiling a definition
gives what it means on the stack. -/
theorem compileDefinitionBy_yields (henter : ctx.Enters allowed enter)
    (hallows : ctx.Allows allowed) {name : Scalar} (hstack : allowed stack)
    (hname : allowed (stack ++ [name])) :
    ctx.Yields stack (ctx.compileDefinitionBy enter name) (ctx.definitionMeaning stack name) := by
  have hR := sequential_yields ctx stack
  refine compileDefinitionWith_related hR (resolveInRun_yields henter hallows hstack) ?_ name
  refine hR.step (definition_yields name) fun node => ?_
  -- The fields are read on the longer stack, and so are the references in them.
  apply henter _ _ _ _ hname
  exact compileSetWith_related (sequential_yields ctx _)
    (resolveInRun_yields henter hallows hname) definition_yields name node

/-- Compiling a definition gives what it means on the stack, and restores the stack. -/
theorem compileDefinition_yields (stack : List Scalar) (name : Scalar) :
    ctx.Yields stack (ctx.compileDefinition name) (ctx.definitionMeaning stack name) :=
  compileDefinitionBy_yields (enters_within _) allows_all trivial trivial

/-- Compiling a set of fields gives what its shape compiles to with the references as they are meant
on the stack. -/
theorem compileSet_yields (stack : List Scalar) (owner : Scalar) (node : Data) :
    ctx.Yields stack (ctx.compileSet owner node)
      (ctx.compileSetWith ctx.normalForm (ctx.meaning stack) owner node) :=
  compileSetWith_related (sequential_yields ctx stack)
    (resolveInRun_yields (enters_within _) allows_all trivial) definition_yields owner node

/-- Compiling every definition gives what they mean on no stack. -/
theorem compileAll_eq :
    ctx.compileAll =
      compileEach (ctx.definitionMeaning []) (Entries.keys ctx.definitions) := by
  have h := compileEach_related (sequential_yields ctx []) (compileDefinition_yields [])
    (Entries.keys ctx.definitions)
  exact (h {} rfl (remembers_start [])).1

theorem exists_of_mem_compileEach {compile : Scalar → Except Fault (Option Compiled)}
    {names : List Scalar} {compiled : List Compiled} (h : compileEach compile names = .ok compiled)
    {c : Compiled} (hc : c ∈ compiled) : ∃ name ∈ names, compile name = .ok (some c) := by
  induction names generalizing compiled with
  | nil =>
    cases h
    cases hc
  | cons name rest ih =>
    obtain ⟨first, hfirst, h⟩ := exists_of_bind_eq_ok h
    obtain ⟨more, hmore, h⟩ := exists_of_bind_eq_ok h
    cases h
    rcases List.mem_append.mp hc with hc | hc
    · rw [Option.mem_toList.mp hc] at hfirst
      exact ⟨name, List.mem_cons_self, hfirst⟩
    · obtain ⟨other, hmem, hother⟩ := ih hmore hc
      exact ⟨other, List.mem_cons_of_mem _ hmem, hother⟩

variable (ctx) in
/-- A compiled definition is put together from its own fields and its additional properties. -/
structure Assembles (stack : List Scalar) (c : Compiled) (fields : Value) (added : Entries Value) :
    Prop where
  included : ctx.extensions.isExcluded c.name = false
  own : ctx.fieldsMeaning stack c.name = .ok fields
  additional : ctx.compileAdditional (ctx.meaning stack) c.name
    (ctx.extensions.additionalFor c.name) = .ok added
  properties : c.properties = addFields fields added
  options : c.options = ctx.extensions.optionsFor c.name
  index : ctx.extensions.indexFor c.name = .ok c.index

/-- A definition that is compiled has the name that it is compiled for, and is put together from
what is gathered for it and from its fields. -/
theorem exists_of_definitionMeaning {name : Scalar} {c : Compiled}
    (h : ctx.definitionMeaning stack name = .ok (some c)) :
    c.name = name ∧ ∃ fields added, ctx.Assembles stack c fields added := by
  unfold definitionMeaning compileDefinitionWith at h
  split at h
  · cases h
  next hincluded =>
  obtain ⟨fields, hfields, h⟩ := exists_of_bind_eq_ok h
  obtain ⟨added, hadded, h⟩ := exists_of_bind_eq_ok h
  obtain ⟨index, hindex, h⟩ := exists_of_bind_eq_ok h
  rw [ofExcept_eq] at hindex
  cases h
  exact ⟨rfl, fields, added, Bool.eq_false_iff.mpr hincluded, hfields, hadded, rfl, rfl, hindex⟩

theorem definitionMeaning_of_fields {name : Scalar} {v : Value} {index : Option Index}
    (hincluded : ctx.extensions.isExcluded name = false)
    (hadditional : ctx.extensions.additionalFor name = [])
    (hindex : ctx.extensions.indexFor name = .ok index)
    (hfields : ctx.fieldsMeaning stack name = .ok v) :
    ctx.definitionMeaning stack name = .ok (some
      { name, properties := v, options := ctx.extensions.optionsFor name, index }) := by
  rw [definitionMeaning, compileDefinitionWith, hincluded, if_neg Bool.false_ne_true, hfields,
    hadditional, hindex]
  simp only [compileAdditional, ofExcept_eq]
  cases v <;> rfl

variable (ctx) in
theorem compileAll_of_fields {owns : List Value} (hblocks : ctx.extensions = {})
    (hfields : List.Forall₂ (fun name v => ctx.fieldsMeaning [] name = .ok v)
      (Entries.keys ctx.definitions) owns) :
    ctx.compileAll = .ok ((Entries.keys ctx.definitions).zipWith
      (fun name v => { name, properties := v, options := [], index := none }) owns) := by
  rw [compileAll_eq]
  generalize Entries.keys ctx.definitions = names at hfields
  induction hfields with
  | nil => rfl
  | cons hfirst _ ih =>
    have hmeaning := definitionMeaning_of_fields (by rw [hblocks]; rfl) (by rw [hblocks]; rfl)
      (by rw [hblocks]; rfl) hfirst
    rw [hblocks] at hmeaning
    rw [compileEach, hmeaning, ok_bind, ih]
    rfl

end Context

namespace Context

/-- What is remembered after compiling definitions one after another, whatever each of them ends
in. -/
def afterCalls (ctx : Context) : List Scalar → Progress → Progress
  | [], p => p
  | name :: rest, p => afterCalls ctx rest ((ctx.compileDefinition name).after p)

variable {ctx : Context}

/-- Calls keep the invariant of a run: the stack is restored and normal forms only are
remembered. -/
theorem afterCalls_invariant (names : List Scalar) {p : Progress} (hmem : ctx.Remembers p) :
    (ctx.afterCalls names p).resolving = p.resolving ∧ ctx.Remembers (ctx.afterCalls names p) := by
  induction names generalizing p with
  | nil => exact ⟨rfl, hmem⟩
  | cons name rest ih =>
    obtain ⟨-, hstack, hmem'⟩ := compileDefinition_yields p.resolving name p rfl hmem
    obtain ⟨hstack', hmem''⟩ := ih hmem'
    exact ⟨hstack'.trans hstack, hmem''⟩

/-- After any earlier calls a definition compiles to what it compiles to at the start of a run, and
the stack is afterwards what it was before the call. -/
theorem compileDefinition_after_calls (ctx : Context) (earlier : List Scalar) (name : Scalar) :
    (ctx.compileDefinition name).outcome (ctx.afterCalls earlier {}) =
        (ctx.compileDefinition name).outcome {} ∧
      ((ctx.compileDefinition name).after (ctx.afterCalls earlier {})).resolving =
        (ctx.afterCalls earlier {}).resolving := by
  have hstart : ctx.Remembers {} := remembers_start []
  obtain ⟨hstack, hmem⟩ := afterCalls_invariant earlier hstart
  -- Both runs give what the definition means on no stack, so that they agree.
  have hfresh := compileDefinition_yields [] name {} rfl hstart
  have hlater := compileDefinition_yields [] name (ctx.afterCalls earlier {}) hstack hmem
  constructor
  · exact hlater.1.trans hfresh.1.symm
  · exact hlater.2.1.trans hstack.symm

end Context

namespace Context

/-- Two contexts have the same extension key, reserved fields and facets, and make the same of each
extension block. -/
structure Alike (ctx ctx' : Context) : Prop where
  extensionKey : ctx.extensionKey = ctx'.extensionKey
  isReserved : ∀ field, ctx.isReserved field = ctx'.isReserved field
  override : ∀ extension base many,
    ctx.override extension base many = ctx'.override extension base many
  extensions : ctx.extensions = ctx'.extensions

namespace Alike

variable {ctx ctx' : Context} {m : Type → Type} [Monad m] [MonadExceptOf Fault m]
  {lookup : Scalar → m Data} {resolve : Resolve m}

mutual
theorem compileShape_eq (h : ctx.Alike ctx') (owner field : Scalar) (required : Data)
    (shape : Shape) :
    ctx.compileShape resolve owner field required shape =
      ctx'.compileShape resolve owner field required shape := by
  match shape with
  | .notMapping _ | .endless | .noFields | .malformed _ | .composed | .reference _ _
  | .typed _ _ => simp only [compileShape]
  | .override _ _ _ =>
    simp only [compileShape]
    rw [h.override]
  | .fields inner members =>
    simp only [compileShape]
    rw [compileMembers_eq h field inner members]
  | .withDefault shape _ =>
    simp only [compileShape]
    rw [compileShape_eq h owner field required shape]

theorem compileMembers_eq (h : ctx.Alike ctx') (owner : Scalar) (required : Data)
    (members : List (Scalar × Shape)) :
    ctx.compileMembers resolve owner required members =
      ctx'.compileMembers resolve owner required members := by
  match members with
  | [] => simp only [compileMembers]
  | (name, shape) :: rest =>
    simp only [compileMembers]
    rw [compileShape_eq h owner name required shape, compileMembers_eq h owner required rest,
      h.isReserved]
end

theorem compilePropertyWith_eq (h : ctx.Alike ctx') (property : Data) (field : Scalar)
    (required : Data) (owner : Scalar) :
    ctx.compilePropertyWith resolve property field required owner =
      ctx'.compilePropertyWith resolve property field required owner := by
  unfold compilePropertyWith
  rw [h.compileShape_eq, h.isReserved, h.extensionKey]

theorem compileNode_eq (h : ctx.Alike ctx') (owner : Scalar) (shape : Shape) :
    ctx.compileNode resolve owner shape = ctx'.compileNode resolve owner shape := by
  cases shape with
  | fields required members =>
    simp only [compileNode]
    rw [h.compileMembers_eq]
  | _ => rfl

theorem compileSetWith_eq (h : ctx.Alike ctx') (owner : Scalar) (node : Data) :
    ctx.compileSetWith lookup resolve owner node =
      ctx'.compileSetWith lookup resolve owner node := by
  unfold compileSetWith
  simp only [h.compileNode_eq, h.extensionKey]

theorem compileTarget_eq (h : ctx.Alike ctx') (name field : Scalar) (many : Bool) (node : Data) :
    ctx.compileTarget lookup resolve name field many node =
      ctx'.compileTarget lookup resolve name field many node := by
  unfold compileTarget
  simp only [h.compilePropertyWith_eq, h.compileSetWith_eq, h.extensionKey]

theorem compileAdditional_eq (h : ctx.Alike ctx') (name : Scalar) (properties : Entries Data) :
    ctx.compileAdditional resolve name properties =
      ctx'.compileAdditional resolve name properties := by
  induction properties with
  | nil => rfl
  | cons entry rest ih =>
    simp only [compileAdditional]
    rw [ih]
    simp only [h.compilePropertyWith_eq, h.extensionKey]

theorem compileDefinitionWith_eq (h : ctx.Alike ctx') (fields : m Value) (name : Scalar) :
    ctx.compileDefinitionWith fields resolve name =
      ctx'.compileDefinitionWith fields resolve name := by
  unfold compileDefinitionWith
  simp only [h.compileAdditional_eq, h.extensions]

section Meaning

variable (h : ctx.Alike ctx') (hforms : ctx.normalForm = ctx'.normalForm)
  (hrequire : ctx.requireDefinition = ctx'.requireDefinition)
  (hself : ctx.isSelfReference = ctx'.isSelfReference)

include hrequire hself in
private theorem resolution_eq (embed : Embed (Except Fault)) (stack : List Scalar) :
    ctx.resolution embed stack = ctx'.resolution embed stack := by
  funext owner field target many
  simp only [resolution, hrequire, hself]

include h hforms hrequire hself

private theorem embedAt_eq (depth : Nat) (stack : List Scalar) :
    ctx.embedAt depth stack = ctx'.embedAt depth stack := by
  induction depth generalizing stack with
  | zero => rfl
  | succ depth ih =>
    funext field target many
    simp only [embedAt, h.compileTarget_eq, hforms, resolution_eq hrequire hself, ih]

theorem definitionMeaning_eq (hbound : ctx.referenceBound = ctx'.referenceBound)
    (stack : List Scalar) (name : Scalar) :
    ctx.definitionMeaning stack name = ctx'.definitionMeaning stack name := by
  have hmeaning : ∀ stack, ctx.meaning stack = ctx'.meaning stack := by
    intro stack
    unfold meaning
    rw [h.embedAt_eq hforms hrequire hself, resolution_eq hrequire hself, hbound]
  simp only [definitionMeaning, fieldsMeaning, h.compileDefinitionWith_eq, h.compileSetWith_eq,
    hforms, hmeaning]

end Meaning

end Alike

end Context

end StoreSchema
