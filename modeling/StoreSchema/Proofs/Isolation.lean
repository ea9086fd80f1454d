import StoreSchema.Proofs.Meaning
import StoreSchema.Proofs.Registration
import StoreSchema.Proofs.Shapes

/-!
Sessions over a store in memory: documents compiled one after another.

A document changes nothing of a session but its store. Main statement of this module: after any
documents, each of which may fail, a document compiles to what it compiles to in a fresh session; if
it does not compile nothing changes, and if it does its models are registered, up to the first name
that is taken and may not be taken over.
-/

set_option autoImplicit false

namespace StoreSchema

namespace Session

open MemoryStore (modelOf)

/-- The store in memory that a session registers in: its own, or else the one that its settings ask
for. -/
def memory? (session : Session) : Option MemoryStore :=
  match session.store with
  | some (.memory store) => some store
  | some (.database _) => none
  | none =>
    match SchemaStore.ofSettings session.settings.store session.client with
    | .ok (.memory store) => some store
    | _ => none

def fresh (session : Session) : Session := { session with store := none }

def holding (session : Session) (store : MemoryStore) : Session :=
  { session with store := some (.memory store) }

def models (session : Session) : Entries Model :=
  match session.store with
  | some store => store.models
  | none => []

/-- The models that are registered once the store is connected. -/
def registry (session : Session) : Entries Model :=
  match session.memory? with
  | some store => store.ready.models
  | none => []

/-- A session after documents, each with its extension blocks from elsewhere, whatever each of them
ends in. -/
def afterCalls (session : Session) : List (Source × Source) → Session
  | [] => session
  | (source, extra) :: rest => afterCalls (session.compile source extra).2.2 rest

def results (session : Session) : List (Source × Source) → List CompilationResult
  | [] => []
  | (source, extra) :: rest =>
    (session.compile source extra).1.toOption.toList ++
      results (session.compile source extra).2.2 rest

/-- What compiling a document ends in and leaves, in a session over a store in memory. -/
inductive Call (session : Session) (store : MemoryStore) (source extra : Source) :
    Except Fault CompilationResult → Session → Prop
  /-- The document does not compile. -/
  | failed {fault : Fault}
      (hfault : (session.compileDefinitions source extra).outcome = .error fault) :
      Call session store source extra (.error fault) session
  /-- A definition compiles to what no schema can be made of. -/
  | unmade {compiled : List Compiled} {fault : Fault}
      (hcompiled : (session.compileDefinitions source extra).outcome = .ok compiled)
      (hschemas : schemasOf compiled = .error fault) :
      Call session store source extra (.error fault) (session.holding store.ready)
  /-- Every model is registered. -/
  | returned {compiled : List Compiled} {schemas : List (Scalar × Schema)}
      (hcompiled : (session.compileDefinitions source extra).outcome = .ok compiled)
      (hschemas : schemasOf compiled = .ok schemas)
      (hadmitted : store.settings.replaceModels = true ∨
        MemoryStore.Free store.ready.models schemas) :
      Call session store source extra (.ok ⟨schemas, schemas.map modelOf⟩)
        (session.holding { store.ready with
          models := Entries.overlay store.ready.models (schemas.map modelOf) })
  /-- The models before the first one whose name is taken are registered. -/
  | refused {compiled : List Compiled} {first rest : List (Scalar × Schema)}
      {taken : Scalar × Schema}
      (hcompiled : (session.compileDefinitions source extra).outcome = .ok compiled)
      (hschemas : schemasOf compiled = .ok (first ++ taken :: rest))
      (hkeep : store.settings.replaceModels = false)
      (hfree : MemoryStore.Free store.ready.models first)
      (htaken : Entries.has (store.ready.models ++ first.map modelOf) taken.1 = true) :
      Call session store source extra (.error (.modelRegistered taken.1))
        (session.holding { store.ready with
          models := store.ready.models ++ first.map modelOf })

variable {session : Session} {store : MemoryStore} {source extra : Source}

private theorem settings_ready (store : MemoryStore) : store.ready.settings = store.settings := by
  unfold MemoryStore.ready
  split <;> rfl

private theorem connected_ready (store : MemoryStore) : store.ready.connected = true := by
  unfold MemoryStore.ready
  split
  · next h => exact h
  · rfl

private theorem compile_handedOver (h : session.memory? = some store) {compiled : List Compiled}
    {warnings : List Warning}
    (hcompiled : (session.compileDefinitions source extra).run.run [] = (.ok compiled, warnings)) :
    session.compile source extra =
      let (outcome, log) := (handOver compiled).run.run { store := .memory store, warnings }
      (outcome, log.warnings, { session with store := some log.store }) := by
  unfold compile
  rw [hcompiled]
  unfold memory? at h
  dsimp only
  cases hstore : session.store with
  | some found =>
    rw [hstore] at h
    cases found with
    | memory own =>
      obtain rfl : own = store := Option.some.inj h
      rfl
    | database _ => cases h
  | none =>
    rw [hstore] at h
    dsimp only at h ⊢
    cases hsettings : SchemaStore.ofSettings session.settings.store session.client with
    | error fault =>
      rw [hsettings] at h
      cases h
    | ok found =>
      rw [hsettings] at h
      cases found with
      | memory own =>
        obtain rfl : own = store := Option.some.inj h
        rfl
      | database _ => cases h

theorem call_compile (h : session.memory? = some store) (source extra : Source) :
    session.Call store source extra (session.compile source extra).1
      (session.compile source extra).2.2 := by
  cases hrun : (session.compileDefinitions source extra).run.run [] with
  | mk outcome warnings =>
  have houtcome : (session.compileDefinitions source extra).outcome = outcome :=
    congrArg Prod.fst hrun
  cases outcome with
  | error fault =>
    have hcompile : session.compile source extra = (.error fault, warnings, session) := by
      unfold compile
      rw [hrun]
    rw [hcompile]
    exact .failed houtcome
  | ok compiled =>
    rw [compile_handedOver h hrun, handOver_run]
    cases hschemas : schemasOf compiled with
    | error fault => exact .unmade houtcome hschemas
    | ok schemas =>
      dsimp only
      rcases MemoryStore.free_or_taken store.ready.models schemas with
        hfree | ⟨first, taken, rest, rfl, hfree, htaken⟩
      · have hadmitted : store.ready.settings.replaceModels = true ∨
            MemoryStore.Free store.ready.models schemas := Or.inr hfree
        obtain ⟨given, hall⟩ := registerAll_admitted hadmitted warnings
        rw [hall]
        exact .returned houtcome hschemas (Or.inr hfree)
      · cases hreplace : store.settings.replaceModels with
        | true =>
          have hadmitted : store.ready.settings.replaceModels = true ∨
              MemoryStore.Free store.ready.models (first ++ taken :: rest) := by
            rw [settings_ready]
            exact Or.inl hreplace
          obtain ⟨given, hall⟩ := registerAll_admitted hadmitted warnings
          rw [hall]
          exact .returned houtcome hschemas (Or.inl hreplace)
        | false =>
          have hkeep : store.ready.settings.replaceModels = false := by
            rw [settings_ready]
            exact hreplace
          obtain ⟨given, hall⟩ := registerAll_refused hkeep hfree htaken warnings
          rw [hall]
          exact .refused houtcome hschemas hreplace hfree htaken

section Runs

theorem compile_fresh (session : Session) (source extra : Source) :
    (session.compile source extra).2.2.fresh = session.fresh := by
  unfold compile
  split
  · rfl
  · dsimp only
    split <;> rfl

theorem afterCalls_fresh (session : Session) (calls : List (Source × Source)) :
    (session.afterCalls calls).fresh = session.fresh := by
  induction calls generalizing session with
  | nil => rfl
  | cons call rest ih =>
    obtain ⟨source, extra⟩ := call
    rw [afterCalls, ih, compile_fresh]

/-- What a document compiles to does not depend on those before it. -/
theorem compileDefinitions_afterCalls (session : Session) (calls : List (Source × Source))
    (source extra : Source) :
    (session.afterCalls calls).compileDefinitions source extra =
      session.fresh.compileDefinitions source extra := by
  rw [← afterCalls_fresh session calls]
  rfl

private theorem ready_of_connected (h : store.connected = true) : store.ready = store := by
  rw [MemoryStore.ready, if_pos h]

private theorem memory?_holding (session : Session) (store : MemoryStore) :
    (session.holding store).memory? = some store := rfl

private theorem registry_of_memory? (h : session.memory? = some store) :
    session.registry = store.ready.models := by
  unfold registry
  rw [h]

private theorem registry_holding (h : store.connected = true) (session : Session) :
    (session.holding store).registry = store.models := by
  rw [registry_of_memory? (memory?_holding session store), ready_of_connected h]

variable {outcome : Except Fault CompilationResult} {after : Session}

private theorem Call.memory? (h : session.memory? = some store)
    (hcall : session.Call store source extra outcome after) :
    ∃ next : MemoryStore, after.memory? = some next ∧ next.settings = store.settings := by
  cases hcall with
  | failed _ => exact ⟨store, h, rfl⟩
  | unmade _ _ => exact ⟨_, memory?_holding _ _, settings_ready store⟩
  | returned _ _ _ => exact ⟨_, memory?_holding _ _, settings_ready store⟩
  | refused _ _ _ _ _ => exact ⟨_, memory?_holding _ _, settings_ready store⟩

private theorem Call.registry (h : session.memory? = some store)
    (hreplace : store.settings.replaceModels = true)
    (hcall : session.Call store source extra outcome after) :
    after.registry =
      Entries.overlay session.registry (outcome.toOption.toList.flatMap (·.models)) := by
  have hconnected := connected_ready store
  rw [registry_of_memory? h]
  cases hcall with
  | failed _ => exact registry_of_memory? h
  | unmade _ _ => exact registry_holding hconnected session
  | returned _ _ _ =>
    refine (registry_holding (by exact hconnected) session).trans ?_
    simp only [Except.toOption, Option.toList_some, List.flatMap_cons, List.flatMap_nil,
      List.append_nil]
  | refused _ _ hkeep _ _ =>
    rw [hreplace] at hkeep
    cases hkeep

private theorem memory?_afterCalls (h : session.memory? = some store)
    (calls : List (Source × Source)) :
    ∃ next : MemoryStore, (session.afterCalls calls).memory? = some next ∧
      next.settings = store.settings := by
  induction calls generalizing session store with
  | nil => exact ⟨store, h, rfl⟩
  | cons call rest ih =>
    obtain ⟨source, extra⟩ := call
    obtain ⟨next, hnext, hsettings⟩ := (call_compile h source extra).memory? h
    obtain ⟨last, hlast, hkept⟩ := ih hnext
    exact ⟨last, hlast, hkept.trans hsettings⟩

/-- Where models may be taken over, those of all documents are laid on one another in order. -/
theorem registry_afterCalls (h : session.memory? = some store)
    (hreplace : store.settings.replaceModels = true) (calls : List (Source × Source)) :
    (session.afterCalls calls).registry =
      Entries.overlay session.registry ((session.results calls).flatMap (·.models)) := by
  induction calls generalizing session store with
  | nil => rfl
  | cons call rest ih =>
    obtain ⟨source, extra⟩ := call
    have hcall := call_compile h source extra
    obtain ⟨next, hnext, hsettings⟩ := hcall.memory? h
    have hreplace' : next.settings.replaceModels = true := by
      rw [hsettings]
      exact hreplace
    rw [afterCalls, ih hnext hreplace', hcall.registry h hreplace, results, List.flatMap_append,
      Entries.overlay_append]

private theorem afterCalls_append (session : Session) (calls : List (Source × Source))
    (source extra : Source) :
    session.afterCalls (calls ++ [(source, extra)]) =
      ((session.afterCalls calls).compile source extra).2.2 := by
  induction calls generalizing session with
  | nil => rfl
  | cons call rest ih =>
    obtain ⟨first, firstExtra⟩ := call
    rw [List.cons_append, afterCalls, afterCalls, ih]

private theorem compile_of_error {fault : Fault}
    (h : (session.compileDefinitions source extra).outcome = .error fault) :
    (session.compile source extra).1 = .error fault ∧
      (session.compile source extra).2.2 = session := by
  cases hrun : (session.compileDefinitions source extra).run.run [] with
  | mk outcome warnings =>
  obtain rfl : outcome = .error fault := (congrArg Prod.fst hrun).symm.trans h
  unfold compile
  rw [hrun]
  exact ⟨rfl, rfl⟩

private theorem Call.of_ok {result : CompilationResult}
    (hcall : session.Call store source extra (.ok result) after) :
    (∃ compiled, (session.compileDefinitions source extra).outcome = .ok compiled ∧
      List.Forall₂ IsSchemaOf compiled result.schemas ∧
      result.models = result.schemas.map modelOf) ∧
    after.models = after.registry := by
  cases hcall with
  | returned hcompiled hschemas hadmitted =>
    refine ⟨⟨_, hcompiled, forall₂_schemasOf hschemas, rfl⟩, ?_⟩
    exact (registry_holding (by exact connected_ready store) session).symm

variable {compiled : List Compiled} (hcall : session.Call store source extra outcome after)
  (hcompiled : (session.compileDefinitions source extra).outcome = .ok compiled)
include hcall hcompiled

private theorem Call.of_schemas_error {fault : Fault}
    (hschemas : schemasOf compiled = .error fault) :
    outcome = .error fault ∧ after.models = store.ready.models := by
  cases hcall with
  | failed hfault =>
    rw [hcompiled] at hfault
    cases hfault
  | unmade hown hfault =>
    obtain rfl := Except.ok.inj (hcompiled.symm.trans hown)
    obtain rfl := Except.error.inj (hschemas.symm.trans hfault)
    exact ⟨rfl, rfl⟩
  | returned hown hmade _ =>
    obtain rfl := Except.ok.inj (hcompiled.symm.trans hown)
    rw [hschemas] at hmade
    cases hmade
  | refused hown hmade _ _ _ =>
    obtain rfl := Except.ok.inj (hcompiled.symm.trans hown)
    rw [hschemas] at hmade
    cases hmade

private theorem Call.of_clash {schemas : List (Scalar × Schema)}
    (hschemas : schemasOf compiled = .ok schemas) (hkeep : store.settings.replaceModels = false)
    {c : Compiled} (hc : c ∈ compiled) (hhas : Entries.has store.ready.models c.name = true) :
    ∃ first taken rest, schemas = first ++ taken :: rest ∧
      MemoryStore.Free store.ready.models first ∧
      Entries.has (store.ready.models ++ first.map modelOf) taken.1 = true ∧
      outcome = .error (.modelRegistered taken.1) ∧
      after.models = store.ready.models ++ first.map modelOf := by
  cases hcall with
  | failed hfault =>
    rw [hcompiled] at hfault
    cases hfault
  | unmade hown hfault =>
    obtain rfl := Except.ok.inj (hcompiled.symm.trans hown)
    rw [hschemas] at hfault
    cases hfault
  | returned hown hmade hadmitted =>
    obtain rfl := Except.ok.inj (hcompiled.symm.trans hown)
    obtain rfl := Except.ok.inj (hschemas.symm.trans hmade)
    have hname : c.name ∈ Entries.keys schemas := by
      rw [← names_of_forall₂ (forall₂_schemasOf hschemas)]
      exact List.mem_map_of_mem hc
    obtain ⟨e, he, hkey⟩ := List.mem_map.mp hname
    rcases hadmitted with hreplace | hfree
    · rw [hkeep] at hreplace
      cases hreplace
    · -- a schema under a name that is taken is not free
      have habsent := hfree.absent e he
      rw [hkey, hhas] at habsent
      cases habsent
  | refused hown hmade _ hfree htaken =>
    obtain rfl := Except.ok.inj (hcompiled.symm.trans hown)
    obtain rfl := Except.ok.inj (hschemas.symm.trans hmade)
    exact ⟨_, _, _, rfl, hfree, htaken, rfl, rfl⟩

end Runs

/-- What a document does in a session over a store in memory, after other documents each of which
may have failed. -/
structure Isolated (session : Session) (store : MemoryStore) (calls : List (Source × Source))
    (source extra : Source) : Prop where
  /-- It compiles, or fails to, as it does in a fresh session. -/
  compiles : (session.afterCalls calls).compileDefinitions source extra =
    session.fresh.compileDefinitions source extra
  /-- If it does not compile nothing changes. -/
  failed : ∀ fault, (session.fresh.compileDefinitions source extra).outcome = .error fault →
    ((session.afterCalls calls).compile source extra).1 = .error fault ∧
      session.afterCalls (calls ++ [(source, extra)]) = session.afterCalls calls
  /-- If there is a result it has the schemas and models of what is compiled, in order. -/
  returned : ∀ result, ((session.afterCalls calls).compile source extra).1 = .ok result →
    ∃ compiled, (session.fresh.compileDefinitions source extra).outcome = .ok compiled ∧
      List.Forall₂ IsSchemaOf compiled result.schemas ∧
      result.models = result.schemas.map modelOf
  /-- Where models may be taken over, that of a name is afterwards the last one there was a result
  with, and names are in the order in which they were first registered. -/
  replaced : store.settings.replaceModels = true →
    ∀ result, ((session.afterCalls calls).compile source extra).1 = .ok result →
    let all := (session.results (calls ++ [(source, extra)])).flatMap (·.models)
    let registered := (session.afterCalls (calls ++ [(source, extra)])).models
    (∀ name, Entries.get? registered name =
      (Entries.get? all.reverse name).or (Entries.get? session.registry name)) ∧
    Entries.keys registered = Entries.keys session.registry ++
      ((Entries.keys all).filter fun name =>
        !(Entries.keys session.registry).any (·.same name)).eraseDupsBy Scalar.same
  /-- If a compiled definition makes no schema, nothing is registered. -/
  unmade : ∀ compiled fault,
    (session.fresh.compileDefinitions source extra).outcome = .ok compiled →
    schemasOf compiled = .error fault →
    (∃ faults, fault = .invalidFields faults) ∧
      ((session.afterCalls calls).compile source extra).1 = .error fault ∧
      (session.afterCalls (calls ++ [(source, extra)])).models =
        (session.afterCalls calls).registry
  /-- Where models may not be taken over, a document with a name that is taken registers what comes
  before the first such name, after the models that are there. -/
  refused : store.settings.replaceModels = false → ∀ compiled schemas,
    (session.fresh.compileDefinitions source extra).outcome = .ok compiled →
    schemasOf compiled = .ok schemas →
    (∃ c ∈ compiled, Entries.has (session.afterCalls calls).registry c.name = true) →
    ∃ first taken rest, schemas = first ++ taken :: rest ∧
      MemoryStore.Free (session.afterCalls calls).registry first ∧
      Entries.has ((session.afterCalls calls).registry ++ first.map modelOf) taken.1 = true ∧
      ((session.afterCalls calls).compile source extra).1 = .error (.modelRegistered taken.1) ∧
      (session.afterCalls (calls ++ [(source, extra)])).models =
        (session.afterCalls calls).registry ++ first.map modelOf

/-- Documents are isolated from one another, and what each registers is determined by what it
compiles to and by the names that are registered before. -/
theorem compile_isolated {session : Session} {store : MemoryStore}
    (h : session.memory? = some store) (calls : List (Source × Source)) (source extra : Source) :
    session.Isolated store calls source extra := by
  have hcompiles := compileDefinitions_afterCalls session calls source extra
  obtain ⟨own, hown, hsettings⟩ := memory?_afterCalls h calls
  have hcall := call_compile hown source extra
  have hlast := afterCalls_append session calls source extra
  have hregistry := registry_of_memory? hown
  rw [← hlast] at hcall
  refine ⟨hcompiles, ?failed, ?returned, ?replaced, ?unmade, ?refused⟩
  case failed =>
    intro fault hfault
    rw [← hcompiles] at hfault
    rw [hlast]
    exact compile_of_error hfault
  case returned =>
    intro result hresult
    rw [hresult] at hcall
    rw [← hcompiles]
    exact hcall.of_ok.1
  case replaced =>
    intro hreplace result hresult
    rw [hresult] at hcall
    dsimp only
    rw [hcall.of_ok.2, registry_afterCalls h hreplace]
    constructor
    · intro name
      exact Entries.get?_overlay _ _ name
    · rw [Entries.keys_overlay]
      exact Composition.Gathered.foldl_addRequired _ _
  case unmade =>
    intro compiled fault hcompiled hschemas
    rw [← hcompiles] at hcompiled
    rw [hregistry]
    exact ⟨invalidFields_of_schemasOf hschemas, hcall.of_schemas_error hcompiled hschemas⟩
  case refused =>
    intro hkeep compiled schemas hcompiled hschemas hclash
    rw [← hcompiles] at hcompiled
    rw [← hsettings] at hkeep
    rw [hregistry] at hclash ⊢
    obtain ⟨c, hc, hhas⟩ := hclash
    exact hcall.of_clash hcompiled hschemas hkeep hc hhas

section Ledger
variable {stated : Entries Data}

/-- A document with one definition, and what is stated of it beside its type. -/
def ledger (stated : Entries Data) : Source :=
  .data (.map [(.text "definitions",
    .map [(.text "Account", .map ((.text "type", .text "string") :: stated))])])

def numbered : Entries Data :=
  [(.text "_mongoose", .map [(.text "schema-options",
    .list [.list [.scalar (.int 1), .scalar (.int 2)]])])]

/-- A session in which models are not taken over. -/
def keeping : Session where
  settings := { store := { memory := { replaceModels := false } } }

def account (options : Entries Data) : Compiled where
  name := .text "Account"
  properties := .map [(.text "type", .type .text)]
  options := options
  index := none

private theorem fieldsMeaning_account {ctx : Context} (hkey : ctx.extensionKey = "_mongoose")
    (hstated : stated = [] ∨ stated = numbered)
    (hnode : ctx.normalForm (.text "Account") =
      .ok (.map ((.text "type", .text "string") :: stated))) :
    ctx.fieldsMeaning [] (.text "Account") = .ok (account []).properties := by
  have htype : FieldType.ofEntries ((.text "type", .text "string") :: stated) =
      .ok (.scalar .text) := by
    rw [FieldType.ofEntries]
    rfl
  rw [Context.fieldsMeaning_map hnode, hkey]
  rcases hstated with rfl | rfl
  all_goals
    rw [Shape.ofNode_of_typed "_mongoose" rfl rfl rfl, htype]
    rfl

private theorem compileDefinitions_ledger {ctx : Context} {options : Entries Data}
    (hctx : keeping.contextOf (ledger stated) .absent = .ok ctx)
    (hkeys : Entries.keys ctx.definitions = [.text "Account"])
    (hfields : ctx.fieldsMeaning [] (.text "Account") = .ok (account []).properties)
    (hexcluded : ctx.extensions.isExcluded (.text "Account") = false)
    (hadditional : ctx.extensions.additionalFor (.text "Account") = [])
    (hindex : ctx.extensions.indexFor (.text "Account") = .ok none)
    (hoptions : ctx.extensions.optionsFor (.text "Account") = options) :
    (keeping.compileDefinitions (ledger stated) .absent).outcome = .ok [account options] := by
  have hmeaning := Context.definitionMeaning_of_fields hexcluded hadditional hindex hfields
  rw [Session.outcome_compileDefinitions hctx, Context.compileAll_eq, hkeys, Context.compileEach,
    hmeaning, hoptions]
  rfl

private theorem compileDefinitions_plain :
    (keeping.compileDefinitions (ledger []) .absent).outcome = .ok [account []] :=
  compileDefinitions_ledger rfl rfl (fieldsMeaning_account rfl (Or.inl rfl) rfl) rfl rfl rfl rfl

private theorem compileDefinitions_numbered :
    (keeping.compileDefinitions (ledger numbered) .absent).outcome =
      .ok [account [(.int 1, .scalar (.int 2))]] :=
  compileDefinitions_ledger rfl rfl (fieldsMeaning_account rfl (Or.inr rfl) rfl) rfl rfl rfl rfl

private theorem memory?_keeping :
    keeping.memory? = some { settings := { replaceModels := false } } := rfl

private theorem has_registry_ledger :
    Entries.has (keeping.afterCalls [(ledger [], .absent)]).registry (.text "Account") = true := by
  have hrun : (keeping.compileDefinitions (ledger []) .absent).run.run [] =
      (.ok [account []], ((keeping.compileDefinitions (ledger []) .absent).run.run []).2) :=
    Prod.ext compileDefinitions_plain rfl
  rw [afterCalls, afterCalls, compile_handedOver memory?_keeping hrun, handOver_run]
  rfl

/-- When the account is compiled again it is refused. -/
theorem ledger_isolated :
    keeping.memory? = some { settings := { replaceModels := false } } ∧
      ((keeping.afterCalls [(ledger [], .absent)]).compile (ledger []) .absent).1 =
        .error (.modelRegistered (.text "Account")) := by
  have hisolated : keeping.Isolated _ [(ledger [], .absent)] (ledger []) .absent :=
    compile_isolated memory?_keeping _ _ _
  obtain ⟨first, taken, rest, hsplit, -, -, houtcome, -⟩ :=
    hisolated.refused rfl [account []] _ compileDefinitions_plain rfl
      ⟨_, List.mem_cons_self, has_registry_ledger⟩
  have htaken : taken.1 = .text "Account" := by
    cases first with
    | nil =>
      cases hsplit
      rfl
    | cons _ _ => simp at hsplit
  rw [htaken] at houtcome
  exact ⟨memory?_keeping, houtcome⟩

/-- An account whose name is taken and of which no schema can be made is not refused for its
name. -/
theorem numbered_unmade :
    (∃ compiled, (keeping.fresh.compileDefinitions (ledger numbered) .absent).outcome =
        .ok compiled ∧
      ∃ c ∈ compiled,
        Entries.has (keeping.afterCalls [(ledger [], .absent)]).registry c.name = true) ∧
    ∀ name, ((keeping.afterCalls [(ledger [], .absent)]).compile (ledger numbered) .absent).1 ≠
      .error (.modelRegistered name) := by
  refine ⟨⟨_, compileDefinitions_numbered, _, List.mem_cons_self, has_registry_ledger⟩, ?_⟩
  intro name houtcome
  obtain ⟨store, hstore, -⟩ := memory?_afterCalls memory?_keeping [(ledger [], .absent)]
  have hcall := call_compile hstore (ledger numbered) .absent
  have hcompiled : ((keeping.afterCalls [(ledger [], .absent)]).compileDefinitions
      (ledger numbered) .absent).outcome = .ok [account [(.int 1, .scalar (.int 2))]] := by
    rw [compileDefinitions_afterCalls]
    exact compileDefinitions_numbered
  have hfault := (hcall.of_schemas_error hcompiled rfl).1
  rw [houtcome] at hfault
  cases hfault

end Ledger
end Session

end StoreSchema
