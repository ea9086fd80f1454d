import StoreSchema.Proofs.Keys
import StoreSchema.Proofs.Outcome
import StoreSchema.Store.Basic

/-!
Runs of a database store that borrows its client.

A store is connected and disconnected, schemas are made and given indexes, and models are
registered, in any order; any call of the client may fail. Main statement of this module: after
whatever run, the store is connected if a connection that succeeded was not followed by a
disconnection, and what a registration ends in, which calls it makes in which order and what it
leaves registered is told by those calls and their answers.
-/

set_option autoImplicit false

namespace StoreSchema

namespace DatabaseClient

variable {client : DatabaseClient} {earlier issued : List DatabaseCall} {reason : String}

/-- All calls of a row are answered, made after earlier ones. -/
def Answers (client : DatabaseClient) (earlier : List DatabaseCall) : List DatabaseCall → Prop
  | [] => True
  | request :: rest =>
    (∃ names, client.answer earlier request = .ok names) ∧
      client.Answers (earlier ++ [request]) rest

def Fails (client : DatabaseClient) (earlier issued : List DatabaseCall) : Prop :=
  ∃ done request rest reason, issued = done ++ request :: rest ∧
    client.answer (earlier ++ done) request = .error reason

/-- The last call of a row fails, for a reason, and all before it are answered. -/
def FailsLast (client : DatabaseClient) (earlier issued : List DatabaseCall) (reason : String) :
    Prop :=
  ∃ done request, issued = done ++ [request] ∧ client.Answers earlier done ∧
    client.answer (earlier ++ done) request = .error reason

theorem answers_append {more : List DatabaseCall} : client.Answers earlier (issued ++ more) ↔
    client.Answers earlier issued ∧ client.Answers (earlier ++ issued) more := by
  induction issued generalizing earlier with
  | nil => simp [Answers]
  | cons request rest ih =>
    rw [List.cons_append, Answers, Answers, ih, and_assoc, List.append_assoc]
    rfl

theorem Answers.not_fails (h : client.Answers earlier issued) : ¬ client.Fails earlier issued := by
  rintro ⟨done, request, rest, reason, rfl, hfault⟩
  obtain ⟨-, ⟨names, hanswer⟩, -⟩ := answers_append.mp h
  rw [hanswer] at hfault
  cases hfault

theorem FailsLast.append {more : List DatabaseCall} (h : client.Answers earlier issued)
    (hlast : client.FailsLast (earlier ++ issued) more reason) :
    client.FailsLast earlier (issued ++ more) reason := by
  obtain ⟨done, request, rfl, hdone, hfault⟩ := hlast
  refine ⟨issued ++ done, request, (List.append_assoc ..).symm, answers_append.mpr ⟨h, hdone⟩, ?_⟩
  rwa [← List.append_assoc]

end DatabaseClient

namespace DatabaseStore

open Text.LowerCase

variable {α β : Type} {s : DatabaseStore}

theorem run_bind (step : Step α) (next : α → Step β) (s : DatabaseStore) :
    (step >>= next).run.run s =
      match step.run.run s with
      | (.ok v, after) => (next v).run.run after
      | (.error fault, after) => (.error fault, after) := by
  refine (run_run_bind step next s).trans ?_
  rcases step.run.run s with ⟨a, after⟩
  cases a <;> rfl

def issuing (s : DatabaseStore) (issued : List DatabaseCall) : DatabaseStore :=
  { s with calls := s.calls ++ issued }

theorem issuing_nil (s : DatabaseStore) : s.issuing [] = s := by
  rw [issuing, List.append_nil]

theorem issuing_issuing (s : DatabaseStore) (issued more : List DatabaseCall) :
    (s.issuing issued).issuing more = s.issuing (issued ++ more) := by
  simp only [issuing, List.append_assoc]

theorem run_call (request : DatabaseCall) (s : DatabaseStore) :
    (call request).run.run s = match s.client.answer s.calls request with
      | .ok names => (.ok names, s.issuing [request])
      | .error reason => (.error (.clientFailed reason), s.issuing [request]) := by
  have hrun : (call request).run.run s = (match s.client.answer s.calls request with
      | .ok names => pure names
      | .error reason => throw (.clientFailed reason) : Step (List Value)).run.run
        (s.issuing [request]) := rfl
  rw [hrun]
  cases s.client.answer s.calls request <;> rfl

theorem run_reporting (fault : String → Fault) (step : Step α) (s : DatabaseStore) :
    (reporting fault step).run.run s =
      match step.run.run s with
      | (.error (.clientFailed reason), after) => (.error (fault reason), after)
      | outcome => outcome := by
  simp only [reporting, tryCatch, tryCatchThe, MonadExceptOf.tryCatch, ExceptT.tryCatch,
    ExceptT.run, ExceptT.mk, bind, StateT.bind, StateT.run]
  rcases step s with ⟨outcome, after⟩
  cases outcome with
  | ok v => rfl
  | error f => cases f <;> rfl

section Issued

/-- What a step that makes calls, and does nothing else, can end in: all calls are answered, or the
last one fails. -/
inductive Issued (s : DatabaseStore) (gives : List DatabaseCall → α → Prop) :
    Except Fault α × DatabaseStore → Prop
  | answered {issued : List DatabaseCall} {v : α} (hall : s.client.Answers s.calls issued)
      (hgives : gives issued v) : Issued s gives (.ok v, s.issuing issued)
  | failed {issued : List DatabaseCall} {reason : String}
      (hlast : s.client.FailsLast s.calls issued reason) :
      Issued s gives (.error (.clientFailed reason), s.issuing issued)

theorem issued_pure {gives : List DatabaseCall → α → Prop} {v : α} (h : gives [] v) :
    Issued s gives ((pure v : Step α).run.run s) := by
  have hrun : (pure v : Step α).run.run s = (.ok v, s.issuing []) := by
    rw [issuing_nil]
    rfl
  rw [hrun]
  exact .answered trivial h

theorem issued_call (request : DatabaseCall) :
    Issued s (fun issued names => issued = [request] ∧
      s.client.answer s.calls request = .ok names) ((call request).run.run s) := by
  rw [run_call]
  cases hanswer : s.client.answer s.calls request with
  | ok names => exact .answered ⟨⟨names, hanswer⟩, trivial⟩ ⟨rfl, rfl⟩
  | error reason => exact .failed ⟨[], request, rfl, trivial, by rwa [List.append_nil]⟩

theorem Issued.bind {step : Step α} {next : α → Step β} {first : List DatabaseCall → α → Prop}
    {gives : List DatabaseCall → β → Prop} (h : Issued s first (step.run.run s))
    (hnext : ∀ issued v, first issued v → Issued (s.issuing issued)
      (fun more w => gives (issued ++ more) w) ((next v).run.run (s.issuing issued))) :
    Issued s gives ((step >>= next).run.run s) := by
  rw [run_bind]
  generalize step.run.run s = result at h
  cases h with
  | failed hlast => exact .failed hlast
  | @answered issued v hall hgives =>
    dsimp only
    have hmore := hnext issued v hgives
    generalize (next v).run.run (s.issuing issued) = result at hmore
    cases hmore with
    | answered hrest hmore =>
      rw [issuing_issuing]
      exact .answered (DatabaseClient.answers_append.mpr ⟨hall, hrest⟩) hmore
    | failed hlast =>
      rw [issuing_issuing]
      exact .failed (.append hall hlast)

theorem Issued.mono {gives gives' : List DatabaseCall → α → Prop}
    {result : Except Fault α × DatabaseStore} (h : Issued s gives result)
    (himp : ∀ issued v, gives issued v → gives' issued v) : Issued s gives' result := by
  cases h with
  | answered hall hgives => exact .answered hall (himp _ _ hgives)
  | failed hlast => exact .failed hlast

def validatorOf (schema : Schema) : Value :=
  .map [(.text "$jsonSchema", (CollectionRule.ofFields schema.definition).toValue)]

/-- The call that installs the validator of a schema: a collection that is listed is changed, and
any other is created. -/
def installation (collection : Value) (schema : Schema) (listed : List Value) : DatabaseCall :=
  if listed.any (·.same collection) then .changeValidator collection (validatorOf schema)
  else .createCollection collection (validatorOf schema)

/-- A word has the letters of another one, in any case. -/
def Spells (word known : String) : Prop :=
  word.toList.map Char.toLower = known.toList

/-- The direction that a field of an index is given: a word for one or the other way, or any other
value as it stands. -/
inductive Directs : Value → Value → Prop
  | up {word : String} (hword : Spells word "asc" ∨ Spells word "ascending") :
      Directs (.text word) (.scalar (.int 1))
  | down {word : String} (hword : Spells word "desc" ∨ Spells word "descending") :
      Directs (.text word) (.scalar (.int (-1)))
  | other {v : Value} (hword : ∀ word, v = .text word →
      ∀ known ∈ ["asc", "ascending", "desc", "descending"], ¬ Spells word known) : Directs v v

/-- The call creates an index of a collection: its fields in order, each with its direction. -/
inductive CreatesIndex (collection : Value) (index : Index) : DatabaseCall → Prop
  | keyed {keys : List (Scalar × Value)}
      (hkeys : List.Forall₂ (fun field key => key.1 = field.1 ∧ Directs field.2 key.2)
        index.fields keys) :
      CreatesIndex collection index (.createIndex collection keys index.unique)

private theorem arePlain_of_mem_directions {known : String} {n : Int}
    (h : (known, n) ∈ directions) : ArePlain known.toList := by
  have hall : ∀ d ∈ directions, ArePlain d.1.toList := by decide
  exact hall _ h

private theorem exists_mem_directions {known : String}
    (h : known ∈ ["asc", "ascending", "desc", "descending"]) : ∃ n, (known, n) ∈ directions := by
  have hnames : directions.map Prod.fst = ["asc", "ascending", "desc", "descending"] := rfl
  rw [← hnames, List.mem_map] at h
  obtain ⟨⟨_, n⟩, hmem, rfl⟩ := h
  exact ⟨n, hmem⟩

theorem directs_direction (v : Value) : Directs v (direction v) := by
  unfold direction
  split
  · next word =>
    split
    · next n hn =>
      obtain ⟨front, rest, hsplit, -⟩ := List.lookup_eq_some_iff.mp hn
      have hmem : (lower word, n) ∈ directions :=
        hsplit ▸ List.mem_append_right _ List.mem_cons_self
      have hspells : Spells word (lower word) :=
        (lower_eq_iff (arePlain_of_mem_directions hmem) word).mp rfl
      simp only [directions, List.mem_cons, Prod.mk.injEq, List.not_mem_nil, or_false] at hmem
      obtain ⟨h, rfl⟩ | ⟨h, rfl⟩ | ⟨h, rfl⟩ | ⟨h, rfl⟩ := hmem <;> rw [h] at hspells
      · exact .up (.inl hspells)
      · exact .up (.inr hspells)
      · exact .down (.inl hspells)
      · exact .down (.inr hspells)
    · next hnone =>
      refine .other fun own hown known hknown hspells => ?_
      cases hown
      obtain ⟨n, hmem⟩ := exists_mem_directions hknown
      have hlower : lower word = known :=
        (lower_eq_iff (arePlain_of_mem_directions hmem) word).mpr hspells
      have hne := List.lookup_eq_none_iff.mp hnone _ hmem
      exact absurd hlower (ne_of_beq_false (by simpa using hne))
  · next hword => exact .other fun word h => absurd h (hword word)

theorem createsIndex_indexKeys (collection : Value) (index : Index) :
    CreatesIndex collection index (.createIndex collection (indexKeys index) index.unique) :=
  .keyed (List.forall₂_map_right_iff.mpr
    (List.forall₂_same.mpr fun field _ => ⟨rfl, directs_direction field.2⟩))

theorem issued_installValidator (collection : Value) (schema : Schema) :
    Issued s (fun issued _ => ∃ listed, s.client.answer s.calls .listCollections = .ok listed ∧
      issued = [.listCollections, installation collection schema listed])
      ((installValidator collection schema).run.run s) := by
  refine (issued_call _).bind fun issued listed hlisted => ?_
  obtain ⟨rfl, hlisted⟩ := hlisted
  refine (issued_call _).bind fun more names hmore => ?_
  obtain ⟨rfl, -⟩ := hmore
  exact issued_pure ⟨listed, hlisted, rfl⟩

theorem issued_createIndexes (collection : Value) (indexes : List Index) :
    Issued s (fun issued _ => List.Forall₂ (CreatesIndex collection) indexes issued)
      ((createIndexes collection indexes).run.run s) := by
  induction indexes generalizing s with
  | nil => exact issued_pure .nil
  | cons index rest ih =>
    refine (issued_call _).bind fun issued names hissued => ?_
    obtain ⟨rfl, -⟩ := hissued
    exact ih.mono fun more _ hmore => .cons (createsIndex_indexKeys collection index) hmore

/-- The calls of a registration in which none fails: the validator is installed if that is asked
for, and then the indexes are created in order if that is. -/
def Registering (s : DatabaseStore) (collection : Value) (schema : Schema)
    (issued : List DatabaseCall) : Prop :=
  ∃ listed created,
    (s.settings.applyValidation = true → s.client.answer s.calls .listCollections = .ok listed) ∧
    List.Forall₂ (CreatesIndex collection)
      (if s.settings.createIndexes then schema.indexes else []) created ∧
    issued =
      (if s.settings.applyValidation then
        [.listCollections, installation collection schema listed] else []) ++
      .collection collection :: created

/-- What registering a schema under a name can end in. -/
inductive Registration (s : DatabaseStore) (name : Data) (schema : Schema) :
    Except Fault Model × DatabaseStore → Prop
  | unconnected (h : s.isConnected = false) :
      Registration s name schema (.error .notConnected, s)
  | failed {issued : List DatabaseCall} {reason : String} (hconnected : s.isConnected = true)
      (hlast : s.client.FailsLast s.calls issued reason) :
      Registration s name schema
        (.error (.registrationFailed name reason (collectionOf name schema).toData),
          s.issuing issued)
  | unnamed {issued : List DatabaseCall} {misuse : Misuse} (hconnected : s.isConnected = true)
      (hall : s.client.Answers s.calls issued) (hname : name.key = .error misuse) :
      Registration s name schema (.error (.misuse misuse), s.issuing issued)
  | registered {issued : List DatabaseCall} {key : Scalar} (hconnected : s.isConnected = true)
      (hall : s.client.Answers s.calls issued)
      (hissued : s.Registering (collectionOf name schema) schema issued)
      (hname : name.key = .ok key) :
      Registration s name schema (.ok ⟨key, schema, some (collectionOf name schema)⟩,
        { s.issuing issued with
          models := Entries.put s.models key ⟨key, schema, some (collectionOf name schema)⟩ })

def prepare (settings : DatabaseSettings) (collection : Value) (schema : Schema) : Step Unit := do
  if settings.applyValidation then installValidator collection schema
  let _ ← call (.collection collection)
  if settings.createIndexes then createIndexes collection schema.indexes

theorem issued_prepare (collection : Value) (schema : Schema) :
    Issued s (fun issued _ => s.Registering collection schema issued)
      ((prepare s.settings collection schema).run.run s) := by
  have hindexes : ∀ listed first, (s.settings.applyValidation = true →
        s.client.answer s.calls .listCollections = .ok listed) →
      first = (if s.settings.applyValidation then
        [.listCollections, installation collection schema listed] else []) →
      Issued (s.issuing first) (fun more _ => s.Registering collection schema (first ++ more))
        ((do
          let _ ← call (.collection collection)
          if s.settings.createIndexes then createIndexes collection schema.indexes :
            Step Unit).run.run (s.issuing first)) := by
    intro listed first hlisted hfirst
    refine (issued_call _).bind fun issued names hissued => ?_
    obtain ⟨rfl, -⟩ := hissued
    have hregistering : ∀ more, List.Forall₂ (CreatesIndex collection)
          (if s.settings.createIndexes then schema.indexes else []) more →
        s.Registering collection schema (first ++ ([.collection collection] ++ more)) := by
      intro more hmore
      exact ⟨listed, more, hlisted, hmore, by rw [hfirst]; rfl⟩
    split
    · next hcreate =>
      refine (issued_createIndexes collection schema.indexes).mono fun more _ hmore => ?_
      exact hregistering more (by rwa [if_pos hcreate])
    · next hcreate => exact issued_pure (hregistering [] (by rw [if_neg hcreate]; exact .nil))
  unfold prepare
  cases happly : s.settings.applyValidation with
  | true =>
    rw [if_pos rfl]
    refine (issued_installValidator collection schema).bind fun issued _ hissued => ?_
    obtain ⟨listed, hlisted, rfl⟩ := hissued
    exact hindexes listed _ (fun _ => hlisted) (by rw [happly, if_pos rfl])
  | false =>
    rw [if_neg Bool.false_ne_true]
    have h := hindexes [] [] (fun h => by rw [happly] at h; cases h)
      (by rw [happly, if_neg Bool.false_ne_true])
    rwa [issuing_nil] at h

theorem run_register (hconnected : s.isConnected = true) (name : Data) (schema : Schema) :
    (register name schema).run.run s =
      match (reporting (fun reason =>
          .registrationFailed name reason (collectionOf name schema).toData)
        (prepare s.settings (collectionOf name schema) schema)).run.run s with
      | (.error fault, after) => (.error fault, after)
      | (.ok _, after) =>
        match name.key with
        | .error misuse => (.error (.misuse misuse), after)
        | .ok key => (.ok ⟨key, schema, some (collectionOf name schema)⟩,
            { after with
              models := Entries.put after.models key
                ⟨key, schema, some (collectionOf name schema)⟩ }) := by
  have hopen : (!s.isConnected) = false := by rw [hconnected]; rfl
  have hrun : (register name schema).run.run s = ((do
      reporting (fun reason => .registrationFailed name reason (collectionOf name schema).toData)
        (prepare s.settings (collectionOf name schema) schema)
      let key ← ExceptT.mk (pure (name.key.mapError .misuse))
      let model : Model := ⟨key, schema, some (collectionOf name schema)⟩
      modify fun store => { store with models := Entries.put store.models key model }
      pure model : Step Model)).run.run s := by
    unfold register
    rw [run_bind]
    have hget : (get : Step DatabaseStore).run.run s = (.ok s, s) := rfl
    rw [hget]
    dsimp only
    rw [hopen, if_neg Bool.false_ne_true]
    rfl
  rw [hrun, run_bind]
  rcases (reporting _ _).run.run s with ⟨outcome, after⟩
  cases outcome with
  | error fault => rfl
  | ok _ =>
    dsimp only
    cases name.key <;> rfl

theorem registration_register (s : DatabaseStore) (name : Data) (schema : Schema) :
    Registration s name schema ((register name schema).run.run s) := by
  cases hconnected : s.isConnected with
  | false =>
    have hclosed : (!s.isConnected) = true := by rw [hconnected]; rfl
    have hrun : (register name schema).run.run s = (.error .notConnected, s) := by
      unfold register
      rw [run_bind]
      have hget : (get : Step DatabaseStore).run.run s = (.ok s, s) := rfl
      rw [hget]
      dsimp only
      rw [hclosed, if_pos rfl]
      rfl
    rw [hrun]
    exact .unconnected hconnected
  | true =>
    rw [run_register hconnected, run_reporting]
    have hprepared := issued_prepare (s := s) (collectionOf name schema) schema
    generalize (prepare _ _ schema).run.run s = result at hprepared
    cases hprepared with
    | failed hlast => exact .failed hconnected hlast
    | answered hall hissued =>
      dsimp only
      cases hname : name.key with
      | error misuse => exact .unnamed hconnected hall hname
      | ok key => exact .registered hconnected hall hissued hname

end Issued

section Connecting

theorem run_connect (h : s.hasClient = true) :
    connect.run.run s = match s.client.answer s.calls .ping with
      | .error reason => (.error (.connectionFailed reason s.settings.uri), s.issuing [.ping])
      | .ok _ =>
        let request := DatabaseCall.database s.settings.database
        match s.client.answer (s.calls ++ [.ping]) request with
        | .error reason =>
          (.error (.connectionFailed reason s.settings.uri), s.issuing [.ping, request])
        | .ok _ =>
          (.ok (), { s.issuing [.ping, request] with hasDatabase := true, connected := true }) := by
  have hbound : (!s.hasClient) = false := by rw [h]; rfl
  have hget : (get : Step DatabaseStore).run.run s = (.ok s, s) := rfl
  unfold connect
  rw [run_bind, hget]
  dsimp only
  rw [run_reporting, run_bind, hget]
  dsimp only
  rw [hbound, if_neg Bool.false_ne_true, run_bind, run_call]
  cases s.client.answer s.calls .ping with
  | error reason => rfl
  | ok _ =>
    dsimp only
    have hanswer : (s.issuing [.ping]).client.answer (s.issuing [.ping]).calls
        (.database s.settings.database) =
        s.client.answer (s.calls ++ [.ping]) (.database s.settings.database) := rfl
    rw [run_bind, run_call, hanswer, issuing_issuing]
    cases s.client.answer (s.calls ++ [.ping]) (.database s.settings.database) <;> rfl

/-- A borrowed client is not closed. -/
theorem run_disconnect (h : s.ownsClient = false) :
    disconnect.run.run s = (.ok (), { s with hasDatabase := false, connected := false }) := by
  have hborrowed : (s.hasClient && s.ownsClient) = false := by rw [h, Bool.and_false]
  have hget : (get : Step DatabaseStore).run.run s = (.ok s, s) := rfl
  unfold disconnect
  rw [run_bind, hget]
  dsimp only
  rw [hborrowed, if_neg Bool.false_ne_true]
  rfl

/-- A store that borrows a client is set up as another one: it has its settings and its client. -/
structure SetUpAs (s start : DatabaseStore) : Prop where
  settings : s.settings = start.settings
  client : s.client = start.client
  hasClient : s.hasClient = true
  ownsClient : s.ownsClient = false

theorem Registration.setUpAs {name : Data} {schema : Schema}
    {result : Except Fault Model × DatabaseStore} (h : Registration s name schema result)
    {start : DatabaseStore} (hs : s.SetUpAs start) : result.2.SetUpAs start := by
  cases h with
  | unconnected _ => exact hs
  | failed _ _ | unnamed _ _ _ | registered _ _ _ _ =>
    exact ⟨hs.settings, hs.client, hs.hasClient, hs.ownsClient⟩

theorem Registration.isConnected_eq {name : Data} {schema : Schema}
    {result : Except Fault Model × DatabaseStore} (h : Registration s name schema result) :
    result.2.isConnected = s.isConnected := by
  cases h <;> rfl

end Connecting

/-- What is asked of a store. A schema that was made with it is known by its number. -/
inductive Operation where
  | connect
  | disconnect
  | schema (name : Scalar) (definition options : Value)
  | index (number : Nat) (index : Index)
  | model (name : Data) (number : Nat)

structure Bench where
  store : DatabaseStore
  schemas : List Schema

/-- An operation with what it ended in: a model if one was registered. -/
abbrev Event := Operation × Except Fault (Option Model)

namespace Bench

def start (settings : DatabaseSettings) (client : DatabaseClient) : Bench :=
  ⟨make settings client true, []⟩

def carryOut {α : Type} (bench : Bench) (step : Step α) (gives : α → Option Model) :
    Except Fault (Option Model) × Bench :=
  ((step.run.run bench.store).1.map gives, { bench with store := (step.run.run bench.store).2 })

/-- Carries an operation out. Indexes and models are of schemas that were made before. -/
def step (bench : Bench) : Operation → Except Fault (Option Model) × Bench
  | .connect => bench.carryOut connect fun _ => none
  | .disconnect => bench.carryOut disconnect fun _ => none
  | .schema name definition options =>
    match Schema.make name definition options with
    | .ok schema => (.ok none, { bench with schemas := bench.schemas ++ [schema] })
    | .error fault => (.error fault, bench)
  | .index number index =>
    match bench.schemas[number]? with
    | some _ =>
      (.ok none, { bench with schemas := bench.schemas.modify number (·.addIndex index) })
    | none => (.error (.misuse .noMember), bench)
  | .model name number =>
    match bench.schemas[number]? with
    | some schema => bench.carryOut (register name schema) some
    | none => (.error (.misuse .noMember), bench)

def after (bench : Bench) : List Operation → Bench
  | [] => bench
  | operation :: rest => (bench.step operation).2.after rest

def history (bench : Bench) : List Operation → List Event
  | [] => []
  | operation :: rest =>
    (operation, (bench.step operation).1) :: (bench.step operation).2.history rest

def Connects (event : Event) : Prop := event.1 = .connect ∧ ∃ v, event.2 = .ok v

/-- Some connection that succeeded is not followed by a disconnection. -/
def HeldOpen (events : List Event) : Prop :=
  ∃ earlier event later, events = earlier ++ event :: later ∧ Connects event ∧
    ∀ e ∈ later, e.1 ≠ .disconnect

def recorded? (number : Nat) : Event → Option Index
  | (.index n index, .ok _) => if n = number then some index else none
  | _ => none

variable {bench : Bench} {settings : DatabaseSettings} {client : DatabaseClient}

theorem heldOpen_cons {event : Event} {events : List Event} :
    HeldOpen (event :: events) ↔
      HeldOpen events ∨ Connects event ∧ ∀ e ∈ events, e.1 ≠ .disconnect := by
  constructor
  · rintro ⟨earlier, found, later, hsplit, hfound, hlater⟩
    cases earlier with
    | nil =>
      obtain ⟨rfl, rfl⟩ := List.cons.inj hsplit
      exact Or.inr ⟨hfound, hlater⟩
    | cons first earlier =>
      obtain ⟨-, rfl⟩ := List.cons.inj hsplit
      exact Or.inl ⟨earlier, found, later, rfl, hfound, hlater⟩
  · rintro (⟨earlier, found, later, rfl, hfound, hlater⟩ | ⟨hfound, hlater⟩)
    · exact ⟨event :: earlier, found, later, rfl, hfound, hlater⟩
    · exact ⟨[], event, events, rfl, hfound, hlater⟩

section Steps

theorem setUpAs_step {start : DatabaseStore} (h : bench.store.SetUpAs start)
    (operation : Operation) : (bench.step operation).2.store.SetUpAs start := by
  cases operation with
  | connect =>
    simp only [step, carryOut, run_connect h.hasClient]
    cases bench.store.client.answer bench.store.calls .ping with
    | error reason => exact ⟨h.settings, h.client, h.hasClient, h.ownsClient⟩
    | ok _ =>
      dsimp only
      cases bench.store.client.answer _ _ <;>
        exact ⟨h.settings, h.client, h.hasClient, h.ownsClient⟩
  | disconnect =>
    simp only [step, carryOut, run_disconnect h.ownsClient]
    exact ⟨h.settings, h.client, h.hasClient, h.ownsClient⟩
  | schema name definition options =>
    simp only [step]
    split <;> exact h
  | index number index =>
    simp only [step]
    split <;> exact h
  | model name number =>
    simp only [step]
    split
    · exact (registration_register bench.store name _).setUpAs h
    · exact h

theorem isConnected_step {start : DatabaseStore} (h : bench.store.SetUpAs start)
    (operation : Operation) :
    (bench.step operation).2.store.isConnected = true ↔
      Connects (operation, (bench.step operation).1) ∨
        bench.store.isConnected = true ∧ operation ≠ .disconnect := by
  cases operation with
  | connect =>
    simp only [step, carryOut, run_connect h.hasClient]
    cases bench.store.client.answer bench.store.calls .ping with
    | error reason => simp [Connects, Except.map, isConnected, issuing]
    | ok _ =>
      dsimp only
      cases bench.store.client.answer _ _ <;> simp [Connects, Except.map, isConnected, issuing]
  | disconnect =>
    simp only [step, carryOut, run_disconnect h.ownsClient]
    simp [Connects, isConnected]
  | schema name definition options =>
    have hsame : (bench.step (.schema name definition options)).2.store = bench.store := by
      simp only [step]
      split <;> rfl
    simp [hsame, Connects]
  | index number index =>
    have hsame : (bench.step (.index number index)).2.store = bench.store := by
      simp only [step]
      split <;> rfl
    simp [hsame, Connects]
  | model name number =>
    have hsame : (bench.step (.model name number)).2.store.isConnected =
        bench.store.isConnected := by
      simp only [step]
      split
      · exact (registration_register bench.store name _).isConnected_eq
      · rfl
    simp [hsame, Connects]

theorem indexes_make {name : Scalar} {definition options : Value} {schema : Schema}
    (h : Schema.make name definition options = .ok schema) : schema.indexes = [] := by
  unfold Schema.make at h
  dsimp only at h
  split at h
  · cases h
    rfl
  · cases h

def indexesOf (bench : Bench) (number : Nat) : List Index :=
  ((bench.schemas[number]?).map Schema.indexes).getD []

theorem indexesOf_step (bench : Bench) (operation : Operation) (number : Nat) :
    (bench.step operation).2.indexesOf number =
      bench.indexesOf number ++
        (recorded? number (operation, (bench.step operation).1)).toList := by
  cases operation with
  | connect | disconnect => simp [step, carryOut, indexesOf, recorded?]
  | schema name definition options =>
    simp only [step]
    split
    · next schema hmade =>
      have hnone := indexes_make hmade
      simp only [indexesOf, recorded?, List.getElem?_append]
      split
      · simp
      · next hlength =>
        -- The schema that was just made has no indexes, and neither has a number without a schema.
        rw [List.getElem?_eq_none (Nat.le_of_not_lt hlength)]
        cases hlast : [schema][number - bench.schemas.length]? with
        | none => rfl
        | some other =>
          obtain rfl := List.mem_singleton.mp (List.mem_of_getElem? hlast)
          simp [hnone]
    · simp [indexesOf, recorded?]
  | index n index =>
    simp only [step]
    split
    · next schema hfound =>
      simp only [indexesOf, recorded?, List.getElem?_modify]
      split
      · next heq =>
        rw [← heq, hfound]
        rfl
      · simp
    · simp [indexesOf, recorded?]
  | model name n =>
    simp only [step]
    split <;> simp [carryOut, indexesOf, recorded?]

end Steps

section Runs

/-- A run leaves a store with its settings and its client. -/
theorem setUpAs_after {start : DatabaseStore} (h : bench.store.SetUpAs start)
    (operations : List Operation) : (bench.after operations).store.SetUpAs start := by
  induction operations generalizing bench with
  | nil => exact h
  | cons operation rest ih => exact ih (setUpAs_step h operation)

/-- After a run a store is connected if it was held open, or was connected before and nothing
disconnected it. -/
theorem isConnected_after {start : DatabaseStore} (h : bench.store.SetUpAs start)
    (operations : List Operation) :
    (bench.after operations).store.isConnected = true ↔
      HeldOpen (bench.history operations) ∨ bench.store.isConnected = true ∧
        ∀ e ∈ bench.history operations, e.1 ≠ .disconnect := by
  induction operations generalizing bench with
  | nil =>
    have hnone : ¬ HeldOpen [] := by
      rintro ⟨earlier, event, later, hsplit, -⟩
      exact List.append_ne_nil_of_right_ne_nil _ (List.cons_ne_nil _ _) hsplit.symm
    simp [after, history, hnone]
  | cons operation rest ih =>
    rw [after, history, ih (setUpAs_step h operation), isConnected_step h operation,
      heldOpen_cons, List.forall_mem_cons]
    tauto

/-- The indexes of a schema are those that were recorded for it, in the order in which they
were. -/
theorem indexesOf_after (bench : Bench) (operations : List Operation) (number : Nat) :
    (bench.after operations).indexesOf number =
      bench.indexesOf number ++ (bench.history operations).filterMap (recorded? number) := by
  induction operations generalizing bench with
  | nil => simp [after, history]
  | cons operation rest ih =>
    rw [after, history, ih, indexesOf_step, List.append_assoc, List.filterMap_cons]
    cases recorded? number (operation, (bench.step operation).1) <;> rfl

end Runs

/-- The collection that a schema registered under a name is bound to: the one that its options name,
or else the one of its own name. -/
structure IsCollectionOf (name : Data) (schema : Schema) (collection : Value) : Prop where
  option : ∀ option, Entries.get? schema.options (.text "collection") = some option →
    option.isTruthy = true → collection = option
  name : (∀ option, Entries.get? schema.options (.text "collection") = some option →
    option.isTruthy = false) → collection = Value.ofData name

theorem isCollectionOf_collectionOf (name : Data) (schema : Schema) :
    IsCollectionOf name schema (collectionOf name schema) := by
  unfold collectionOf
  cases hoption : Entries.get? schema.options (.text "collection") with
  | none =>
    refine ⟨fun option h => ?_, fun _ => rfl⟩
    rw [hoption] at h
    cases h
  | some own =>
    refine ⟨fun option h htruthy => ?_, fun h => ?_⟩
    · rw [hoption] at h
      cases h
      exact if_pos htruthy
    · exact if_neg (by rw [Option.getD_some, h own hoption]; exact Bool.false_ne_true)

/-- What registering a schema under a name ends in and leaves, by the calls that it makes. -/
structure Registers (settings : DatabaseSettings) (client : DatabaseClient)
    (before after : DatabaseStore) (name : Data) (schema : Schema) (collection : Value)
    (outcome : Except Fault (Option Model)) (issued : List DatabaseCall) : Prop where
  calls : after.calls = before.calls ++ issued
  unconnected : before.isConnected = false → outcome = .error .notConnected ∧ issued = []
  failed : client.Fails before.calls issued →
    (∃ reason, outcome = .error (.registrationFailed name reason collection.toData)) ∧
      (∀ key, (SchemaStore.database after).model? key = (SchemaStore.database before).model? key) ∧
      (SchemaStore.database after).modelNames = (SchemaStore.database before).modelNames
  returned : ∀ model, outcome = .ok (some model) → ∃ key listed created, name = .scalar key ∧
    model = ⟨key, schema, some collection⟩ ∧
    (∀ other, (SchemaStore.database after).model? other =
      if key.same other then some model else (SchemaStore.database before).model? other) ∧
    (settings.applyValidation = true → client.answer before.calls .listCollections = .ok listed) ∧
    List.Forall₂ (CreatesIndex collection)
      (if settings.createIndexes then schema.indexes else []) created ∧
    issued =
      (if settings.applyValidation then
        [.listCollections, installation collection schema listed] else []) ++
      .collection collection :: created

theorem registers_of_registration {s start : DatabaseStore} (h : s.SetUpAs start) {name : Data}
    {schema : Schema} {result : Except Fault Model × DatabaseStore}
    (hresult : Registration s name schema result) :
    ∃ issued, Registers start.settings start.client s result.2 name schema
      (collectionOf name schema) (result.1.map some) issued := by
  have hnone : ¬ start.client.Fails s.calls [] := by
    rintro ⟨done, request, rest, -, hsplit, -⟩
    exact List.append_ne_nil_of_right_ne_nil _ (List.cons_ne_nil _ _) hsplit.symm
  have hopen : ∀ {p : Prop}, s.isConnected = true → s.isConnected = false → p := by
    intro p hconnected hclosed
    rw [hconnected] at hclosed
    cases hclosed
  rw [← h.settings, ← h.client] at *
  cases hresult with
  | unconnected _ =>
    exact ⟨[], (List.append_nil _).symm, fun _ => ⟨rfl, rfl⟩, fun hfails => absurd hfails hnone,
      fun model hmodel => by cases hmodel⟩
  | @failed issued reason hconnected _ =>
    exact ⟨issued, rfl, hopen hconnected, fun _ => ⟨⟨reason, rfl⟩, fun _ => rfl, rfl⟩,
      fun model hmodel => by cases hmodel⟩
  | @unnamed issued misuse hconnected hall _ =>
    exact ⟨issued, rfl, hopen hconnected, fun hfails => absurd hfails hall.not_fails,
      fun model hmodel => by cases hmodel⟩
  | @registered issued key hconnected hall hissued hname =>
    refine ⟨issued, rfl, hopen hconnected, fun hfails => absurd hfails hall.not_fails,
      fun model hmodel => ?_⟩
    obtain ⟨listed, created, hlisted, hcreated, hcalls⟩ := hissued
    cases hmodel
    refine ⟨key, listed, created, ?_, rfl, fun other => Entries.get?_put _ _ _ _, hlisted,
      hcreated, hcalls⟩
    cases name with
    | scalar own =>
      cases hname
      rfl
    | _ => cases hname

/-- A store that borrows a client, after whatever run, with whatever answers of the client: it is
connected exactly if a connection that succeeded was not followed by a disconnection, a schema has
the indexes that were recorded for it, in order, and registering a schema makes no call unless the
store is connected, changes nothing of what is registered if a call fails, and otherwise registers
the model, having made the calls that are asked for in their order. -/
theorem registers_after (settings : DatabaseSettings) (client : DatabaseClient)
    (operations : List Operation) :
    let bench := (start settings client).after operations
    let history := (start settings client).history operations
    (bench.store.isConnected = true ↔ HeldOpen history) ∧
      ∀ number schema, bench.schemas[number]? = some schema →
        schema.indexes = history.filterMap (recorded? number) ∧
        ∀ name, ∃ collection issued, IsCollectionOf name schema collection ∧
          Registers settings client bench.store (bench.step (.model name number)).2.store name
            schema collection (bench.step (.model name number)).1 issued := by
  intro bench history
  have hstart : (start settings client).store.SetUpAs (start settings client).store :=
    ⟨rfl, rfl, rfl, rfl⟩
  have hbench : bench.store.SetUpAs (start settings client).store := setUpAs_after hstart operations
  refine ⟨?_, fun number schema hfound => ⟨?_, fun name => ?_⟩⟩
  · rw [isConnected_after hstart, or_iff_left]
    rintro ⟨hconnected, -⟩
    cases hconnected
  · have hrecorded := indexesOf_after (start settings client) operations number
    have hown : bench.indexesOf number = schema.indexes := by rw [indexesOf, hfound]; rfl
    rw [← hown]
    exact hrecorded
  · obtain ⟨issued, hregisters⟩ := registers_of_registration hbench
      (registration_register bench.store name schema)
    refine ⟨_, issued, isCollectionOf_collectionOf name schema, ?_⟩
    simp only [step, hfound]
    exact hregisters

section Users

def byName : Index := ⟨[(.text "name", .text "DESC")], true⟩

/-- Users by their name, in a collection that their options name. -/
def users : Schema :=
  { name := "User"
    definition := [(.text "name", .map [(.text "type", .type .text)])]
    options := [(.text "collection", .text "users")]
    indexes := [byName] }

/-- Before users are registered: the store is connected twice, and disconnected in between. -/
def usersOperations : List Operation :=
  [.connect, .disconnect, .schema (.text "User") (.map users.definition) (.map users.options),
    .connect, .index 0 byName]

/-- A client whose database has the collection of users and lets no index be created. -/
def crowded : DatabaseClient := .scripted ["users"] [("create_index", "no space")]

/-- A client of the same database in which every call is answered. -/
def roomy : DatabaseClient := .scripted ["users"] []

/-- After such a run the store is connected and users have their index. They cannot be registered
where the index cannot be created, and otherwise are, by their validator and then their index. -/
theorem users_registers :
    let settings : DatabaseSettings := { applyValidation := true }
    let refused := (start settings crowded).after usersOperations
    let bench := (start settings roomy).after usersOperations
    refused.store.isConnected = true ∧ refused.schemas[0]? = some users ∧
      (refused.step (.model (.text "User") 0)).1 =
        .error (.registrationFailed (.text "User") "no space" (.text "users")) ∧
      (∃ collection issued, IsCollectionOf (.text "User") users collection ∧
        Registers settings crowded refused.store (refused.step (.model (.text "User") 0)).2.store
          (.text "User") users collection (refused.step (.model (.text "User") 0)).1 issued) ∧
      bench.store.isConnected = true ∧ bench.schemas[0]? = some users ∧
      users.indexes = ((start settings roomy).history usersOperations).filterMap (recorded? 0) ∧
      (bench.step (.model (.text "User") 0)).1 =
        .ok (some ⟨.text "User", users, some (.text "users")⟩) ∧
      (bench.step (.model (.text "User") 0)).2.store.calls = bench.store.calls ++
        [.listCollections, .changeValidator (.text "users") (validatorOf users),
          .collection (.text "users"),
          .createIndex (.text "users") [(.text "name", .scalar (.int (-1)))] true] ∧
      ∃ collection issued, IsCollectionOf (.text "User") users collection ∧
        Registers settings roomy bench.store (bench.step (.model (.text "User") 0)).2.store
          (.text "User") users collection (bench.step (.model (.text "User") 0)).1 issued := by
  intro settings refused bench
  obtain ⟨-, hrefused⟩ := registers_after settings crowded usersOperations
  obtain ⟨-, hregisters⟩ := registers_after settings roomy usersOperations
  obtain ⟨hindexes, hmodel⟩ := hregisters 0 users rfl
  exact ⟨rfl, rfl, rfl, (hrefused 0 users rfl).2 _, rfl, rfl, hindexes, rfl, rfl, hmodel _⟩

end Users

end Bench

end DatabaseStore

end StoreSchema
