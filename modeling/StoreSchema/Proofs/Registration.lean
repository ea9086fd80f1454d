import StoreSchema.Proofs.Intake
import StoreSchema.Proofs.Overlay

set_option autoImplicit false

namespace StoreSchema

namespace Entries

variable {α : Type} {es : Entries α} {key : Scalar}

theorem put_of_absent (h : has es key = false) (v : α) : put es key v = es ++ [(key, v)] := by
  induction es with
  | nil => rfl
  | cons e rest ih =>
    obtain ⟨k, w⟩ := e
    rw [has, get?_cons] at h
    rw [put]
    split at h
    · cases h
    · next hother => rw [if_neg hother, ih h, List.cons_append]

theorem has_append (es more : Entries α) (key : Scalar) :
    has (es ++ more) key = (has es key || has more key) := by
  rw [has, get?_append, Option.isSome_or]
  rfl

end Entries

namespace MemoryStore

/-- The store as schemas are registered in it: connected. One that is not is connected first, which
leaves it without models. -/
def ready (store : MemoryStore) : MemoryStore :=
  if store.connected then store else store.connect

def modelOf (e : Scalar × Schema) : Scalar × Model := (e.1, ⟨e.1, e.2, none⟩)

/-- Schemas to be registered one after the other, none of them under a name that is taken then. -/
def Free (models : Entries Model) : List (Scalar × Schema) → Prop
  | [] => True
  | e :: rest => Entries.has models e.1 = false ∧ Free (models ++ [modelOf e]) rest

variable {store : MemoryStore} {models : Entries Model} {schemas : List (Scalar × Schema)}

theorem free_or_taken (models : Entries Model) (schemas : List (Scalar × Schema)) :
    Free models schemas ∨ ∃ first taken rest, schemas = first ++ taken :: rest ∧
      Free models first ∧ Entries.has (models ++ first.map modelOf) taken.1 = true := by
  induction schemas generalizing models with
  | nil => exact Or.inl trivial
  | cons e rest ih =>
    cases hhas : Entries.has models e.1 with
    | true =>
      refine Or.inr ⟨[], e, rest, rfl, trivial, ?_⟩
      rw [List.map_nil, List.append_nil]
      exact hhas
    | false =>
      rcases ih (models ++ [modelOf e]) with hfree | ⟨first, taken, after, hsplit, hfree, htaken⟩
      · exact Or.inl ⟨hhas, hfree⟩
      · refine Or.inr ⟨e :: first, taken, after, ?_, ⟨hhas, hfree⟩, ?_⟩
        · rw [hsplit, List.cons_append]
        · rw [List.map_cons]
          rwa [List.append_assoc, List.singleton_append] at htaken

theorem Free.absent (h : Free models schemas) : ∀ e ∈ schemas, Entries.has models e.1 = false := by
  induction schemas generalizing models with
  | nil =>
    intro e he
    cases he
  | cons e rest ih =>
    obtain ⟨habsent, hrest⟩ := h
    refine List.forall_mem_cons.mpr ⟨habsent, fun other hmem => ?_⟩
    have hlater := ih hrest other hmem
    rw [Entries.has_append, Bool.or_eq_false_iff] at hlater
    exact hlater.1

theorem register_of_admitted {name : Scalar}
    (h : store.settings.replaceModels = true ∨ Entries.has store.models name = false)
    (schema : Schema) :
    ∃ warnings, store.register name schema = .ok ((modelOf (name, schema)).2, warnings,
      { store with models := Entries.put store.models name (modelOf (name, schema)).2 }) := by
  have hopen : (Entries.has store.models name && !store.settings.replaceModels) = false := by
    rcases h with h | h <;> simp [h]
  simp only [register, hopen, Bool.false_eq_true, if_false]
  exact ⟨_, rfl⟩

theorem register_of_taken {name : Scalar} (hkeep : store.settings.replaceModels = false)
    (htaken : Entries.has store.models name = true) (schema : Schema) :
    store.register name schema = .error (.modelRegistered name) := by
  simp only [register, htaken, hkeep, Bool.not_false, Bool.and_self, if_true]

end MemoryStore

namespace Session

open MemoryStore (modelOf)

variable {store : MemoryStore} {schemas : List (Scalar × Schema)}

def schemasOf (compiled : List Compiled) : Except Fault (List (Scalar × Schema)) :=
  compiled.mapM fun c => do pure (c.name, ← schemaOf c)

/-- A schema that is made of a compiled definition, under its name. Keys that are bytes are read as
texts in it. -/
structure IsSchemaOf (c : Compiled) (e : Scalar × Schema) : Prop where
  key : e.1 = c.name
  name : Schema.checkName c.name = .pure e.2.name
  definition : ∃ fields, c.properties.entries? = some fields ∧
    e.2.definition = fields.map fun f => (Schema.fieldKey f.1, f.2)
  options : e.2.options =
    (Value.ofEntries c.options).map fun option => (Schema.fieldKey option.1, option.2)
  indexes : e.2.indexes = c.index.toList

private theorem make_eq {name : Scalar} {definition : Value} {options : Entries Value}
    {made : Except Fault Schema} (h : Schema.make name definition (.map options) = made) :
    (∃ schema fields, made = .ok schema ∧ Schema.checkName name = .pure schema.name ∧
      definition.entries? = some fields ∧
      schema.definition = fields.map (fun f => (Schema.fieldKey f.1, f.2)) ∧
      schema.options = options.map (fun option => (Schema.fieldKey option.1, option.2)) ∧
      schema.indexes = []) ∨
    ∃ faults, made = .error (.invalidFields faults) := by
  have hoptions : (if (Value.map options).isTruthy then Value.map options else .map []) =
      .map options := by
    cases options <;> rfl
  unfold Schema.make at h
  rw [hoptions] at h
  dsimp only at h
  split at h
  · next fields entries hfaults hfields hentries =>
    obtain ⟨hnamed, -⟩ := List.append_eq_nil_iff.mp hfaults
    obtain ⟨hnamed, -⟩ := List.append_eq_nil_iff.mp hnamed
    obtain rfl : options = entries := Option.some.inj hentries
    refine Or.inl ⟨_, fields, h.symm, ?_, hfields, rfl, rfl, rfl⟩
    rw [Checked.pure, ← hnamed]
  · exact Or.inr ⟨_, h.symm⟩

theorem isSchemaOf_of_schemaOf {c : Compiled} {schema : Schema} (h : schemaOf c = .ok schema) :
    IsSchemaOf c (c.name, schema) := by
  unfold schemaOf at h
  obtain ⟨made, hmake, h⟩ := exists_of_bind_eq_ok h
  rcases make_eq hmake with ⟨_, fields, hmade, hname, hfields, hdefinition, hoptions, hindexes⟩ |
    ⟨faults, hmade⟩
  · obtain rfl := Except.ok.inj hmade
    cases hindex : c.index with
    | none =>
      rw [hindex] at h
      obtain rfl := Except.ok.inj h
      exact ⟨rfl, hname, ⟨fields, hfields, hdefinition⟩, hoptions, by rw [hindexes, hindex]; rfl⟩
    | some index =>
      rw [hindex] at h
      obtain rfl := Except.ok.inj h
      refine ⟨rfl, hname, ⟨fields, hfields, hdefinition⟩, hoptions, ?_⟩
      rw [hindex, Schema.addIndex, hindexes]
      rfl
  · cases hmade

theorem invalidFields_of_schemaOf {c : Compiled} {fault : Fault} (h : schemaOf c = .error fault) :
    ∃ faults, fault = .invalidFields faults := by
  unfold schemaOf at h
  cases hmake : Schema.make c.name c.properties (.map (Value.ofEntries c.options)) with
  | ok schema =>
    rw [hmake, ok_bind] at h
    split at h <;> cases h
  | error other =>
    rw [hmake, error_bind] at h
    obtain rfl := Except.error.inj h
    rcases make_eq hmake with ⟨_, _, hmade, -⟩ | ⟨faults, hmade⟩
    · cases hmade
    · exact ⟨faults, Except.error.inj hmade⟩

theorem forall₂_schemasOf {compiled : List Compiled} {schemas : List (Scalar × Schema)}
    (h : schemasOf compiled = .ok schemas) : List.Forall₂ IsSchemaOf compiled schemas := by
  induction compiled generalizing schemas with
  | nil =>
    obtain rfl := Except.ok.inj h
    exact .nil
  | cons c rest ih =>
    rw [schemasOf, List.mapM_cons] at h
    obtain ⟨e, hfirst, h⟩ := exists_of_bind_eq_ok h
    obtain ⟨schema, hschema, hfirst⟩ := exists_of_bind_eq_ok hfirst
    obtain ⟨others, hothers, h⟩ := exists_of_bind_eq_ok h
    obtain rfl := Except.ok.inj hfirst
    obtain rfl := Except.ok.inj h
    exact .cons (isSchemaOf_of_schemaOf hschema) (ih hothers)

theorem names_of_forall₂ {compiled : List Compiled} {schemas : List (Scalar × Schema)}
    (h : List.Forall₂ IsSchemaOf compiled schemas) :
    compiled.map (·.name) = Entries.keys schemas := by
  induction h with
  | nil => rfl
  | cons hfirst hrest ih =>
    rw [List.map_cons, ih, ← hfirst.key]
    rfl

theorem invalidFields_of_schemasOf {compiled : List Compiled} {fault : Fault}
    (h : schemasOf compiled = .error fault) : ∃ faults, fault = .invalidFields faults := by
  induction compiled with
  | nil => cases h
  | cons c rest ih =>
    rw [schemasOf, List.mapM_cons] at h
    cases hschema : schemaOf c with
    | error other =>
      rw [hschema, error_bind, error_bind] at h
      obtain rfl := Except.error.inj h
      exact invalidFields_of_schemaOf hschema
    | ok schema =>
      rw [hschema, ok_bind] at h
      change (schemasOf rest >>= fun others => pure ((c.name, schema) :: others)) = _ at h
      cases hrest : schemasOf rest with
      | error other =>
        rw [hrest, error_bind] at h
        obtain rfl := Except.error.inj h
        exact ih hrest
      | ok others =>
        rw [hrest] at h
        cases h

private theorem register_run (store : MemoryStore) (warnings : List Warning) (name : Scalar)
    (schema : Schema) :
    (SchemaStore.register (.scalar name) schema).run.run { store := .memory store, warnings } =
      match store.register name schema with
      | .ok (model, given, after) =>
        (.ok model, { store := .memory after, warnings := warnings ++ given })
      | .error fault => (.error fault, { store := .memory store, warnings }) := by
  change ((match store.register name schema with
    | .ok (model, given, after) => do
      modify fun log => { store := .memory after, warnings := log.warnings ++ given }
      pure model
    | .error fault => throw fault : SchemaStore.Step Model)).run.run _ = _
  cases store.register name schema with
  | error fault => rfl
  | ok found => rfl

/-- Schemas whose names may be taken over, or are free, are all registered. -/
theorem registerAll_admitted
    (h : store.settings.replaceModels = true ∨ MemoryStore.Free store.models schemas)
    (warnings : List Warning) :
    ∃ given, (registerAll schemas).run.run { store := .memory store, warnings } =
      (.ok (schemas.map modelOf),
        { store := .memory
            { store with models := Entries.overlay store.models (schemas.map modelOf) },
          warnings := given }) := by
  induction schemas generalizing store warnings with
  | nil => exact ⟨warnings, rfl⟩
  | cons e rest ih =>
    obtain ⟨name, schema⟩ := e
    have hfirst : store.settings.replaceModels = true ∨ Entries.has store.models name = false :=
      h.imp_right And.left
    obtain ⟨given, hregister⟩ := MemoryStore.register_of_admitted hfirst schema
    let after : MemoryStore :=
      { store with models := Entries.put store.models name (modelOf (name, schema)).2 }
    have hrest : after.settings.replaceModels = true ∨ MemoryStore.Free after.models rest := by
      refine h.imp_right fun hfree => ?_
      have hput : after.models = store.models ++ [modelOf (name, schema)] :=
        Entries.put_of_absent hfree.1 _
      rw [hput]
      exact hfree.2
    obtain ⟨more, hmore⟩ := ih hrest (warnings ++ given)
    refine ⟨more, ?_⟩
    rw [registerAll, run_run_bind, register_run, hregister]
    dsimp only
    rw [run_run_bind, hmore]
    rfl

/-- If a name is taken that may not be taken over, the schemas before it are registered. -/
theorem registerAll_refused (hkeep : store.settings.replaceModels = false)
    {first rest : List (Scalar × Schema)} {taken : Scalar × Schema}
    (hfree : MemoryStore.Free store.models first)
    (htaken : Entries.has (store.models ++ first.map modelOf) taken.1 = true)
    (warnings : List Warning) :
    ∃ given, (registerAll (first ++ taken :: rest)).run.run { store := .memory store, warnings } =
      (.error (.modelRegistered taken.1),
        { store := .memory { store with models := store.models ++ first.map modelOf },
          warnings := given }) := by
  induction first generalizing store warnings with
  | nil =>
    rw [List.map_nil, List.append_nil] at htaken ⊢
    refine ⟨warnings, ?_⟩
    rw [List.nil_append, registerAll, run_run_bind, register_run,
      MemoryStore.register_of_taken hkeep htaken]
  | cons e first ih =>
    obtain ⟨name, schema⟩ := e
    obtain ⟨given, hregister⟩ := MemoryStore.register_of_admitted (Or.inr hfree.1) schema
    let after : MemoryStore :=
      { store with models := Entries.put store.models name (modelOf (name, schema)).2 }
    have hput : after.models = store.models ++ [modelOf (name, schema)] :=
      Entries.put_of_absent hfree.1 _
    have hrest : MemoryStore.Free after.models first := by
      rw [hput]
      exact hfree.2
    have hmodels : after.models ++ first.map modelOf =
        store.models ++ ((name, schema) :: first).map modelOf := by
      rw [hput, List.append_assoc, List.map_cons, List.singleton_append]
    obtain ⟨more, hmore⟩ := @ih after hkeep hrest (by rw [hmodels]; exact htaken)
      (warnings ++ given)
    refine ⟨more, ?_⟩
    rw [List.cons_append, registerAll, run_run_bind, register_run, hregister]
    dsimp only
    rw [run_run_bind, hmore, hmodels]

theorem handOver_run (store : MemoryStore) (warnings : List Warning) (compiled : List Compiled) :
    (handOver compiled).run.run { store := .memory store, warnings } =
      match schemasOf compiled with
      | .error fault => (.error fault, { store := .memory store.ready, warnings })
      | .ok schemas =>
        match (registerAll schemas).run.run { store := .memory store.ready, warnings } with
        | (.ok models, after) => (.ok ⟨schemas, models⟩, after)
        | (.error fault, after) => (.error fault, after) := by
  have hschemas :
      compiled.mapM (fun c => do pure (c.name, ← schemaOf c)) = schemasOf compiled := rfl
  cases hmade : schemasOf compiled with
  | error fault =>
    obtain ⟨settings, models, connected⟩ := store
    cases connected
    all_goals
      simp only [handOver, hschemas, hmade]
      rfl
  | ok schemas =>
    have hready : (handOver compiled).run.run { store := .memory store, warnings } =
        ((registerAll schemas >>= fun models => pure ⟨schemas, models⟩ :
          SchemaStore.Step CompilationResult)).run.run
            { store := .memory store.ready, warnings } := by
      obtain ⟨settings, models, connected⟩ := store
      cases connected
      all_goals
        simp only [handOver, hschemas, hmade]
        rfl
    rw [hready, run_run_bind]
    dsimp only
    rcases (registerAll schemas).run.run { store := .memory store.ready, warnings } with
      ⟨outcome, after⟩
    cases outcome <;> rfl

end Session

end StoreSchema
