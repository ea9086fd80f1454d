import StoreSchema.Document.Intake
import StoreSchema.Proofs.Outcome
import StoreSchema.Proofs.Overlay

set_option autoImplicit false

namespace StoreSchema

namespace Reporting

variable {α β : Type}

def outcome (step : Reporting α) : Except Fault α := (step.run.run []).1

/-- A step ends in an outcome, whatever was warned of before. -/
def Gives (step : Reporting α) (a : Except Fault α) : Prop :=
  ∀ warnings, (step.run.run warnings).1 = a

def Steady (step : Reporting α) : Prop := step.Gives step.outcome

theorem run_bind (step : Reporting α) (next : α → Reporting β) (warnings : List Warning) :
    (step >>= next).run.run warnings =
      match step.run.run warnings with
      | (.ok v, given) => (next v).run.run given
      | (.error fault, given) => (.error fault, given) := by
  refine (run_run_bind step next warnings).trans ?_
  rcases step.run.run warnings with ⟨a, given⟩
  cases a <;> rfl

namespace Gives

variable {step : Reporting α} {next : α → Reporting β} {a : Except Fault α}
  {f : α → Except Fault β}

theorem outcome (h : step.Gives a) : step.outcome = a := h []

theorem steady (h : step.Gives a) : step.Steady := by
  rw [Steady, h.outcome]
  exact h

theorem ok (v : α) : (pure v : Reporting α).Gives (.ok v) := fun _ => rfl

theorem error (fault : Fault) : (throw fault : Reporting α).Gives (.error fault) := fun _ => rfl

theorem warn (warning : Warning) : (Reporting.warn warning).Gives (.ok ()) := fun _ => rfl

theorem ofExcept (a : Except Fault α) : (Reporting.ofExcept a).Gives a := by
  intro warnings
  cases a <;> rfl

theorem bind (h : step.Gives a) (hnext : ∀ v, (next v).Gives (f v)) :
    (step >>= next).Gives (a >>= f) := by
  intro warnings
  rw [run_bind, ← h warnings]
  rcases step.run.run warnings with ⟨outcome, given⟩
  cases outcome with
  | error fault => rfl
  | ok v => exact hnext v given

end Gives

theorem Steady.bind {step : Reporting α} {next : α → Reporting β} (h : step.Steady)
    (hnext : ∀ v, (next v).Steady) : (step >>= next).Steady :=
  (Gives.bind h hnext).steady

end Reporting

namespace Document

/-- Definitions with the extension blocks of some replaced. -/
def layNamed (key : String) (definitions : Entries Data) :
    Entries Data → Except Fault (Entries Data)
  | [] => .ok definitions
  | (name, block) :: rest =>
    match Entries.get? definitions name with
    | none => layNamed key definitions rest
    | some definition =>
      orMisuse (replaceBlock definition key block) >>= fun replaced =>
        layNamed key (Entries.put definitions name replaced) rest

/-- Definitions with a block laid under the extension block of each, unless it is falsy. -/
def layDefault (key : String) (base : Data) (definitions : Entries Data) :
    Except Fault (Entries Data) :=
  if base.isTruthy then
    orMisuse (definitions.mapM fun e => do pure (e.1, ← layUnder key base e.2))
  else .ok definitions

/-- Definitions with extension blocks from elsewhere: the named ones are put in place first, and
then the `default` block is laid under all. -/
def layExtra (key : String) (definitions : Entries Data) (extra : Data) :
    Except Fault (Entries Data) :=
  if extra.isTruthy then
    orMisuse extra.toEntries >>= fun entries =>
      layNamed key definitions (Entries.erase entries (.text "default")) >>=
        layDefault key (Entries.value entries "default")
  else .ok definitions

variable {key : String} {definitions laid : Entries Data} {extra : Data}

theorem layExtra_map (key : String) (definitions entries : Entries Data) :
    layExtra key definitions (.map entries) =
      layNamed key definitions (Entries.erase entries (.text "default")) >>=
        layDefault key (Entries.value entries "default") := by
  unfold layExtra
  split
  · rw [Data.toEntries_map, orMisuse_ok, ok_bind]
  · next hfalsy =>
    rw [Data.eq_nil_of_falsy (Bool.eq_false_iff.mpr hfalsy)]
    rfl

private theorem gives_applyNamed (key : String) (definitions named : Entries Data) :
    (applyNamed key definitions named).Gives (layNamed key definitions named) := by
  induction named generalizing definitions with
  | nil => exact .ok _
  | cons e rest ih =>
    obtain ⟨name, block⟩ := e
    unfold applyNamed layNamed
    cases Entries.get? definitions name with
    | none => exact (Reporting.Gives.warn _).bind fun _ => ih definitions
    | some definition => exact (Reporting.Gives.ofExcept _).bind fun _ => ih _

theorem gives_applyExtra (definitions : Entries Data) (extra : Data) (key : String) :
    (applyExtra definitions extra key).Gives (layExtra key definitions extra) := by
  unfold applyExtra layExtra
  split
  · refine (Reporting.Gives.ofExcept _).bind fun entries => ?_
    refine (gives_applyNamed key definitions _).bind fun named => ?_
    unfold layDefault
    split
    · exact .ofExcept _
    · exact .ok _
  · exact .ok _

theorem keys_layNamed {named : Entries Data} (h : layNamed key definitions named = .ok laid) :
    Entries.keys laid = Entries.keys definitions := by
  induction named generalizing definitions with
  | nil =>
    cases h
    rfl
  | cons e rest ih =>
    obtain ⟨name, block⟩ := e
    rw [layNamed] at h
    split at h
    · exact ih h
    · next definition hfound =>
      obtain ⟨replaced, -, h⟩ := exists_of_bind_eq_ok h
      rw [ih h]
      exact Entries.keys_put_of_get? hfound replaced

theorem keys_layDefault {base : Data} (h : layDefault key base definitions = .ok laid) :
    Entries.keys laid = Entries.keys definitions := by
  unfold layDefault at h
  split at h
  · replace h := eq_ok_of_orMisuse h
    induction definitions generalizing laid with
    | nil =>
      cases h
      rfl
    | cons e rest ih =>
      rw [List.mapM_cons] at h
      obtain ⟨first, hfirst, h⟩ := exists_of_bind_eq_ok h
      obtain ⟨more, hmore, h⟩ := exists_of_bind_eq_ok h
      obtain ⟨definition, -, hfirst⟩ := exists_of_bind_eq_ok hfirst
      cases h
      cases hfirst
      rw [Entries.keys_cons, ih hmore]
      rfl
  · cases h
    rfl

/-- No definition is added or lost, and none is moved. -/
theorem keys_layExtra (h : layExtra key definitions extra = .ok laid) :
    Entries.keys laid = Entries.keys definitions := by
  unfold layExtra at h
  split at h
  · obtain ⟨entries, -, h⟩ := exists_of_bind_eq_ok h
    obtain ⟨named, hnamed, h⟩ := exists_of_bind_eq_ok h
    rw [keys_layDefault h, keys_layNamed hnamed]
  · cases h
    rfl

section Closed

variable {named : Entries Data}

def putBlock (key : String) (block : Data) : Data → Data
  | .map entries => .map (Entries.put entries (.text key) block)
  | definition => definition

def replaceOwn (key : String) (named : Entries Data) (name : Scalar) (definition : Data) : Data :=
  match Entries.get? named name with
  | some block => putBlock key block definition
  | none => definition

def isReplaceable (definitions : Entries Data) (name : Scalar) : Bool :=
  match Entries.get? definitions name with
  | some (.map _) | none => true
  | some _ => false

private theorem replaceOwn_of_none {name : Scalar} (hdefinitions : Entries.DistinctKeys definitions)
    (hnone : Entries.get? definitions name = none) (block : Data) (rest : Entries Data) :
    (definitions.map fun e => (e.1, replaceOwn key ((name, block) :: rest) e.1 e.2)) =
      definitions.map fun e => (e.1, replaceOwn key rest e.1 e.2) := by
  refine List.map_congr_left fun e he => ?_
  have hother : name.same e.1 = false := by
    rw [Bool.eq_false_iff]
    intro hsame
    rw [Entries.get?_same hsame, Entries.get?_of_mem hdefinitions he] at hnone
    cases hnone
  simp only [replaceOwn, Entries.get?_cons, hother, Bool.false_eq_true, if_false]

section Replaced

variable {name : Scalar} {entries rest : Entries Data} {block : Data}
  (hfound : Entries.get? definitions name = some (.map entries))

include hfound

private theorem isReplaceable_put (other : Scalar) :
    isReplaceable (Entries.put definitions name (putBlock key block (.map entries))) other =
      isReplaceable definitions other := by
  unfold isReplaceable
  rw [Entries.get?_put]
  cases hother : name.same other with
  | true =>
    rw [← Entries.get?_same hother, hfound]
    rfl
  | false => rfl

private theorem replaceOwn_put (hdefinitions : Entries.DistinctKeys definitions)
    (hnamed : Entries.DistinctKeys ((name, block) :: rest)) :
    ((Entries.put definitions name (putBlock key block (.map entries))).map fun e =>
      (e.1, replaceOwn key rest e.1 e.2)) =
      definitions.map fun e => (e.1, replaceOwn key ((name, block) :: rest) e.1 e.2) := by
  rw [Entries.put_eq_map hdefinitions hfound, List.map_map]
  refine List.map_congr_left fun e he => ?_
  simp only [Function.comp_apply, replaceOwn, Entries.get?_cons]
  cases hsame : e.1.same name with
  | true =>
    have hname := Scalar.same_symm hsame
    have hnone : Entries.get? rest e.1 = none := hnamed.get?_tail hname
    have hdefinition : e.2 = .map entries := by
      have hget := Entries.get?_of_mem hdefinitions he
      rw [Entries.get?_same hsame, hfound] at hget
      exact (Option.some.inj hget).symm
    rw [hname, hnone, hdefinition]
    rfl
  | false =>
    rw [Scalar.same_comm, hsame]
    rfl

end Replaced

theorem layNamed_eq (hdefinitions : Entries.DistinctKeys definitions)
    (hnamed : Entries.DistinctKeys named) :
    layNamed key definitions named =
      if named.all fun e => isReplaceable definitions e.1 then
        .ok (definitions.map fun e => (e.1, replaceOwn key named e.1 e.2))
      else .error (.misuse .wrongKind) := by
  induction named generalizing definitions with
  | nil =>
    have hsame : (definitions.map fun e => (e.1, replaceOwn key [] e.1 e.2)) = definitions :=
      List.map_id definitions
    rw [layNamed, hsame]
    rfl
  | cons e rest ih =>
    obtain ⟨name, block⟩ := e
    rw [layNamed, List.all_cons]
    cases hfound : Entries.get? definitions name with
    | none =>
      have hreplaceable : isReplaceable definitions name = true := by
        rw [isReplaceable, hfound]
      rw [hreplaceable, Bool.true_and, replaceOwn_of_none hdefinitions hfound]
      exact ih hdefinitions hnamed.tail
    | some definition =>
      cases definition with
      | map entries =>
        have hreplaceable : isReplaceable definitions name = true := by
          rw [isReplaceable, hfound]
        have hlaid := ih (hdefinitions.put name (putBlock key block (.map entries))) hnamed.tail
        simp only [isReplaceable_put hfound, replaceOwn_put hfound hdefinitions hnamed] at hlaid
        rw [hreplaceable, Bool.true_and]
        exact hlaid
      | _ =>
        rw [isReplaceable, hfound]
        rfl

/-- The order of the named blocks does not matter. -/
theorem layNamed_perm {named' : Entries Data} (hdefinitions : Entries.DistinctKeys definitions)
    (hnamed : Entries.DistinctKeys named) (hperm : named.Perm named') :
    layNamed key definitions named = layNamed key definitions named' := by
  have hget : ∀ name, Entries.get? named name = Entries.get? named' name :=
    Entries.get?_perm hnamed hperm
  rw [layNamed_eq hdefinitions hnamed, layNamed_eq hdefinitions (hnamed.perm hperm),
    hperm.all_eq]
  simp only [replaceOwn, hget]

theorem layNamed_filter {p : Scalar → Bool}
    (hp : ∀ name, p name = false → Entries.get? definitions name = none) :
    layNamed key definitions (named.filter fun e => p e.1) = layNamed key definitions named := by
  induction named generalizing definitions with
  | nil => rfl
  | cons e rest ih =>
    obtain ⟨name, block⟩ := e
    rw [List.filter_cons]
    cases hname : p name with
    | false =>
      rw [if_neg Bool.false_ne_true, ih hp, layNamed, hp name hname]
    | true =>
      rw [if_pos rfl, layNamed, layNamed]
      cases hfound : Entries.get? definitions name with
      | none => exact ih hp
      | some definition =>
        dsimp only
        congr 1
        funext replaced
        refine ih fun other hother => ?_
        rw [Entries.get?_put, hp other hother, if_neg]
        intro hsame
        rw [Entries.get?_same hsame, hp other hother] at hfound
        cases hfound

def underlay (key : String) (base : Entries Data) (definition : Data) : Data :=
  .map (Entries.put definition.entriesOf (.text key)
    (.map (Extensions.mergeOn base (definition.value key).entriesOf)))

theorem eq_underlay {base : Entries Data} {definition laid : Data}
    (hblock : Entries.DistinctKeys (definition.value key).entriesOf)
    (h : layUnder key (.map base) definition = .ok laid) : laid = underlay key base definition := by
  unfold layUnder at h
  obtain ⟨entries, hentries, h⟩ := exists_of_bind_eq_ok h
  obtain ⟨merged, hmerged, h⟩ := exists_of_bind_eq_ok h
  rw [Data.value_of_members hentries] at hmerged
  cases h
  rw [underlay, Data.entriesOf_of_members hentries, ← Extensions.mergeBlocks_eq_ok hblock hmerged]

theorem layUnder_eq_ok {base block : Entries Data} {definition : Data}
    (hmap : ∃ entries, definition = .map entries) (hvalue : definition.value key = .map block)
    (hblock : Entries.DistinctKeys block) :
    layUnder key (.map base) definition = .ok (underlay key base definition) := by
  obtain ⟨entries, rfl⟩ := hmap
  have hmerged : ∃ merged, Extensions.mergeBlocks (.map base) (.map block) = .ok merged := by
    unfold Extensions.mergeBlocks
    rw [Data.toEntries_map, ok_bind]
    split <;> exact ⟨_, rfl⟩
  obtain ⟨merged, hmerged⟩ := hmerged
  have hentries : Entries.value entries key = .map block := hvalue
  have hlaid : layUnder key (.map base) (.map entries) =
      .ok (.map (Entries.put entries (.text key) (.map merged))) := by
    unfold layUnder
    rw [Data.members, ok_bind, hentries, hmerged, ok_bind]
    rfl
  rw [hlaid, ← eq_underlay (by rw [hvalue]; exact hblock) hlaid]

section Each

variable {f : Data → Except Misuse Data} {h : Scalar → Data → Data}

theorem eq_map_of_mapM (hf : ∀ e ∈ definitions, ∀ d, f e.2 = .ok d → d = h e.1 e.2)
    (hlaid : (definitions.mapM fun e => do pure (e.1, ← f e.2)) = .ok laid) :
    laid = definitions.map fun e => (e.1, h e.1 e.2) := by
  induction definitions generalizing laid with
  | nil =>
    cases hlaid
    rfl
  | cons e rest ih =>
    obtain ⟨hfirst, hrest⟩ := List.forall_mem_cons.mp hf
    rw [List.mapM_cons] at hlaid
    obtain ⟨first, hone, hlaid⟩ := exists_of_bind_eq_ok hlaid
    obtain ⟨more, hmore, hlaid⟩ := exists_of_bind_eq_ok hlaid
    obtain ⟨d, hd, hone⟩ := exists_of_bind_eq_ok hone
    cases hlaid
    cases hone
    rw [List.map_cons, ih hrest hmore, hfirst d hd]

theorem mapM_map_eq_ok {before after : Scalar × Data → Data}
    (hf : ∀ e ∈ definitions, f (before e) = .ok (after e)) :
    ((definitions.map fun e => (e.1, before e)).mapM fun e => do pure (e.1, ← f e.2)) =
      .ok (definitions.map fun e => (e.1, after e)) := by
  induction definitions with
  | nil => rfl
  | cons e rest ih =>
    obtain ⟨hfirst, hrest⟩ := List.forall_mem_cons.mp hf
    rw [List.map_cons, List.mapM_cons, hfirst]
    exact bind_eq_ok rfl (bind_eq_ok (ih hrest) rfl)

end Each

end Closed

end Document

end StoreSchema
