import Mathlib.Data.List.Forall2
import StoreSchema.Proofs.Intake
import StoreSchema.Proofs.Keys

set_option autoImplicit false

namespace StoreSchema

namespace Extensions

/-- What an extension block gives; a falsy facet is not given. -/
structure Facets where
  options : Option (Entries Data)
  excluded : Option Data
  additional : Option (Entries Data)
  index : Option (Entries Data)
  validators : Option Data

def given (facet : Data) : Option Data :=
  if facet.isTruthy then some facet else none

def givenEntries (facet : Data) : Except Misuse (Option (Entries Data)) :=
  if facet.isTruthy then facet.toEntries.map some else .ok none

/-- The facets that a block gives, which is a mapping unless it is falsy; the index is read in the
blocks of definitions only. -/
structure Facets.Of (indexed : Bool) (block : Data) (facets : Facets) : Prop where
  members : block.isTruthy = true → ∃ entries, block.members = .ok entries
  options : givenEntries (block.value "schema-options") = .ok facets.options
  excluded : facets.excluded = given (block.value "exclude-schema")
  additional : givenEntries (block.value "additional-properties") = .ok facets.additional
  index : (if indexed then givenEntries (block.value "index") else .ok none) = .ok facets.index
  validators : facets.validators = given (block.value "validators")

def putGiven {α : Type} (es : Entries α) (key : Scalar) : Option α → Entries α
  | some v => Entries.put es key v
  | none => es

def addGlobal (x : Extensions) (facets : Facets) : Extensions :=
  { x with
    globalOptions := facets.options.getD x.globalOptions
    globalExcluded := facets.excluded.getD x.globalExcluded
    globalAdditional := facets.additional.getD x.globalAdditional
    validatorPaths := x.validatorPaths ++ facets.validators.toList }

def add (x : Extensions) (name : Scalar) (facets : Facets) : Extensions :=
  { x with
    options := putGiven x.options name facets.options
    excluded := putGiven x.excluded name facets.excluded
    additional := putGiven x.additional name facets.additional
    indexes := putGiven x.indexes name facets.index
    validatorPaths := x.validatorPaths ++ facets.validators.toList }

/-- A step of gathering succeeds and leads from what was gathered to something else. -/
def Leads (step : Gather Unit) (x x' : Extensions) : Prop :=
  step.run.run x = (.ok (), x')

section Steps

variable {x x' : Extensions} {α : Type}

private theorem leads_pure : Leads (pure ()) x x' ↔ x' = x := by
  constructor
  · intro h
    cases h
    rfl
  · rintro rfl
    rfl

private theorem leads_modify (f : Extensions → Extensions) : Leads (modify f) x x' ↔ x' = f x := by
  constructor
  · intro h
    cases h
    rfl
  · rintro rfl
    rfl

private theorem leads_bind (first : Gather Unit) (second : Unit → Gather Unit) :
    Leads (first >>= second) x x' ↔ ∃ y, Leads first x y ∧ Leads (second ()) y x' := by
  unfold Leads
  rw [run_run_bind]
  constructor
  · intro h
    rcases hfirst : first.run.run x with ⟨a, y⟩
    rw [hfirst] at h
    cases a with
    | error misuse => cases h
    | ok v => exact ⟨y, rfl, h⟩
  · rintro ⟨y, hfirst, hsecond⟩
    rw [hfirst]
    exact hsecond

private theorem leads_read (a : Except Misuse α) (next : α → Gather Unit) :
    Leads (liftM a >>= next) x x' ↔ ∃ v, a = .ok v ∧ Leads (next v) x x' := by
  unfold Leads
  cases a with
  | error misuse =>
    constructor
    · intro h
      cases h
    · rintro ⟨v, h, -⟩
      cases h
  | ok v =>
    constructor
    · exact fun h => ⟨v, rfl, h⟩
    · rintro ⟨w, hw, h⟩
      cases hw
      exact h

private theorem leads_onFacet (block : Entries Data) (name : String) (step : Data → Gather Unit) :
    Leads (onFacet block name step) x x' ↔
      if (Entries.value block name).isTruthy then Leads (step (Entries.value block name)) x x'
      else x' = x := by
  unfold onFacet
  dsimp only
  split
  · exact Iff.rfl
  · exact leads_pure

private theorem leads_entries (block : Entries Data) (name : String)
    (keep : Option (Entries Data) → Extensions → Extensions) {step : Entries Data → Gather Unit}
    {next : Unit → Gather Unit}
    (hstep : ∀ entries x x', Leads (step entries) x x' ↔ x' = keep (some entries) x)
    (hnone : ∀ x, keep none x = x) :
    Leads ((onFacet block name fun facet => do step (← facet.toEntries)) >>= next) x x' ↔
      ∃ entries, givenEntries (Entries.value block name) = .ok entries ∧
        Leads (next ()) (keep entries x) x' := by
  rw [leads_bind]
  simp only [leads_onFacet, givenEntries]
  split
  · simp only [leads_read, hstep]
    cases (Entries.value block name).toEntries with
    | error misuse => simp [Except.map]
    | ok entries => simp [Except.map]
  · simp [hnone]

private theorem leads_given (block : Entries Data) (name : String)
    (keep : Option Data → Extensions → Extensions) {step : Data → Gather Unit}
    {next : Unit → Gather Unit}
    (hstep : ∀ facet x x', Leads (step facet) x x' ↔ x' = keep (some facet) x)
    (hnone : ∀ x, keep none x = x) :
    Leads (onFacet block name step >>= next) x x' ↔
      Leads (next ()) (keep (given (Entries.value block name)) x) x' := by
  rw [leads_bind]
  simp only [leads_onFacet, given]
  split
  · simp [hstep]
  · simp [hnone]

private theorem leads_validators (block : Entries Data) :
    Leads (onFacet block "validators" addValidators) x x' ↔
      x' = { x with validatorPaths :=
        x.validatorPaths ++ (given (Entries.value block "validators")).toList } := by
  rw [leads_onFacet, given]
  split
  · exact leads_modify _
  · simp

end Steps

variable {block : Data} {x x' : Extensions}

private theorem facets_of_falsy {indexed : Bool} {facets : Facets} (h : block.isTruthy = false) :
    facets.Of indexed block ↔ facets = ⟨none, none, none, none, none⟩ := by
  constructor
  · rintro ⟨-, hoptions, hexcluded, hadditional, hindex, hvalidators⟩
    simp only [Data.value_of_falsy h] at hoptions hexcluded hadditional hindex hvalidators
    obtain ⟨options, excluded, additional, index, validators⟩ := facets
    cases hoptions
    cases hexcluded
    cases hadditional
    cases hvalidators
    cases indexed <;> cases hindex <;> rfl
  · rintro rfl
    refine ⟨fun htruthy => ?_, ?_, ?_, ?_, ?_, ?_⟩
    · rw [h] at htruthy
      cases htruthy
    all_goals simp only [Data.value_of_falsy h]
    all_goals try rfl
    cases indexed <;> rfl

theorem leads_registerGlobal : Leads (registerGlobal block) x x' ↔
    ∃ facets : Facets, facets.Of false block ∧ x' = x.addGlobal facets := by
  unfold registerGlobal
  cases htruthy : block.isTruthy with
  | false =>
    rw [if_neg Bool.false_ne_true, leads_pure]
    simp only [facets_of_falsy htruthy, exists_eq_left]
    simp [addGlobal]
  | true =>
    rw [if_pos rfl, leads_read]
    refine (exists_congr fun entries => and_congr_right fun _ =>
      (leads_entries entries "schema-options"
        (fun facet x => { x with globalOptions := facet.getD x.globalOptions })
        (fun _ _ _ => leads_modify _) fun _ => rfl).trans <|
      exists_congr fun options => and_congr_right fun _ =>
      (leads_given entries "exclude-schema"
        (fun facet x => { x with globalExcluded := facet.getD x.globalExcluded })
        (fun _ _ _ => leads_modify _) fun _ => rfl).trans <|
      (leads_entries entries "additional-properties"
        (fun facet x => { x with globalAdditional := facet.getD x.globalAdditional })
        (fun _ _ _ => leads_modify _) fun _ => rfl).trans <|
      exists_congr fun additional => and_congr_right fun _ => leads_validators entries).trans ?_
    constructor
    · rintro ⟨entries, hentries, options, hoptions, additional, hadditional, rfl⟩
      have hvalue := Data.value_of_members hentries
      rw [hvalue] at hoptions hadditional
      refine ⟨⟨options, _, additional, none, _⟩, ?_, rfl⟩
      rw [hvalue, hvalue]
      exact ⟨fun _ => ⟨entries, hentries⟩, hoptions, rfl, hadditional, rfl, rfl⟩
    · rintro ⟨facets, hof, rfl⟩
      obtain ⟨entries, hentries⟩ := hof.members htruthy
      have hvalue := Data.value_of_members hentries
      refine ⟨entries, hentries, facets.options, ?_, facets.additional, ?_, ?_⟩
      · rw [hvalue, hof.options]
      · rw [hvalue, hof.additional]
      · rw [hvalue, hvalue, ← hof.excluded, ← hof.validators]
        rfl

private theorem leads_named (name : Scalar) {keep : Scalar → Extensions → Extensions} :
    ∀ x x', Leads (liftM (Except.ok name : Except Misuse Scalar) >>= fun name => modify (keep name))
      x x' ↔ x' = keep name x := by
  intro x x'
  rw [leads_read]
  simp only [leads_modify]
  simp

theorem leads_register {name : Scalar} : Leads (register name block) x x' ↔
    ∃ facets : Facets, facets.Of true block ∧ x' = x.add name facets := by
  unfold register registerUnder
  cases htruthy : block.isTruthy with
  | false =>
    rw [if_neg Bool.false_ne_true, leads_pure]
    simp only [facets_of_falsy htruthy, exists_eq_left]
    simp [add, putGiven]
  | true =>
    rw [if_pos rfl, leads_read]
    refine (exists_congr fun entries => and_congr_right fun _ =>
      (leads_entries entries "schema-options"
        (fun facet x => { x with options := putGiven x.options name facet })
        (fun _ => leads_named name) fun _ => rfl).trans <|
      exists_congr fun options => and_congr_right fun _ =>
      (leads_given entries "exclude-schema"
        (fun facet x => { x with excluded := putGiven x.excluded name facet })
        (fun _ => leads_named name) fun _ => rfl).trans <|
      (leads_entries entries "additional-properties"
        (fun facet x => { x with additional := putGiven x.additional name facet })
        (fun _ => leads_named name) fun _ => rfl).trans <|
      exists_congr fun additional => and_congr_right fun _ =>
      (leads_entries entries "index"
        (fun facet x => { x with indexes := putGiven x.indexes name facet })
        (fun _ => leads_named name) fun _ => rfl).trans <|
      exists_congr fun index => and_congr_right fun _ => leads_validators entries).trans ?_
    constructor
    · rintro ⟨entries, hentries, options, hoptions, additional, hadditional, index, hindex, rfl⟩
      have hvalue := Data.value_of_members hentries
      rw [hvalue] at hoptions hadditional hindex
      refine ⟨⟨options, _, additional, index, _⟩, ?_, rfl⟩
      rw [hvalue, hvalue]
      exact ⟨fun _ => ⟨entries, hentries⟩, hoptions, rfl, hadditional, hindex, rfl⟩
    · rintro ⟨facets, hof, rfl⟩
      obtain ⟨entries, hentries⟩ := hof.members htruthy
      have hvalue := Data.value_of_members hentries
      have hindex : givenEntries (block.value "index") = .ok facets.index := hof.index
      refine ⟨entries, hentries, facets.options, ?_, facets.additional, ?_, facets.index, ?_, ?_⟩
      · rw [hvalue, hof.options]
      · rw [hvalue, hof.additional]
      · rw [hvalue, hindex]
      · rw [hvalue, hvalue, ← hof.excluded, ← hof.validators]
        rfl

def addAll (x : Extensions) (owns : Entries Facets) : Extensions :=
  owns.foldl (fun x e => x.add e.1 e.2) x

/-- The facets of definitions, each under the name of its own. -/
def FacetsOf (key : String) (definitions : Entries Data) (owns : Entries Facets) : Prop :=
  List.Forall₂ (fun e own => own.1 = e.1 ∧ own.2.Of true (e.2.value key)) definitions owns

private theorem leads_registerAll {key : String} {definitions : Entries Data} :
    Leads (definitions.forM fun e => register e.1 (e.2.value key)) x x' ↔
      ∃ owns, FacetsOf key definitions owns ∧ x' = x.addAll owns := by
  induction definitions generalizing x with
  | nil =>
    rw [List.forM_eq_forM, List.forM_nil, leads_pure]
    simp only [FacetsOf, List.forall₂_nil_left_iff, exists_eq_left]
    rfl
  | cons e rest ih =>
    rw [List.forM_eq_forM, List.forM_cons, leads_bind, ← List.forM_eq_forM]
    simp only [leads_register, ih, FacetsOf, List.forall₂_cons_left_iff]
    constructor
    · rintro ⟨_, ⟨facets, hof, rfl⟩, owns, howns, rfl⟩
      exact ⟨(e.1, facets) :: owns, ⟨_, _, ⟨rfl, hof⟩, howns, rfl⟩, rfl⟩
    · rintro ⟨_, ⟨⟨name, facets⟩, owns, ⟨rfl, hof⟩, howns, rfl⟩, rfl⟩
      exact ⟨_, ⟨facets, hof, rfl⟩, owns, howns, rfl⟩

/-- The facets of a document can be gathered exactly if those of every block can be read, and what
is gathered is what the blocks give. -/
theorem leads_gatherExtensions {key : String} {definitions : Entries Data} :
    Leads (Document.gatherExtensions key block definitions) x x' ↔
      ∃ (global : Facets) (owns : Entries Facets), global.Of false block ∧
        FacetsOf key definitions owns ∧ x' = (x.addGlobal global).addAll owns := by
  unfold Document.gatherExtensions
  rw [leads_bind]
  simp only [leads_registerGlobal, leads_registerAll]
  constructor
  · rintro ⟨_, ⟨global, hof, rfl⟩, owns, howns, rfl⟩
    exact ⟨global, owns, hof, howns, rfl⟩
  · rintro ⟨global, owns, hof, howns, rfl⟩
    exact ⟨_, ⟨global, hof, rfl⟩, owns, howns, rfl⟩

section AddAll

variable {owns : Entries Facets}

@[simp] theorem addAll_nil (x : Extensions) : x.addAll [] = x := rfl

@[simp] theorem addAll_cons (x : Extensions) (name : Scalar) (facets : Facets) :
    x.addAll ((name, facets) :: owns) = (x.add name facets).addAll owns := rfl

@[simp] theorem globalOptions_addAll (x : Extensions) (owns : Entries Facets) :
    (x.addAll owns).globalOptions = x.globalOptions := by
  induction owns generalizing x with
  | nil => rfl
  | cons own rest ih => exact ih (x.add own.1 own.2)

@[simp] theorem globalExcluded_addAll (x : Extensions) (owns : Entries Facets) :
    (x.addAll owns).globalExcluded = x.globalExcluded := by
  induction owns generalizing x with
  | nil => rfl
  | cons own rest ih => exact ih (x.add own.1 own.2)

@[simp] theorem globalAdditional_addAll (x : Extensions) (owns : Entries Facets) :
    (x.addAll owns).globalAdditional = x.globalAdditional := by
  induction owns generalizing x with
  | nil => rfl
  | cons own rest ih => exact ih (x.add own.1 own.2)

/-- What is gathered under a name is what the definition of that name gives, if there is one and it
gives anything. -/
theorem get?_addAll {α : Type} (field : Extensions → Entries α) (facet : Facets → Option α)
    (hfield : ∀ x name facets,
      field (x.add name facets) = putGiven (field x) name (facet facets))
    (howns : Entries.DistinctKeys owns) (x : Extensions) (name : Scalar) :
    Entries.get? (field (x.addAll owns)) name =
      ((Entries.get? owns name).bind facet).or (Entries.get? (field x) name) := by
  induction owns generalizing x with
  | nil => rfl
  | cons own rest ih =>
    obtain ⟨k, facets⟩ := own
    rw [addAll_cons, ih howns.tail, hfield, Entries.get?_cons]
    cases hk : k.same name with
    | true =>
      rw [howns.get?_tail hk]
      cases hfacet : facet facets <;> simp [putGiven, hfacet, Entries.get?_put, hk]
    | false => cases facet facets <;> simp [putGiven, Entries.get?_put, hk]

end AddAll

section FacetsOf

variable {key : String} {definitions : Entries Data} {owns : Entries Facets} {name : Scalar}
  {definition : Data}

theorem FacetsOf.keys_eq (h : FacetsOf key definitions owns) :
    Entries.keys owns = Entries.keys definitions :=
  (Entries.keys_of_forall₂ (fun _ _ hown => hown.1.symm) h).symm

theorem FacetsOf.exists_of_get? (h : FacetsOf key definitions owns)
    (hget : Entries.get? definitions name = some definition) :
    ∃ facets, Entries.get? owns name = some facets ∧ facets.Of true (definition.value key) := by
  rcases Entries.get?_of_forall₂ (fun _ _ hown => hown.1.symm) h name with
    ⟨hnone, -⟩ | ⟨k, found, facets, -, hown, hfound, hfacets⟩
  · rw [hnone] at hget
    cases hget
  · rw [hfound] at hget
    cases hget
    exact ⟨facets, hfacets, hown.2⟩

/-- What is gathered for a definition: its own facets, the options and the additional properties
laid on those of the document. -/
structure GathersFor (x : Extensions) (name : Scalar) (global own : Facets) : Prop where
  options : x.optionsFor name =
    Entries.overlay (global.options.getD []) (own.options.getD [])
  additional : x.additionalFor name =
    Entries.overlay (global.additional.getD []) (own.additional.getD [])
  index : Entries.get? x.indexes name = own.index
  excluded : Entries.get? x.excluded name = own.excluded

/-- Where no two definitions have the same name, each has its own facets gathered for it. -/
theorem FacetsOf.gathersFor (h : FacetsOf key definitions owns)
    (hdefinitions : Entries.DistinctKeys definitions) (global : Facets)
    (hget : Entries.get? definitions name = some definition) :
    ∃ own : Facets, own.Of true (definition.value key) ∧
      ((({} : Extensions).addGlobal global).addAll owns).GathersFor name global own := by
  obtain ⟨own, hown, hof⟩ := h.exists_of_get? hget
  have howns : Entries.DistinctKeys owns := by
    unfold Entries.DistinctKeys
    rw [h.keys_eq]
    exact hdefinitions
  have hfield : ∀ {α : Type} (field : Extensions → Entries α) (facet : Facets → Option α),
      (∀ x name facets, field (x.add name facets) = putGiven (field x) name (facet facets)) →
      field (({} : Extensions).addGlobal global) = [] →
      Entries.get? (field ((({} : Extensions).addGlobal global).addAll owns)) name = facet own := by
    intro α field facet hadd hnone
    rw [get?_addAll field facet hadd howns, hown, hnone]
    exact Option.or_none
  refine ⟨own, hof, ?_, ?_, ?_, ?_⟩
  · rw [optionsFor, globalOptions_addAll, hfield options Facets.options (fun _ _ _ => rfl) rfl]
    rfl
  · rw [additionalFor, globalAdditional_addAll,
      hfield additional Facets.additional (fun _ _ _ => rfl) rfl]
    rfl
  · exact hfield indexes Facets.index (fun _ _ _ => rfl) rfl
  · exact hfield excluded Facets.excluded (fun _ _ _ => rfl) rfl

end FacetsOf

end Extensions

end StoreSchema
