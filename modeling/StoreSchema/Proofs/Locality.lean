import StoreSchema.Proofs.Expansion
import StoreSchema.Proofs.Throughout
import StoreSchema.Proofs.Totality
import Mathlib.Logic.Relation

/-!
What a definition compiles to is decided by what it reaches.

A set of names encloses a definition if no reference in the definitions of the set, or in the
additional properties of that definition, leads out of it. Main statement of this module: contexts
that agree on such a set compile the definition to the same result or the same fault; so a change to
definitions that it does not reach changes nothing.
-/

set_option autoImplicit false

namespace StoreSchema

namespace Data

def referred (entries : Entries Data) : List String :=
  match Pointer.target (Entries.value entries "$ref") with
  | .ok target => [target]
  | .error _ => []

mutual
/-- The names that references inside the data lead to, at any depth. -/
def mentioned : Data → List String
  | .map entries => referred entries ++ mentionedEntries entries
  | .list items => mentionedItems items
  | .pair first second _ => mentioned first ++ mentioned second
  | _ => []

def mentionedItems : List Data → List String
  | [] => []
  | item :: rest => mentioned item ++ mentionedItems rest

def mentionedEntries : List (Scalar × Data) → List String
  | [] => []
  | (_, d) :: rest => mentioned d ++ mentionedEntries rest
end

variable {leads : String → Prop}

/-- The `$ref` of a mapping leads to a name of a set, if it leads to a name at all. -/
def LeadsInto (leads : String → Prop) (entries : Entries Data) : Prop :=
  ∀ target, Pointer.target (Entries.value entries "$ref") = .ok target → leads target

theorem leadsInto_iff {entries : Entries Data} :
    LeadsInto leads entries ↔ ∀ target ∈ referred entries, leads target := by
  unfold LeadsInto referred
  cases Pointer.target (Entries.value entries "$ref") <;> simp

mutual
theorem throughout_iff_mentioned (d : Data) :
    d.Throughout (LeadsInto leads) ↔ ∀ target ∈ d.mentioned, leads target := by
  match d with
  | .map entries =>
    simp only [Throughout, mentioned, List.forall_mem_append, leadsInto_iff,
      throughoutEntries_iff_mentioned entries]
  | .list items => simp only [Throughout, mentioned, throughoutItems_iff_mentioned items]
  | .pair first second _ =>
    simp only [Throughout, mentioned, List.forall_mem_append, throughout_iff_mentioned first,
      throughout_iff_mentioned second]
  | .scalar _ | .set _ _ | .recurrence _ => simp [Throughout, mentioned]

theorem throughoutItems_iff_mentioned (items : List Data) :
    ThroughoutItems (LeadsInto leads) items ↔ ∀ target ∈ mentionedItems items, leads target := by
  match items with
  | [] => simp [ThroughoutItems, mentionedItems]
  | item :: rest =>
    simp only [ThroughoutItems, mentionedItems, List.forall_mem_append,
      throughout_iff_mentioned item, throughoutItems_iff_mentioned rest]

theorem throughoutEntries_iff_mentioned (entries : List (Scalar × Data)) :
    ThroughoutEntries (LeadsInto leads) entries ↔
      ∀ target ∈ mentionedEntries entries, leads target := by
  match entries with
  | [] => simp [ThroughoutEntries, mentionedEntries]
  | (_, d) :: rest =>
    simp only [ThroughoutEntries, mentionedEntries, List.forall_mem_append,
      throughout_iff_mentioned d, throughoutEntries_iff_mentioned rest]
end

end Data

namespace Context

section Bound

variable {ctx : Context} {stack : List Scalar}

private theorem resolution_congr {embed embed' : Embed (Except Fault)}
    (h : ∀ owner field target many, ctx.isSelfReference owner target stack = false →
      embed field target many = embed' field target many) :
    ctx.resolution embed stack = ctx.resolution embed' stack := by
  funext owner field target many
  cases hself : ctx.isSelfReference owner target stack with
  | true => simp only [resolution, hself, if_true]
  | false => simp only [resolution, hself, h owner field target many hself]

private theorem embedAt_add (hguard : ctx.settings.detectCycles = true) (k depth : Nat) :
    ∀ (stack : List Scalar), ctx.HasRoom depth stack →
      ∀ (field : Scalar) (target : String) (many : Bool),
        (stack.any fun name => name.same (.text target)) = false →
          ctx.embedAt (depth + k) stack field target many =
            ctx.embedAt depth stack field target many := by
  induction depth with
  | zero => exact fun stack hroom => absurd hroom not_hasRoom_zero
  | succ depth ih =>
    intro stack hroom field target many hfresh
    rw [Nat.add_right_comm]
    simp only [embedAt]
    cases hnode : ctx.normalForm (.text target) with
    | error fault => simp only [error_bind]
    | ok node =>
      have hinner := hroom.push hfresh (hasDefinition_of_normalForm hnode)
      have hres := resolution_congr fun owner field target' many hself =>
        ih (stack ++ [Scalar.text target]) hinner field target' many
          (fresh_of_not_selfReference hguard hself)
      rw [hres]

theorem resolvesAs_referenceBound (hstack : ctx.Distinct stack) (k : Nat) :
    ctx.ResolvesAs (fun _ => True)
      (ctx.resolution (ctx.embedAt (ctx.referenceBound + k) stack) stack) (ctx.meaning stack) := by
  intro owner field target many _ hfield
  unfold meaning
  cases hguard : ctx.settings.detectCycles with
  | true =>
    have hsame := resolution_congr fun owner field target many hself =>
      embedAt_add hguard k ctx.referenceBound stack hstack.hasRoom field target many
        (fresh_of_not_selfReference hguard hself)
    rw [hsame]
  | false =>
    have hsame := embedAt_referenceBound hguard k hfield target many
    rw [embedAt_unguarded hguard _ [] stack, embedAt_unguarded hguard _ [] stack] at hsame
    simp only [resolution, hsame]

end Bound

abbrev Texts (names : Scalar → Prop) (target : String) : Prop := names (.text target)

/-- A set of names encloses a definition: it holds the name of the definition and every name that is
mentioned in a definition of the set or in the additional properties of that definition. -/
structure Encloses (ctx : Context) (name : Scalar) (names : Scalar → Prop) : Prop where
  self : names name
  definitions : ∀ other raw, names other → ctx.rawDefinition other = .ok raw →
    ∀ target ∈ raw.mentioned, names (.text target)
  additional : ∀ e ∈ ctx.extensions.additionalFor name, ∀ target ∈ e.2.mentioned,
    names (.text target)

/-- Two contexts have the same settings, version and validators, and the same facets for a
definition. -/
structure Matches (ctx ctx' : Context) (name : Scalar) : Prop where
  settings : ctx.settings = ctx'.settings
  version : ctx.version = ctx'.version
  validators : ctx.validators = ctx'.validators
  options : Entries.get? ctx.extensions.options name = Entries.get? ctx'.extensions.options name
  excluded : Entries.get? ctx.extensions.excluded name = Entries.get? ctx'.extensions.excluded name
  additional : Entries.get? ctx.extensions.additional name =
    Entries.get? ctx'.extensions.additional name
  indexes : Entries.get? ctx.extensions.indexes name = Entries.get? ctx'.extensions.indexes name
  globalOptions : ctx.extensions.globalOptions = ctx'.extensions.globalOptions
  globalExcluded : ctx.extensions.globalExcluded = ctx'.extensions.globalExcluded
  globalAdditional : ctx.extensions.globalAdditional = ctx'.extensions.globalAdditional

/-- Definitions that are the same under every name of a set: one definition, or none in both. -/
def SameUnder (names : Scalar → Prop) (definitions definitions' : Entries Data) : Prop :=
  ∀ other, names other → Entries.get? definitions other = Entries.get? definitions' other

section Agreement

variable {ctx ctx' : Context} {name : Scalar} {names : Scalar → Prop} {leads : String → Prop}

theorem SameUnder.rawDefinition (h : SameUnder names ctx.definitions ctx'.definitions)
    {other : Scalar} (hother : names other) :
    ctx.rawDefinition other = ctx'.rawDefinition other := by
  unfold Context.rawDefinition
  rw [h other hother]

theorem Encloses.confined (h : ctx.Encloses name names) :
    ctx.Confined (Data.LeadsInto (Texts names)) names where
  throughout other raw hother hraw :=
    (Data.throughout_iff_mentioned raw).mpr (h.definitions other raw hother hraw)
  fragments _ target hentries htarget := hentries target htarget

private theorem gather_congr {lookup lookup' : Scalar → Except Fault Data}
    (hlookup : ∀ target, leads target → lookup (.text target) = lookup' (.text target))
    {fragments : List Data}
    (hfragments : ∀ fragment ∈ fragments, fragment.Throughout (Data.LeadsInto leads))
    (gathered : Composition.Gathered) :
    gather lookup gathered fragments = gather lookup' gathered fragments := by
  induction fragments generalizing gathered with
  | nil => rfl
  | cons fragment rest ih =>
    obtain ⟨hfragment, hrest⟩ := List.forall_mem_cons.mp hfragments
    simp only [gather, ofExcept_eq]
    cases hsource : Composition.source fragment with
    | error fault => simp only [error_bind]
    | ok source =>
      have hnode : nodeOf lookup source = nodeOf lookup' source := by
        cases source with
        | inline node => rfl
        | named target =>
          obtain ⟨entries, rfl, htarget⟩ := exists_of_source_named hsource
          exact hlookup target (hfragment.1 target htarget)
      simp only [ok_bind, hnode, ih hrest]

private theorem merge_congr {lookup lookup' : Scalar → Except Fault Data}
    (hlookup : ∀ target, leads target → lookup (.text target) = lookup' (.text target))
    {node : Data} (hnode : node.Throughout (Data.LeadsInto leads)) :
    merge lookup node = merge lookup' node := by
  unfold merge
  cases hentries : node.members with
  | error misuse => simp only [orMisuse_error, ofExcept_eq, error_bind]
  | ok entries =>
    simp only [orMisuse_ok, ofExcept_eq, ok_bind]
    cases hfragments : Composition.fragments entries with
    | error misuse => simp only [orMisuse_error, error_bind]
    | ok fragments =>
      have hall := throughout_fragments (hnode.members hentries) hfragments
      simp only [orMisuse_ok, ok_bind, gather_congr hlookup hall]

private theorem Encloses.normalAt (h : ctx.Encloses name names)
    (hsame : SameUnder names ctx.definitions ctx'.definitions) (depth : Nat) :
    ∀ other, names other → ctx.normalAt depth other = ctx'.normalAt depth other := by
  induction depth with
  | zero => exact fun _ _ => rfl
  | succ depth ih =>
    intro other hother
    have hraw := hsame.rawDefinition hother
    simp only [Context.normalAt, readDefinition, ofExcept_eq, ← hraw]
    cases hfound : ctx.rawDefinition other with
    | error fault => simp only [error_bind]
    | ok raw =>
      have hmerge := merge_congr (fun target htarget => ih (.text target) htarget)
        (h.confined.throughout other raw hother hfound)
      simp only [ok_bind, hmerge]

theorem Encloses.normalForm (h : ctx.Encloses name names)
    (hsame : SameUnder names ctx.definitions ctx'.definitions) {other : Scalar}
    (hother : names other) : ctx.normalForm other = ctx'.normalForm other := by
  have hdepth := h.normalAt hsame
    (ctx.definitions.length + 1 + (ctx'.definitions.length + 1)) other hother
  rw [normalAt_add_eq_normalForm, Nat.add_comm, normalAt_add_eq_normalForm] at hdepth
  exact hdepth

/-- The references that an extension block may ask for lead to names of a set. -/
structure BlockLeads (leads : String → Prop) (extension base : Data) : Prop where
  extension : ∀ target, Pointer.target (extension.value "$ref") = .ok target → leads target
  base : ∀ target, Pointer.target (base.value "$ref") = .ok target → leads target

private theorem mem_of_overrideReference {extension base : Entries Data} {reference : Data × Bool}
    (h : ctx.overrideReference extension base = some reference) :
    reference.1 = Entries.value extension "$ref" ∨ reference.1 = Entries.value base "$ref" := by
  unfold overrideReference at h
  dsimp only at h
  split at h
  · split at h
    · split at h <;> cases h <;> exact Or.inr rfl
    · cases h
  · split at h
    · cases h
      exact Or.inl rfl
    · cases h

theorem Matches.isLegacy (h : ctx.Matches ctx' name) : ctx.isLegacy = ctx'.isLegacy := by
  unfold Context.isLegacy
  rw [h.version]

theorem Matches.extensionKey (h : ctx.Matches ctx' name) :
    ctx.extensionKey = ctx'.extensionKey := by
  unfold Context.extensionKey
  rw [h.isLegacy, h.settings]

theorem Matches.validator (h : ctx.Matches ctx' name) (validator : Data) :
    ctx.validator validator = ctx'.validator validator := by
  unfold Context.validator Context.validator.notFound
  rw [h.validators]

theorem Matches.override (h : ctx.Matches ctx' name)
    (hrequire : ∀ target, leads target →
      ctx.requireDefinition (.text target) = ctx'.requireDefinition (.text target))
    {extension base : Data} (hblock : BlockLeads leads extension base) (many : Bool) :
    ctx.override extension base many = ctx'.override extension base many := by
  have hreference : ctx.overrideReference = ctx'.overrideReference := by
    unfold overrideReference
    rw [h.isLegacy]
  unfold Context.override
  cases hbase : base.members with
  | error misuse => simp only [orMisuse_error, error_bind]
  | ok below =>
    cases hextension : extension.members with
    | error misuse => simp only [orMisuse_error, orMisuse_ok, ok_bind, error_bind]
    | ok above =>
      simp only [orMisuse_ok, ok_bind, ← hreference]
      cases hfound : ctx.overrideReference above below with
      | none => simp only [h.extensionKey, h.validator]
      | some reference =>
        dsimp only
        cases htarget : Pointer.target reference.1 with
        | error fault => simp only [error_bind]
        | ok target =>
          have hleads : leads target := by
            rcases mem_of_overrideReference hfound with heq | heq
            · rw [heq, Data.value_of_members hextension] at htarget
              exact hblock.extension target htarget
            · rw [heq, Data.value_of_members hbase] at htarget
              exact hblock.base target htarget
          simp only [ok_bind, hrequire target hleads]

private theorem leads_of_throughout {d : Data} (h : d.Throughout (Data.LeadsInto leads)) :
    ∀ target, Pointer.target (d.value "$ref") = .ok target → leads target :=
  h.value (fun reference => ∀ target, Pointer.target reference = .ok target → leads target)
    (fun _ hentries => hentries) fun _ hnull => by cases hnull

private theorem reads_ofEntries {key : String} {entries : Entries Data}
    (hown : (Entries.value entries key).Throughout (Data.LeadsInto leads))
    (hitems : (Entries.value entries "items").Throughout (Data.LeadsInto leads))
    (hreference : Data.LeadsInto leads entries) :
    (Form.ofEntries key entries).Reads leads (BlockLeads leads) := by
  unfold Form.ofEntries
  dsimp only
  split
  · exact ⟨leads_of_throughout hown, hreference⟩
  split
  · exact ⟨leads_of_throughout (hitems.throughout_value key), leads_of_throughout hitems⟩
  split
  · split
    · next target htarget =>
      unfold Form.referenceOf at htarget
      dsimp only at htarget
      split at htarget
      · exact leads_of_throughout hitems target htarget
      · exact hreference target htarget
    · trivial
  · split
    · trivial
    split
    · trivial
    split <;> trivial

private theorem eachReads (key : String) :
    Form.EachReads key leads (BlockLeads leads) (Data.LeadsInto leads) :=
  fun _ h => reads_ofEntries (Data.throughout_value h.values key)
    (Data.throughout_value h.values "items") h.1

theorem Encloses.nodeReads (h : ctx.Encloses name names) {other : Scalar} {node : Data}
    (hother : names other) (hnode : ctx.normalForm other = .ok node) (key : String) :
    NodeReads key (Texts names) (BlockLeads (Texts names)) node := by
  have hthroughout : ∀ entries, node.members = .ok entries →
      Data.NodeThroughout (Data.LeadsInto (Texts names)) entries :=
    fun _ hentries => h.confined.normalForm hother hnode hentries
  refine nodeReads_of_throughout (eachReads key) hthroughout fun entries hentries => ?_
  refine reads_ofEntries ?_ ?_ ?_
  · rw [Entries.value_erase, if_pos (Scalar.same_refl _)]
    exact Data.throughout_null
  · rw [Entries.value_erase]
    split
    · exact Data.throughout_null
    · exact (hthroughout entries hentries).throughout_value (by decide)
  · intro target htarget
    rw [Entries.value_erase] at htarget
    split at htarget
    · cases htarget
    · cases hraw : ctx.rawDefinition other with
      | error fault =>
        rw [normalForm_of_unregistered hraw] at hnode
        cases hnode
      | ok raw =>
        -- Merging leaves the reference of a definition as it is.
        rw [Data.value_of_members hentries, value_normalForm hraw hnode (by decide)] at htarget
        exact leads_of_throughout (h.confined.throughout other raw hother hraw) target htarget

theorem Encloses.agreesOn (h : ctx.Encloses name names) (hmatch : ctx.Matches ctx' name)
    (hsame : SameUnder names ctx.definitions ctx'.definitions) :
    ctx.AgreesOn ctx' (Texts names) (BlockLeads (Texts names)) := by
  have hrequire : ∀ target, Texts names target →
      ctx.requireDefinition (.text target) = ctx'.requireDefinition (.text target) := by
    intro target htarget
    unfold requireDefinition
    rw [hsame.rawDefinition htarget]
  exact
    { extensionKey := hmatch.extensionKey
      isReserved := fun field => by unfold isReserved; rw [hmatch.settings]
      override := fun extension base many hblock => hmatch.override hrequire hblock many
      requireDefinition := hrequire
      isSelfReference := by unfold isSelfReference; rw [hmatch.settings]
      normalForm := fun target htarget => h.normalForm hsame htarget
      reads := fun target node htarget hnode => h.nodeReads htarget hnode _ }

theorem AgreesOn.resolvesAs_meaning {blocks : Data → Data → Prop} {stack : List Scalar}
    (h : ctx.AgreesOn ctx' leads blocks) (hstack : ctx.Distinct stack)
    (hstack' : ctx'.Distinct stack) :
    ctx.ResolvesAs leads (ctx.meaning stack) (ctx'.meaning stack) := by
  intro owner field target many htarget hfield
  let depth := ctx.referenceBound + ctx'.referenceBound
  have hembed : ctx.resolution (ctx.embedAt depth stack) stack owner field target many =
      ctx'.resolution (ctx'.embedAt depth stack) stack owner field target many :=
    h.resolvesAs_resolution (fun field target many htarget _ =>
      h.embedAt_eq depth stack field target many htarget) stack owner field target many htarget
      hfield
  have hfield' : ctx'.isReserved field = false := by rw [← h.isReserved, hfield]
  rw [resolvesAs_referenceBound hstack _ owner field target many trivial hfield] at hembed
  rw [show depth = ctx'.referenceBound + ctx.referenceBound from Nat.add_comm _ _,
    resolvesAs_referenceBound hstack' _ owner field target many trivial hfield'] at hembed
  exact hembed

private theorem Encloses.fieldsMeaning (h : ctx.Encloses name names)
    (hagree : ctx.AgreesOn ctx' (Texts names) (BlockLeads (Texts names)))
    (hnormal : ctx.normalForm name = ctx'.normalForm name) :
    ctx.fieldsMeaning [] name = ctx'.fieldsMeaning [] name := by
  unfold Context.fieldsMeaning
  rw [← hnormal]
  cases hnode : ctx.normalForm name with
  | error fault => simp only [error_bind]
  | ok node =>
    have hstack : ctx.Distinct ([] ++ [name]) :=
      distinct_nil.push rfl (hasDefinition_of_normalForm hnode)
    have hstack' : ctx'.Distinct ([] ++ [name]) :=
      distinct_nil.push rfl (hasDefinition_of_normalForm (hnormal.symm.trans hnode))
    simp only [ok_bind]
    exact hagree.toAgrees.compileSetWith_eq (hagree.resolvesAs_meaning hstack hstack')
      (isComposed_normalForm hnode) (h.nodeReads h.self hnode _) name

private theorem throughout_wrapped {key : String} {block : Data} {entries : Entries Data}
    (h : block.Throughout (Data.LeadsInto leads)) (hentries : block.members = .ok entries) :
    (Data.map [(.text key, block)]).Throughout (Data.LeadsInto leads) := by
  refine ⟨fun target htarget => ?_, h, trivial⟩
  rw [Entries.value, Entries.get?_cons] at htarget
  split at htarget
  · -- The block is a mapping and no pointer.
    cases block with
    | scalar _ => cases hentries
    | _ => cases htarget
  · cases htarget

/-- A definition means the same in both contexts. -/
theorem Encloses.definitionMeaning (h : ctx.Encloses name names) (hmatch : ctx.Matches ctx' name)
    (hsame : SameUnder names ctx.definitions ctx'.definitions) :
    ctx.definitionMeaning [] name = ctx'.definitionMeaning [] name := by
  have hagree := h.agreesOn hmatch hsame
  have hfields := h.fieldsMeaning hagree (h.normalForm hsame h.self)
  have hexcluded : ctx.extensions.isExcluded name = ctx'.extensions.isExcluded name := by
    unfold Extensions.isExcluded
    rw [hmatch.excluded, hmatch.globalExcluded]
  have hindex : ctx.extensions.indexFor name = ctx'.extensions.indexFor name := by
    unfold Extensions.indexFor
    rw [hmatch.indexes]
  have hoptions : ctx.extensions.optionsFor name = ctx'.extensions.optionsFor name := by
    unfold Extensions.optionsFor
    rw [hmatch.options, hmatch.globalOptions]
  have hproperties : ctx.extensions.additionalFor name = ctx'.extensions.additionalFor name := by
    unfold Extensions.additionalFor
    rw [hmatch.additional, hmatch.globalAdditional]
  have hadditional := hagree.toAgrees.compileAdditional_eq
    (hagree.resolvesAs_meaning distinct_nil distinct_nil) name
    (ctx.extensions.additionalFor name) fun e he entries hentries =>
      Shape.reads_ofProperty (eachReads _) _
        (throughout_wrapped ((Data.throughout_iff_mentioned e.2).mpr (h.additional e he)) hentries)
  simp only [Context.definitionMeaning, compileDefinitionWith, hfields, hexcluded, hindex, hoptions,
    ← hproperties, hadditional]

end Agreement

/-- What a definition reaches: itself, and every name that is mentioned in its additional properties
or in a definition that it reaches. -/
inductive Reaches (ctx : Context) (name : Scalar) : Scalar → Prop
  | self : Reaches ctx name name
  | additional {e : Scalar × Data} {target : String}
      (hproperty : e ∈ ctx.extensions.additionalFor name) (htarget : target ∈ e.2.mentioned) :
      Reaches ctx name (.text target)
  | definition {other : Scalar} {raw : Data} {target : String} (hother : Reaches ctx name other)
      (hraw : ctx.rawDefinition other = .ok raw) (htarget : target ∈ raw.mentioned) :
      Reaches ctx name (.text target)

/-- One change of definitions that lets those of a set of names be. -/
inductive ChangesBeside (names : Scalar → Prop) : Entries Data → Entries Data → Prop
  /-- A definition is added or edited. -/
  | put {definitions : Entries Data} {other : Scalar}
      (hother : ∀ name, names name → other.same name = false) (d : Data) :
      ChangesBeside names definitions (Entries.put definitions other d)
  /-- A definition is removed. -/
  | erase {definitions : Entries Data} {other : Scalar}
      (hother : ∀ name, names name → other.same name = false) :
      ChangesBeside names definitions (Entries.erase definitions other)
  /-- The definitions are put in another order. -/
  | reorder {definitions definitions' : Entries Data} (hkeys : Entries.DistinctKeys definitions)
      (hperm : definitions.Perm definitions') : ChangesBeside names definitions definitions'

section Reach

variable {ctx : Context} {name : Scalar} {names : Scalar → Prop}

/-- What is reached encloses the definition. -/
theorem encloses_reaches : ctx.Encloses name (ctx.Reaches name) where
  self := .self
  definitions _ _ hother hraw _ htarget := .definition hother hraw htarget
  additional _ he _ htarget := .additional he htarget

theorem Encloses.of_reaches (h : ctx.Encloses name names) {other : Scalar}
    (hother : ctx.Reaches name other) : names other := by
  induction hother with
  | self => exact h.self
  | additional hproperty htarget => exact h.additional _ hproperty _ htarget
  | definition _ hraw htarget ih => exact h.definitions _ _ ih hraw _ htarget

private theorem ChangesBeside.sameUnder {definitions definitions' : Entries Data}
    (h : ChangesBeside names definitions definitions') :
    SameUnder names definitions definitions' := by
  intro other hother
  cases h with
  | put hbeside d => exact (Entries.get?_put_other _ d (hbeside other hother)).symm
  | erase hbeside => exact (Entries.get?_erase_other (hbeside other hother) _).symm
  | reorder hkeys hperm => exact Entries.get?_perm hkeys hperm other

theorem sameUnder_of_changes {definitions definitions' : Entries Data}
    (h : Relation.ReflTransGen (ChangesBeside names) definitions definitions') :
    SameUnder names definitions definitions' := by
  induction h with
  | refl => exact fun _ _ => rfl
  | tail _ hstep ih =>
    exact fun other hother => (ih other hother).trans (hstep.sameUnder other hother)

end Reach

/-- Contexts that agree on a set of names that encloses a definition compile it, from the start of a
run, to the same result or the same fault. Hence no changes to definitions that it does not reach
make a difference to it. -/
theorem compileDefinition_local (ctx ctx' : Context) (name : Scalar)
    (hmatch : ctx.Matches ctx' name) :
    (∀ names, ctx.Encloses name names → SameUnder names ctx.definitions ctx'.definitions →
      (ctx.compileDefinition name).outcome {} = (ctx'.compileDefinition name).outcome {}) ∧
    (Relation.ReflTransGen (ChangesBeside (ctx.Reaches name)) ctx.definitions ctx'.definitions →
      (ctx.compileDefinition name).outcome {} = (ctx'.compileDefinition name).outcome {}) := by
  have houtcome : ∀ {names : Scalar → Prop}, ctx.Encloses name names →
      SameUnder names ctx.definitions ctx'.definitions →
        (ctx.compileDefinition name).outcome {} = (ctx'.compileDefinition name).outcome {} := by
    intro names hclosed hsame
    rw [(compileDefinition_yields [] name {} rfl (remembers_start [])).1,
      (compileDefinition_yields [] name {} rfl (remembers_start [])).1]
    exact hclosed.definitionMeaning hmatch hsame
  exact ⟨fun names => houtcome, fun h => houtcome encloses_reaches (sameUnder_of_changes h)⟩

/-- An order refers to its parent and, by an additional property, to its seller; a draft is on its
own. -/
def trading : Context where
  definitions :=
    [(.text "Order", paired.declaring "#/definitions/Order"),
      (.text "Seller", .map [(.text "type", .text "string")]),
      (.text "Draft", paired.declaring "#/definitions/Order")]
  extensions :=
    { additional := [(.text "Order", [(.text "seller", .map
        [(.text "type", .text "objectId"), (.text "$ref", .text "#/definitions/Seller")])])] }

def undrafted : Context :=
  { trading with definitions := Entries.erase trading.definitions (.text "Draft") }

def invoiced : Context :=
  { trading with
    definitions := (Entries.put undrafted.definitions (.text "Invoice")
      (paired.declaring "#/definitions/Order")).reverse }

private theorem encloses_trading :
    trading.Encloses (.text "Order")
      fun other => other = .text "Order" ∨ other = .text "Seller" where
  self := Or.inl rfl
  definitions other raw hother hraw target htarget := by
    rcases hother with rfl | rfl
    · cases hraw
      have hmentioned : (paired.declaring "#/definitions/Order").mentioned = ["Order"] := rfl
      rw [hmentioned] at htarget
      exact Or.inl (congrArg Scalar.text (List.mem_singleton.mp htarget))
    · cases hraw
      cases htarget
  additional e he target htarget := by
    have hadditional : trading.extensions.additionalFor (.text "Order") =
        [(.text "seller", .map [(.text "type", .text "objectId"),
          (.text "$ref", .text "#/definitions/Seller")])] := rfl
    rw [hadditional] at he
    rw [List.mem_singleton.mp he] at htarget
    exact Or.inr (congrArg Scalar.text (List.mem_singleton.mp htarget))

private theorem beside_trading {word : String} (hword : word = "Draft" ∨ word = "Invoice") :
    ∀ name, trading.Reaches (.text "Order") name → (Scalar.text word).same name = false := by
  intro name hname
  rcases encloses_trading.of_reaches hname with rfl | rfl
  · rcases hword with rfl | rfl <;> decide
  · rcases hword with rfl | rfl <;> decide

/-- The order compiles to the same without the draft, and among other definitions. -/
theorem trading_local :
    (trading.compileDefinition (.text "Order")).outcome {} =
        (undrafted.compileDefinition (.text "Order")).outcome {} ∧
      (trading.compileDefinition (.text "Order")).outcome {} =
        (invoiced.compileDefinition (.text "Order")).outcome {} := by
  have hundrafted := compileDefinition_local trading undrafted (.text "Order")
    ⟨rfl, rfl, rfl, rfl, rfl, rfl, rfl, rfl, rfl, rfl⟩
  have hinvoiced := compileDefinition_local trading invoiced (.text "Order")
    ⟨rfl, rfl, rfl, rfl, rfl, rfl, rfl, rfl, rfl, rfl⟩
  constructor
  · apply hundrafted.1 _ encloses_trading
    rintro other (rfl | rfl)
    · rfl
    · rfl
  · have herase : ChangesBeside (trading.Reaches (.text "Order")) trading.definitions
        undrafted.definitions := .erase (beside_trading (Or.inl rfl))
    have hsteps := (Relation.ReflTransGen.single herase).tail
      (.put (beside_trading (Or.inr rfl)) (paired.declaring "#/definitions/Order"))
    refine hinvoiced.2 (hsteps.tail (.reorder ?_ ?_))
    · decide
    · exact (List.reverse_perm _).symm

end Context

end StoreSchema
