import Mathlib.Data.Fintype.EquivFin
import Mathlib.Data.Fintype.Sets
import Mathlib.Logic.Relation
import StoreSchema.Proofs.Meaning
import StoreSchema.Proofs.NormalForm
import StoreSchema.Proofs.Settling

/-!
Runs with the cycle guard, where the references between compositions have no cycle.

With the guard on, no definition is embedded while it is being compiled, and so references can be
followed in a row no more often than there are definitions. Main statement of this module: over
well-shaped definitions, compiling a definition gives a result or a fault of the definitions, and
the stack never holds a name twice.
-/

set_option autoImplicit false

namespace StoreSchema

variable {α β : Type}

/-- The outcome is a result of a kind or a fault of the definitions. -/
def SettlesIn (P : α → Prop) (outcome : Except Fault α) : Prop :=
  Settles outcome ∧ ∀ v, outcome = .ok v → P v

namespace SettlesIn

variable {P : α → Prop} {Q : β → Prop}

theorem ok {v : α} (h : P v) : SettlesIn P (.ok v) := by
  refine ⟨settles_ok v, ?_⟩
  intro w hw
  cases hw
  exact h

theorem error {fault : Fault} (h : fault.isOfDefinitions = true) :
    SettlesIn P (.error fault) := by
  refine ⟨settles_error h, ?_⟩
  intro v hv
  cases hv

theorem bind {a : Except Fault α} {f : α → Except Fault β} (h : SettlesIn P a)
    (hf : ∀ v, P v → SettlesIn Q (f v)) : SettlesIn Q (a >>= f) := by
  cases a with
  | error fault => exact error (h.1 fault rfl)
  | ok v => exact hf v (h.2 v rfl)

end SettlesIn

namespace Data

def IsNode (key : String) (d : Data) : Prop :=
  ∃ entries, d = .map entries ∧ NodeEntries key entries

end Data

namespace Composition.Gathered

structure WellShaped (key : String) (gathered : Gathered) : Prop where
  properties : Data.WellShapedEntries key gathered.properties
  required : ∀ name ∈ gathered.required, ∃ s, name = .text s

variable {key : String} {gathered : Gathered} {entries : Entries Data}

private theorem wellShaped_empty (key : String) : empty.WellShaped key where
  properties := trivial
  required name hname := by cases hname

private theorem propertiesOf_wellShaped (h : Data.NodeEntries key entries) :
    ∃ properties, propertiesOf entries = .ok properties ∧
      Data.WellShapedEntries key properties := by
  unfold propertiesOf
  rcases h.properties with hnull | ⟨properties, hmap, hproperties⟩
  · rw [hnull]
    exact ⟨[], rfl, trivial⟩
  · rw [hmap]
    dsimp only
    split
    · exact ⟨properties, rfl, hproperties⟩
    · exact ⟨[], rfl, trivial⟩

private theorem requiredOf_wellShaped (h : Data.NodeEntries key entries) :
    ∃ required, requiredOf entries = .ok required ∧ ∀ name ∈ required, ∃ s, name = .text s := by
  have hnone : ∃ required, (.ok [] : Except Misuse (List Scalar)) = .ok required ∧
      ∀ name ∈ required, ∃ s, name = .text s := ⟨[], rfl, fun name hname => by cases hname⟩
  unfold requiredOf
  rcases h.value "required" with hnull | ⟨hfits, -⟩
  · rw [hnull]
    exact hnone
  · have htexts := hfits.required rfl
    split
    · next names hnames =>
      rw [hnames] at htexts
      obtain ⟨texts, rfl⟩ : ∃ texts : List String, texts.map Data.text = names := by
        rw [← Set.mem_range, Set.range_list_map]
        exact fun name hname => (htexts name hname).imp fun s hs => hs.symm
      refine ⟨_, Data.mapM_key_texts texts, fun name hname => ?_⟩
      obtain ⟨s, -, rfl⟩ := List.mem_map.mp hname
      exact ⟨s, rfl⟩
    · next first second _ hpair =>
      rw [hpair] at htexts
      obtain ⟨⟨s, rfl⟩, ⟨t, rfl⟩⟩ := htexts
      refine ⟨[.text s, .text t], rfl, ?_⟩
      intro name hname
      rcases List.mem_cons.mp hname with rfl | hname
      · exact ⟨s, rfl⟩
      · exact ⟨t, List.mem_singleton.mp hname⟩
    · exact hnone

theorem WellShaped.add (hgathered : gathered.WellShaped key)
    (h : Data.NodeEntries key entries) :
    ∃ next, gathered.add (.map entries) = .ok next ∧ next.WellShaped key := by
  obtain ⟨properties, hproperties, hshaped⟩ := propertiesOf_wellShaped h
  obtain ⟨required, hrequired, htexts⟩ := requiredOf_wellShaped h
  refine ⟨⟨Entries.overlay gathered.properties properties,
    required.foldl addRequired gathered.required⟩, ?_, ?_⟩
  · simp only [Gathered.add, Data.members, ok_bind, hproperties, hrequired]
    rfl
  · exact
      { properties := hgathered.properties.overlay hshaped
        required := fun name hname =>
          (mem_of_mem_foldl_addRequired hname).elim (hgathered.required name) (htexts name) }

theorem WellShaped.finish (hgathered : gathered.WellShaped key) (h : Data.NodeEntries key entries) :
    Data.NodeEntries key (gathered.finish entries) := by
  have hplain := h.erase (.text "allOf")
  have hdeclared : Data.Declares (.text "properties") (.map gathered.properties) :=
    { properties := fun _ => Or.inr ⟨_, rfl⟩
      required := fun _ => trivial }
  have hnames : Data.Declares (.text "required") (.list (gathered.required.map .scalar)) :=
    { properties := fun hname => by
        injection hname with hname
        exact absurd hname (by decide)
      required := fun _ name hname => by
        obtain ⟨s, hs, rfl⟩ := List.mem_map.mp hname
        obtain ⟨t, rfl⟩ := hgathered.required s hs
        exact ⟨t, rfl⟩ }
  have hscalars : Data.WellShaped key (.list (gathered.required.map .scalar)) := by
    rw [Data.WellShaped, Data.wellShapedItems_iff]
    intro name hname
    obtain ⟨s, -, rfl⟩ := List.mem_map.mp hname
    exact trivial
  have hput : Data.NodeEntries key
      (if gathered.properties.isEmpty then Entries.erase entries (.text "allOf")
        else Entries.put (Entries.erase entries (.text "allOf")) (.text "properties")
          (.map gathered.properties)) := by
    split
    · exact hplain
    · exact hplain.put hdeclared hgathered.properties
  unfold Gathered.finish
  dsimp only
  split
  · exact hput
  · exact hput.put hnames hscalars

end Composition.Gathered

namespace Context

/-- The definition of the first name has a composition that refers to the second. -/
def Composes (ctx : Context) (name other : Scalar) : Prop :=
  ∃ (entries : Entries Data) (fragments : List Data) (fragment : Data) (target : String),
    ctx.rawDefinition name = .ok (.map entries) ∧
      Entries.value entries "allOf" = .list fragments ∧ fragment ∈ fragments ∧
      Composition.source fragment = .ok (.named target) ∧ other = .text target

/-- No definition is composed of itself, directly or through others. -/
def AcyclicComposition (ctx : Context) : Prop :=
  ∀ name, ¬ Relation.TransGen ctx.Composes name name

variable {ctx : Context}

theorem acyclicComposition_of_plain
    (h : ∀ e ∈ ctx.definitions, e.2.value "allOf" = .null) : ctx.AcyclicComposition := by
  have hnone : ∀ name other, ¬ ctx.Composes name other := by
    rintro name other ⟨entries, fragments, -, -, hraw, hlist, -⟩
    obtain ⟨key, hmem, -⟩ := exists_key_of_rawDefinition hraw
    have hnull : Entries.value entries "allOf" = .null := h _ hmem
    rw [hnull] at hlist
    cases hlist
  intro name hcycle
  obtain ⟨other, hstep, -⟩ := Relation.TransGen.head'_iff.mp hcycle
  exact hnone name other hstep

theorem acyclicComposition_of_rank (rank : Scalar → Nat)
    (h : ∀ name other, ctx.Composes name other → rank other < rank name) :
    ctx.AcyclicComposition := by
  have hlower : ∀ {name other}, Relation.TransGen ctx.Composes name other →
      rank other < rank name := by
    intro name other hpath
    induction hpath with
    | single hstep => exact h _ _ hstep
    | tail _ hstep ih => exact (h _ _ hstep).trans ih
  exact fun name hcycle => Nat.lt_irrefl _ (hlower hcycle)

private theorem wellFounded_of_acyclic {r : Scalar → Scalar → Prop}
    (hacyclic : ∀ key, ¬ Relation.TransGen r key key) (keys : List Scalar) :
    WellFounded fun below key : { key // key ∈ keys } => Relation.TransGen r key.1 below.1 := by
  have : IsTrans { key // key ∈ keys } fun below key => Relation.TransGen r key.1 below.1 :=
    ⟨fun _ _ _ hab hbc => hbc.trans hab⟩
  have : Std.Irrefl fun below key : { key // key ∈ keys } => Relation.TransGen r key.1 below.1 :=
    ⟨fun key h => hacyclic key.1 h⟩
  exact Finite.wellFounded_of_trans_of_irrefl _

/-- What holds of a name as soon as it holds of the names that its definition is composed of holds
of every name. -/
theorem AcyclicComposition.induction (hacyclic : ctx.AcyclicComposition) {P : Scalar → Prop}
    (step : ∀ name, (∀ other, ctx.Composes name other → P other) → P name) (name : Scalar) :
    P name := by
  -- A name that occurs in a composition is a key, or it has no definition and so no composition.
  have hcomposed : ∀ {other : Scalar}, (∀ key ∈ Entries.keys ctx.definitions,
      other = key → P key) → (∃ name, ctx.Composes name other) → P other := by
    rintro other hregistered ⟨name, -, -, -, target, -, -, -, -, rfl⟩
    cases hraw : ctx.rawDefinition (.text target) with
    | ok raw => exact hregistered _ (mem_keys_of_rawDefinition hraw) rfl
    | error fault =>
      apply step
      rintro other ⟨entries, -, -, -, hentries, -⟩
      rw [hraw] at hentries
      cases hentries
  have hkeys : ∀ key : { key // key ∈ Entries.keys ctx.definitions }, P key.1 := by
    intro key
    induction key using (wellFounded_of_acyclic hacyclic _).induction with
    | _ key ih =>
      apply step
      intro other hother
      refine hcomposed (fun below hbelow heq => ?_) ⟨_, hother⟩
      subst heq
      exact ih ⟨other, hbelow⟩ (.single hother)
  apply step
  intro other hother
  exact hcomposed (fun key hkey _ => hkeys ⟨key, hkey⟩) ⟨_, hother⟩

section NormalForms

variable {key : String} {lookup : Scalar → Except Fault Data}

private theorem settles_source (own : Entries Data) :
    SettlesIn (fun source => source = .inline (.map own) ∨ ∃ target, source = .named target)
      (Composition.source (.map own)) := by
  simp only [Composition.source, Data.mentions, orMisuse_ok, ok_bind]
  split
  · have htarget : SettlesIn (fun _ => True) (Pointer.target (Entries.value own "$ref")) :=
      ⟨settles_target _, fun _ _ => trivial⟩
    exact htarget.bind fun target _ => .ok (Or.inr ⟨target, rfl⟩)
  · exact .ok (Or.inl rfl)

private theorem settles_gather {fragments : List Data}
    (hfragments : ∀ fragment ∈ fragments, fragment.IsNode key)
    (hlookup : ∀ fragment ∈ fragments, ∀ target,
      Composition.source fragment = .ok (.named target) →
        SettlesIn (Data.IsNode key) (lookup (.text target)))
    {gathered : Composition.Gathered} (hgathered : gathered.WellShaped key) :
    SettlesIn (Composition.Gathered.WellShaped key) (gather lookup gathered fragments) := by
  induction fragments generalizing gathered with
  | nil => exact .ok hgathered
  | cons fragment rest ih =>
    obtain ⟨own, rfl, hown⟩ := hfragments _ List.mem_cons_self
    have hnode : ∀ source, Composition.source (.map own) = .ok source →
        SettlesIn (Data.IsNode key) (nodeOf lookup source) := by
      intro source hsource
      rcases (settles_source own).2 source hsource with rfl | ⟨target, rfl⟩
      · exact .ok ⟨own, rfl, hown⟩
      · exact hlookup _ List.mem_cons_self target hsource
    have hsource : SettlesIn (fun source => Composition.source (.map own) = .ok source)
        (Composition.source (.map own)) := ⟨(settles_source own).1, fun _ h => h⟩
    simp only [gather, ofExcept_eq]
    refine hsource.bind fun source hsource => (hnode source hsource).bind ?_
    rintro node ⟨entries, rfl, hentries⟩
    obtain ⟨next, hnext, hshaped⟩ := hgathered.add hentries
    simp only [hnext, orMisuse_ok, ok_bind]
    exact ih (fun fragment h => hfragments fragment (List.mem_cons_of_mem _ h))
      (fun fragment h => hlookup fragment (List.mem_cons_of_mem _ h)) hshaped

/-- Every normal form is a well-shaped mapping or a fault of the definitions. -/
def SettlesForms (ctx : Context) : Prop :=
  ∀ name, SettlesIn (Data.IsNode ctx.extensionKey) (ctx.normalForm name)

/-- Where compositions have no cycle, every normal form is a well-shaped mapping or a fault of the
definitions. -/
theorem settles_normalForm (hctx : ctx.WellShaped) (hacyclic : ctx.AcyclicComposition) :
    ctx.SettlesForms := by
  intro name
  induction name using hacyclic.induction with
  | _ name ih =>
    cases hraw : ctx.rawDefinition name with
    | error fault =>
      rw [normalForm_of_unregistered hraw]
      unfold rawDefinition at hraw
      split at hraw
      · cases hraw
      · cases hraw
        exact .error rfl
    | ok raw =>
      obtain ⟨key, hmem, -⟩ := exists_key_of_rawDefinition hraw
      obtain ⟨entries, hentries, hshaped, hfragments⟩ := hctx.definitions _ hmem
      replace hentries : raw = .map entries := hentries
      subst hentries
      rw [normalForm_eq, readDefinition_of_raw hraw]
      split
      · next hcomposed =>
        have htruthy : (Entries.value entries "allOf").isTruthy = true := hcomposed
        obtain ⟨fragments, hlist, hmaps⟩ := hfragments htruthy
        rw [hlist] at htruthy
        have hnodes : ∀ fragment ∈ fragments, fragment.IsNode ctx.extensionKey := by
          intro fragment hfragment
          obtain ⟨own, rfl⟩ := hmaps fragment hfragment
          have hvalue := hshaped.node.wellShaped_value "allOf"
          rw [hlist] at hvalue
          have hown : Data.WellShapedEntries ctx.extensionKey own :=
            Data.wellShapedItems_iff.mp hvalue _ hfragment
          exact ⟨own, rfl, hown.node⟩
        -- The induction is on compositions: the names that the fragments refer to come first.
        have hgather := settles_gather hnodes
          (fun fragment hfragment target hsource =>
            ih _ ⟨entries, fragments, fragment, target, hraw, hlist, hfragment, hsource, rfl⟩)
          (Composition.Gathered.wellShaped_empty ctx.extensionKey)
        have hlisted : Composition.fragments entries = .ok fragments := by
          simp only [Composition.fragments, hlist, htruthy, if_true, Data.items]
        simp only [merge, Data.members, orMisuse_ok, ofExcept_eq, ok_bind, hlisted]
        have hfinish := hgather.bind fun gathered hgathered =>
          SettlesIn.ok (hgathered.finish hshaped.node)
        exact hfinish.bind fun merged hmerged => .ok ⟨merged, rfl, hmerged⟩
      · exact .ok ⟨entries, rfl, hshaped.node⟩

end NormalForms

end Context

namespace Context

variable {ctx : Context} {stack : List Scalar}

/-- No name is on the stack twice. -/
def Unrepeated (stack : List Scalar) : Prop :=
  (stack.map Scalar.identity).Nodup

instance (stack : List Scalar) : Decidable (Unrepeated stack) :=
  inferInstanceAs (Decidable (stack.map Scalar.identity).Nodup)

theorem Unrepeated.push (h : Unrepeated stack) {name : Scalar}
    (hfresh : (stack.any fun other => other.same name) = false) :
    Unrepeated (stack ++ [name]) := by
  unfold Unrepeated
  rw [List.map_append, List.nodup_append]
  refine ⟨h, List.nodup_singleton _, ?_⟩
  intro identity hidentity other hother heq
  obtain ⟨below, hbelow, rfl⟩ := List.mem_map.mp hidentity
  rw [List.mem_singleton.mp hother] at heq
  have hsame := List.any_eq_false.mp hfresh below hbelow
  exact hsame (Scalar.same_iff.mpr heq)

structure Distinct (ctx : Context) (stack : List Scalar) : Prop where
  unrepeated : Unrepeated stack
  registered : ∀ name ∈ stack, ctx.hasDefinition name = true

theorem distinct_nil : ctx.Distinct [] where
  unrepeated := List.nodup_nil
  registered name hname := by cases hname

/-- There are no more names on a stack than definitions. -/
theorem Distinct.length_le (h : ctx.Distinct stack) : stack.length ≤ ctx.definitions.length := by
  have hsubset : stack.map Scalar.identity ⊆ ctx.definitions.map fun e => e.1.identity := by
    intro identity hidentity
    obtain ⟨name, hname, rfl⟩ := List.mem_map.mp hidentity
    obtain ⟨d, hd⟩ := Option.isSome_iff_exists.mp (h.registered name hname)
    obtain ⟨key, hmem, hkey⟩ := Entries.exists_mem_of_get? hd
    exact List.mem_map.mpr ⟨_, hmem, Scalar.same_iff.mp hkey⟩
  have hlength := List.Nodup.length_le_of_subset h.unrepeated hsubset
  rw [List.length_map, List.length_map] at hlength
  exact hlength

theorem Distinct.push (h : ctx.Distinct stack) {name : Scalar}
    (hfresh : (stack.any fun other => other.same name) = false)
    (hregistered : ctx.hasDefinition name = true) : ctx.Distinct (stack ++ [name]) := by
  refine ⟨h.unrepeated.push hfresh, ?_⟩
  intro other hother
  rcases List.mem_append.mp hother with hother | hother
  · exact h.registered other hother
  · rw [List.mem_singleton.mp hother]
    exact hregistered

/-- As many references may be followed in a row as there are definitions that are not on the stack,
and one more. -/
structure HasRoom (ctx : Context) (depth : Nat) (stack : List Scalar) : Prop where
  distinct : ctx.Distinct stack
  room : ctx.definitions.length + 1 ≤ depth + stack.length

theorem not_hasRoom_zero : ¬ctx.HasRoom 0 stack := by
  intro h
  have hlength := h.distinct.length_le
  have hroom := h.room
  omega

theorem HasRoom.push {depth : Nat} (h : ctx.HasRoom (depth + 1) stack) {name : Scalar}
    (hfresh : (stack.any fun other => other.same name) = false)
    (hregistered : ctx.hasDefinition name = true) : ctx.HasRoom depth (stack ++ [name]) where
  distinct := h.distinct.push hfresh hregistered
  room := by
    have hroom := h.room
    rw [List.length_append, List.length_singleton]
    omega

theorem Distinct.hasRoom (h : ctx.Distinct stack) : ctx.HasRoom ctx.referenceBound stack where
  distinct := h
  room := by
    have hbound := Nat.le_mul_self (ctx.definitions.length + 1)
    unfold referenceBound
    omega

theorem fresh_of_not_selfReference (hguard : ctx.settings.detectCycles = true) {owner : Scalar}
    {target : String} (h : ctx.isSelfReference owner target stack = false) :
    (stack.any fun name => name.same (.text target)) = false := by
  unfold isSelfReference at h
  rw [hguard, Bool.true_and, Bool.or_eq_false_iff] at h
  exact h.2

variable {resolve : Resolve (Except Fault)}

theorem SettlesForms.fields (hforms : ctx.SettlesForms) {name : Scalar}
    (hres : ∀ node, ctx.normalForm name = .ok node → ctx.SettlesReferences resolve) :
    Settles (do
      let node ← ctx.normalForm name
      ctx.compileSetWith ctx.normalForm resolve name node) := by
  refine (hforms name).1.bind fun node hnode => ?_
  obtain ⟨entries, rfl, hentries⟩ := (hforms name).2 node hnode
  exact settles_compileSetWith (hres _ hnode) hentries (isComposed_normalForm hnode) name

theorem SettlesForms.embedded (hforms : ctx.SettlesForms) {name : Scalar}
    (hres : ∀ node, ctx.normalForm name = .ok node → ctx.SettlesReferences resolve)
    (field : Scalar) (many : Bool) :
    Settles (do
      let node ← ctx.normalForm name
      ctx.compileTarget ctx.normalForm resolve name field many node) := by
  refine (hforms name).1.bind fun node hnode => ?_
  obtain ⟨entries, rfl, hentries⟩ := (hforms name).2 node hnode
  exact settles_compileTarget (hres _ hnode) hentries (isComposed_normalForm hnode) _ field many

theorem settles_resolution {embed : Embed (Except Fault)}
    (hembed : ∀ owner field target many, ctx.isSelfReference owner target stack = false →
      Settles (embed field target many)) :
    ctx.SettlesReferences (ctx.resolution embed stack) := by
  intro owner field target many _
  unfold resolution
  rw [ofExcept_eq]
  refine (settles_requireDefinition _).bind fun _ _ => ?_
  split
  · exact settles_ok _
  · next hself => exact hembed owner field target many (Bool.eq_false_iff.mpr hself)

/-- What is embedded settles if it is not on the stack and there is room to follow references. -/
theorem settles_embedAt (hguard : ctx.settings.detectCycles = true) (hforms : ctx.SettlesForms)
    (depth : Nat) : ∀ (stack : List Scalar), ctx.HasRoom depth stack →
      ∀ (field : Scalar) (target : String) (many : Bool),
        (stack.any fun name => name.same (.text target)) = false →
          Settles (ctx.embedAt depth stack field target many) := by
  induction depth with
  | zero => exact fun stack hroom => absurd hroom not_hasRoom_zero
  | succ depth ih =>
    intro stack hroom field target many hfresh
    refine hforms.embedded (fun node hnode => ?_) field many
    have hinner := hroom.push hfresh (hasDefinition_of_normalForm hnode)
    refine settles_resolution fun owner field target' many hself => ?_
    exact ih _ hinner field target' many (fresh_of_not_selfReference hguard hself)

theorem settles_meaning (hguard : ctx.settings.detectCycles = true) (hforms : ctx.SettlesForms)
    (hstack : ctx.Distinct stack) : ctx.SettlesReferences (ctx.meaning stack) :=
  settles_resolution fun _ field target many hself =>
    settles_embedAt hguard hforms _ stack hstack.hasRoom field target many
      (fresh_of_not_selfReference hguard hself)

theorem settles_definitionMeaning (hguard : ctx.settings.detectCycles = true)
    (hctx : ctx.WellShaped) (hforms : ctx.SettlesForms) (name : Scalar) :
    Settles (ctx.definitionMeaning [] name) := by
  have hreferences := settles_meaning hguard hforms distinct_nil
  refine settles_compileDefinitionWith hctx hreferences ?_ name
  refine hforms.fields fun node hnode => ?_
  have hstack : ctx.Distinct ([] ++ [name]) :=
    distinct_nil.push rfl (hasDefinition_of_normalForm hnode)
  exact settles_meaning hguard hforms hstack

/-- Entering a definition under watch: the alarm is raised as soon as a name is on the stack
twice. -/
def watched (alarm : Fault) : Enter := fun name step =>
  Compile.within name do
    if Unrepeated (← get).resolving then step else throw alarm

private theorem enters_watched (alarm : Fault) : ctx.Enters Unrepeated (watched alarm) := by
  intro α stack name step value hallowed hstep
  apply within_yields
  intro p hstack hmem
  have hunrepeated : Unrepeated p.resolving := by
    rw [hstack]
    exact hallowed
  rw [Compile.outcome_get_bind, Compile.after_get_bind, if_pos hunrepeated]
  exact hstep p hstack hmem

private theorem allows_unrepeated (hguard : ctx.settings.detectCycles = true) :
    ctx.Allows Unrepeated :=
  fun _ _ _ hstack hself => hstack.push (fresh_of_not_selfReference hguard hself)

/-- With the guard on, over well-shaped definitions whose compositions have no cycle, compiling a
definition gives a result or a fault of the definitions; and no watch would notice a name that is
on the stack twice. -/
theorem compileDefinition_total (ctx : Context) (p : Progress) (name : Scalar)
    (hguard : ctx.settings.detectCycles = true) (hctx : ctx.WellShaped)
    (hacyclic : ctx.AcyclicComposition) (hstack : p.resolving = []) (hmem : ctx.Remembers p) :
    Settles ((ctx.compileDefinition name).outcome p) ∧
      ∀ alarm, (ctx.compileDefinitionBy (watched alarm) name).outcome p =
        (ctx.compileDefinition name).outcome p := by
  have hforms : ctx.SettlesForms := settles_normalForm hctx hacyclic
  have hplain := (compileDefinition_yields [] name p hstack hmem).1
  constructor
  · rw [hplain]
    exact settles_definitionMeaning hguard hctx hforms name
  · intro alarm
    have hnil : Unrepeated [] := List.nodup_nil
    have hname : Unrepeated ([] ++ [name]) := List.nodup_singleton name.identity
    -- The watch is one more way of entering definitions, and it lets every stack through that the
    -- guard lets arise.
    have hwatched := compileDefinitionBy_yields (enters_watched alarm) (allows_unrepeated hguard)
      hnil hname p hstack hmem
    exact hwatched.1.trans hplain.symm

/-- Two definitions that refer to each other, compiled with the guard on. -/
def paired : Context where
  definitions :=
    [(.text "A", declaring "#/definitions/B"), (.text "B", declaring "#/definitions/A")]
  settings := { detectCycles := true }
where
  /-- A node with one property, a reference. -/
  declaring (pointer : String) : Data :=
    .map [(.text "properties", .map [(.text "other", .map [(.text "$ref", .text pointer)])])]

private theorem isDefinition_declaring (pointer : String) :
    (paired.declaring pointer).IsDefinition "_mongoose" := by
  refine ⟨_, rfl, ⟨?_, ⟨?_, ⟨?_, trivial, trivial⟩, trivial⟩, trivial⟩, fun h => by cases h⟩
  · exact
      { properties := fun _ => Or.inr ⟨_, rfl⟩
        required := fun h => by
          injection h with h
          exact absurd h (by decide)
        extension := fun h => by
          injection h with h
          exact absurd h (by decide) }
  · exact Data.Fits.other _ (by decide) (by decide) (by decide)
  · exact Data.Fits.other _ (by decide) (by decide) (by decide)

private theorem wellShaped_paired : paired.WellShaped where
  definitions e he := by
    rcases List.mem_cons.mp he with rfl | he
    · exact isDefinition_declaring _
    · rw [List.mem_singleton.mp he]
      exact isDefinition_declaring _
  globalAdditional e he := by cases he
  additional facet hfacet := by cases hfacet
  indexes facet hfacet := by cases hfacet

private theorem acyclic_paired : paired.AcyclicComposition := by
  apply acyclicComposition_of_plain
  intro e he
  rcases List.mem_cons.mp he with rfl | he
  · rfl
  · rw [List.mem_singleton.mp he]
    rfl

/-- Definitions that refer to each other compile with the guard on. -/
theorem paired_total :
    Settles ((paired.compileDefinition (.text "A")).outcome {}) ∧
      ∀ alarm, (paired.compileDefinitionBy (watched alarm) (.text "A")).outcome {} =
        (paired.compileDefinition (.text "A")).outcome {} :=
  compileDefinition_total paired {} (.text "A") rfl wellShaped_paired acyclic_paired rfl
    (remembers_start [])

end Context

end StoreSchema
