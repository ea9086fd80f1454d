import StoreSchema.Proofs.Expansion
import StoreSchema.Proofs.Intake
import StoreSchema.Proofs.Totality

/-!
Definitions that are embedded in themselves.

Without the cycle guard a reference is cut off only where it stands in a field of the definition
that it leads to. In an inline object of that definition, or where the definition is embedded under
the name of a field, it is followed. Main statement of this module: over well-shaped definitions
whose compositions have no cycle, compiling a document ends if and only if it meets no reference
that leads to one that leads back to itself; and it does end where every reference that is not cut
off leads to a definition of a lower rank.
-/

set_option autoImplicit false

namespace StoreSchema

namespace Context

variable (ctx : Context)

/-- What is embedded for a reference, if as many are followed in a row as matter. -/
def embedded : Embed (Except Fault) := ctx.embedAt ctx.referenceBound []

/-- Embedding what the first reference leads to meets the second one. -/
def Embeds (s s' : Site) : Prop :=
  s' ∈ (ctx.expand (noted ctx.embedded) s.field s.target false).met

/-- The references that compiling every definition meets. -/
def references : List Site := (ctx.expandAll (noted ctx.embedded)).met

/-- Compiling every definition meets a reference that leads to one that leads back to itself. -/
def Reenters : Prop :=
  ∃ s ∈ ctx.references, ∃ back, Relation.ReflTransGen ctx.Embeds s back ∧
    Relation.TransGen ctx.Embeds back back

variable {ctx} {s s' : Site}

section Cycle

/-- Following at most `depth` references in a row, what is embedded for the reference does not
end. -/
def EndlessAt (ctx : Context) (depth : Nat) (s : Site) : Prop :=
  ¬ Ends (ctx.embedAt depth [] s.field s.target false)

private theorem stops_noted {depth : Nat} (hle : depth ≤ ctx.referenceBound) (field : Scalar)
    (target : String) (many : Bool) :
    (noted ctx.embedded field target many).Stops (ctx.EndlessAt depth)
      (ctx.embedAt depth [] field target many) where
  approximates := embedAt_mono hle [] field target many
  endless := by
    intro s hs hstuck hends
    rw [List.mem_singleton.mp hs] at hstuck
    exact hstuck fun h => hends (embedAt_fault_many h many)

theorem Embeds.endlessAt (hguard : ctx.settings.detectCycles = false) (h : ctx.Embeds s s')
    {depth : Nat} (hle : depth ≤ ctx.referenceBound) (hstuck : ctx.EndlessAt depth s') :
    ctx.EndlessAt (depth + 1) s := by
  have hstops : (ctx.expand (noted ctx.embedded) s.field s.target false).Stops
      (ctx.EndlessAt depth) (ctx.expand (ctx.embedAt depth []) s.field s.target false) :=
    expand_related (Traced.sequential_stops _)
      (fun field target many _ => stops_noted hle field target many) _ _ _
  unfold EndlessAt
  rw [embedAt_succ hguard]
  exact hstops.endless s' h hstuck

/-- A reference that leads to a cycle does not end, however many references are followed. -/
theorem endlessAt_of_cycle (hguard : ctx.settings.detectCycles = false) {back : Site}
    (hcycle : Relation.TransGen ctx.Embeds back back) {depth : Nat}
    (hle : depth ≤ ctx.referenceBound) (h : Relation.TransGen ctx.Embeds s back) :
    ctx.EndlessAt depth s := by
  induction depth generalizing s with
  | zero => exact fun hends => hends rfl
  | succ depth ih =>
    -- Each step towards the cycle costs one reference, and from the cycle the way goes on to it.
    obtain ⟨next, hstep, hrest⟩ := Relation.TransGen.head'_iff.mp h
    have hnext : ctx.EndlessAt depth next :=
      ih (Nat.le_of_succ_le hle) (Relation.TransGen.trans_right hrest hcycle)
    exact hstep.endlessAt hguard (Nat.le_of_succ_le hle) hnext

theorem Reenters.not_ends (hguard : ctx.settings.detectCycles = false) (h : ctx.Reenters) :
    ¬ Ends ctx.compileAll := by
  obtain ⟨s, hs, back, hpath, hcycle⟩ := h
  have hstuck : ctx.EndlessAt ctx.referenceBound s :=
    endlessAt_of_cycle hguard hcycle le_rfl (Relation.TransGen.trans_right hpath hcycle)
  have hstops : (ctx.expandAll (noted ctx.embedded)).Stops (ctx.EndlessAt ctx.referenceBound)
      (ctx.expandAll (ctx.embedAt ctx.referenceBound [])) :=
    expandAll_related (Traced.sequential_stops _) fun field target many _ =>
      stops_noted le_rfl field target many
  rw [compileAll_eq_expandAll hguard]
  exact hstops.endless s hs hstuck

end Cycle

section Stuck

theorem embedded_eq (hguard : ctx.settings.detectCycles = false) {field : Scalar}
    (hopen : ctx.isReserved field = false) (target : String) (many : Bool) :
    ctx.embedded field target many = ctx.expand ctx.embedded field target many := by
  have h := embedAt_referenceBound hguard 1 hopen target many
  rw [embedAt_succ hguard] at h
  exact h.symm

/-- What is embedded for the reference does not settle. -/
structure Stuck (ctx : Context) (s : Site) : Prop where
  isOpen : ctx.isReserved s.field = false
  unsettled : ¬ Settles (ctx.embedded s.field s.target false)

def subdued (embed : Embed (Except Fault)) : Embed (Except Fault) := fun field target many =>
  match embed field target many with
  | .ok v => .ok v
  | .error fault => .error (if fault.isOfDefinitions then fault else .noItems)

private theorem settles_subdued (embed : Embed (Except Fault)) (field : Scalar) (target : String)
    (many : Bool) : Settles (subdued embed field target many) := by
  unfold subdued
  split
  · exact settles_ok _
  · apply settles_error
    split
    · assumption
    · rfl

private theorem subdued_of_settles {embed : Embed (Except Fault)} {field : Scalar} {target : String}
    {many : Bool} (h : Settles (embed field target many)) :
    subdued embed field target many = embed field target many := by
  unfold subdued
  split
  · next v hv => exact hv.symm
  · next fault hfault =>
    rw [if_pos (h fault hfault)]
    exact hfault.symm

private theorem endsIn_noted {field : Scalar} (hopen : ctx.isReserved field = false)
    (target : String) (many : Bool) :
    (noted ctx.embedded field target many).EndsIn ctx.Stuck
      (subdued ctx.embedded field target many) := by
  by_cases h : Settles (ctx.embedded field target many)
  · exact Or.inl (subdued_of_settles h).symm
  · refine Or.inr ⟨⟨field, target⟩, List.mem_singleton_self _, hopen, fun hsettles => h ?_⟩
    intro fault hfault
    exact hsettles fault (embedAt_fault_many hfault false)

private theorem settles_resolution_subdued :
    ctx.SettlesReferences (ctx.resolution (subdued ctx.embedded) []) :=
  settles_resolution fun _ field target many _ => settles_subdued _ field target many

/-- Embedding what a stuck reference leads to meets a stuck reference. -/
theorem Stuck.embeds (hguard : ctx.settings.detectCycles = false) (hforms : ctx.SettlesForms)
    (h : ctx.Stuck s) : ∃ next, ctx.Embeds s next ∧ ctx.Stuck next := by
  have hends : (ctx.expand (noted ctx.embedded) s.field s.target false).EndsIn ctx.Stuck
      (ctx.expand (subdued ctx.embedded) s.field s.target false) :=
    expand_related (Traced.sequential_endsIn _)
      (fun field target many hopen => endsIn_noted hopen target many) _ _ _
  -- Were nothing stuck met, embedding would end as with subdued references, and so would settle.
  rcases hends with heq | hmet
  · apply absurd _ h.unsettled
    rw [embedded_eq hguard h.isOpen, ← outcome_expand_noted, heq]
    simp only [expand, ofExcept_eq]
    exact hforms.embedded (fun _ _ => settles_resolution_subdued) s.field false
  · exact hmet

theorem exists_stuck_of_not_ends (hguard : ctx.settings.detectCycles = false)
    (hctx : ctx.WellShaped) (hforms : ctx.SettlesForms) (h : ¬ Ends ctx.compileAll) :
    ∃ s ∈ ctx.references, ctx.Stuck s := by
  have hends : (ctx.expandAll (noted ctx.embedded)).EndsIn ctx.Stuck
      (ctx.expandAll (subdued ctx.embedded)) :=
    expandAll_related (Traced.sequential_endsIn _) fun field target many hopen =>
      endsIn_noted hopen target many
  have houtcome : (ctx.expandAll (noted ctx.embedded)).outcome = ctx.expandAll ctx.embedded :=
    expandAll_related Traced.sequential_outcome fun _ _ _ _ => rfl
  rcases hends with heq | hmet
  · apply absurd _ h
    rw [compileAll_eq_expandAll hguard]
    refine Settles.ends ?_
    rw [← embedded, ← houtcome, heq]
    simp only [expandAll, ofExcept_eq]
    refine settles_compileEach (fun name => ?_) _
    refine settles_compileDefinitionWith hctx settles_resolution_subdued ?_ name
    exact hforms.fields fun _ _ => settles_resolution_subdued
  · exact hmet

end Stuck

section Return

variable {field field' : Scalar}

/-- What a reference embeds is embedded by the same one under another field that is named after no
definition. -/
theorem Embeds.renamed (hguard : ctx.settings.detectCycles = false) (hfield : ctx.Foreign field)
    (hfield' : ctx.Foreign field') (hopen : ctx.isReserved field = false)
    (hopen' : ctx.isReserved field' = false) {twin : Site} (h : ctx.Embeds s s')
    (htwin : Renamed field field' s twin) :
    ∃ twin', ctx.Embeds twin twin' ∧ Renamed field field' s' twin' := by
  rcases htwin with rfl | ⟨target, rfl, rfl⟩
  · exact ⟨s', h, Or.inl rfl⟩
  · have hagree := embedAt_foreign hguard hfield hfield' hopen hopen' ctx.referenceBound
    exact (expand_foreign hfield hfield' hopen hopen' hagree target false).met s' h

private theorem transGen_renamed (hguard : ctx.settings.detectCycles = false)
    (hfield : ctx.Foreign field) (hfield' : ctx.Foreign field')
    (hopen : ctx.isReserved field = false) (hopen' : ctx.isReserved field' = false) {twin : Site}
    (h : Relation.TransGen ctx.Embeds s s') (htwin : Renamed field field' s twin) :
    ∃ twin', Relation.TransGen ctx.Embeds twin twin' ∧ Renamed field field' s' twin' := by
  induction h with
  | single hstep =>
    obtain ⟨next, hnext, hren⟩ := hstep.renamed hguard hfield hfield' hopen hopen' htwin
    exact ⟨next, .single hnext, hren⟩
  | tail _ hstep ih =>
    obtain ⟨mid, hmid, hren⟩ := ih
    obtain ⟨next, hnext, hren'⟩ := hstep.renamed hguard hfield hfield' hopen hopen' hren
    exact ⟨next, hmid.tail hnext, hren'⟩

theorem exists_return_of_codeOf (hguard : ctx.settings.detectCycles = false)
    (hopen : ctx.isReserved s.field = false) (hopen' : ctx.isReserved s'.field = false)
    (hcode : ctx.codeOf s = ctx.codeOf s') (h : Relation.TransGen ctx.Embeds s s') :
    ∃ back, Relation.ReflTransGen ctx.Embeds s back ∧ Relation.TransGen ctx.Embeds back back := by
  obtain ⟨htarget, hfield⟩ := alike_of_codeOf hcode
  have hsame : s.field = s'.field → s = s' := by
    intro heq
    obtain ⟨field, target⟩ := s
    cases heq
    cases htarget
    rfl
  rcases hfield with heq | ⟨hforeign, hforeign'⟩
  · rw [hsame heq] at h ⊢
    exact ⟨s', .refl, h⟩
  · -- The way from the first to the second is gone once more, from the second.
    have htwin : Renamed s.field s'.field s s' := by
      refine Or.inr ⟨s.target, rfl, ?_⟩
      rw [htarget]
    obtain ⟨twin, hloop, hren⟩ := transGen_renamed hguard hforeign hforeign' hopen hopen' h htwin
    rcases hren with rfl | ⟨target, heq, -⟩
    · exact ⟨s', h.to_reflTransGen, hloop⟩
    · have hfield : s.field = s'.field := by rw [heq]
      rw [hsame hfield] at h ⊢
      exact ⟨s', .refl, h⟩

theorem Stuck.codeOf_mem_codes (hguard : ctx.settings.detectCycles = false) (h : ctx.Stuck s) :
    ctx.codeOf s ∈ ctx.codes := by
  cases hraw : ctx.rawDefinition (.text s.target) with
  | ok raw => exact Context.codeOf_mem_codes hraw
  | error fault =>
    apply absurd _ h.unsettled
    have hfault : fault.isOfDefinitions = true := by
      apply settles_requireDefinition (.text s.target)
      rw [requireDefinition, hraw]
      rfl
    have hnode := normalForm_of_unregistered hraw
    rw [embedded_eq hguard h.isOpen]
    simp only [expand, ofExcept_eq, hnode, error_bind]
    exact settles_error hfault

/-- A stuck reference leads to one that leads back to itself. -/
theorem Stuck.exists_return (hguard : ctx.settings.detectCycles = false)
    (hforms : ctx.SettlesForms) (h : ctx.Stuck s) :
    ∃ back, Relation.ReflTransGen ctx.Embeds s back ∧ Relation.TransGen ctx.Embeds back back := by
  obtain ⟨first, second, hpath, hfirst, hway, hsecond, hcode⟩ :=
    exists_repetition (fun _ hs => hs.embeds hguard hforms) ctx.codeOf ctx.codes
      (fun _ hs => hs.codeOf_mem_codes hguard) h
  obtain ⟨back, hback, hloop⟩ :=
    exists_return_of_codeOf hguard hfirst.isOpen hsecond.isOpen hcode hway
  exact ⟨back, hpath.trans hback, hloop⟩

end Return

/-- Without the guard, over well-shaped definitions whose compositions have no cycle: compiling all
definitions ends if and only if it meets no reference that leads to one that leads back to
itself. -/
theorem ends_compileAll_iff (hguard : ctx.settings.detectCycles = false)
    (hctx : ctx.WellShaped) (hacyclic : ctx.AcyclicComposition) :
    Ends ctx.compileAll ↔ ¬ ctx.Reenters := by
  have hforms : ctx.SettlesForms := settles_normalForm hctx hacyclic
  constructor
  · exact fun hends hre => hre.not_ends hguard hends
  · intro hnone
    by_contra hstuck
    obtain ⟨s, hs, hs'⟩ := exists_stuck_of_not_ends hguard hctx hforms hstuck
    obtain ⟨back, hpath, hloop⟩ := hs'.exists_return hguard hforms
    exact hnone ⟨s, hs, back, hpath, hloop⟩

end Context

namespace Shape

mutual
/-- The references of a property, at any depth of its inline objects, each with its owner and its
target. -/
def references (owner field : Scalar) : Shape → List (Scalar × String)
  | .reference target _ => [(owner, target)]
  | .fields _ members => memberReferences field members
  | .withDefault shape _ => references owner field shape
  | _ => []

def memberReferences (owner : Scalar) : List (Scalar × Shape) → List (Scalar × String)
  | [] => []
  | (name, shape) :: rest => references owner name shape ++ memberReferences owner rest
end

end Shape

namespace Context

variable {ctx : Context}

/-- The definition has a reference with an owner and a target: among its fields, in its items, or
in itself where it is compiled as a property of a field. -/
inductive Refers (ctx : Context) (name : String) (owner : Scalar) (target : String) : Prop
  | fields {node : Data} {entries : Entries Data} (hnode : ctx.normalForm (.text name) = .ok node)
      (hentries : node.members = .ok entries)
      (h : (owner, target) ∈
        (Shape.ofNode ctx.extensionKey entries).references (.text name) (.text name))
  | items {node : Data} {entries : Entries Data} (hnode : ctx.normalForm (.text name) = .ok node)
      (hentries : node.members = .ok entries)
      (h : (owner, target) ∈ (Shape.ofProperty ctx.extensionKey
        (Entries.value entries "items")).references (.text name) (.text name))
  | property {node : Data} {entries : Entries Data}
      (hnode : ctx.normalForm (.text name) = .ok node) (hentries : node.members = .ok entries)
      (field : Scalar)
      (h : (owner, target) ∈ (Shape.ofProperty ctx.extensionKey
        (.map (Entries.erase entries (.text ctx.extensionKey)))).references (.text name) field)

/-- The references in what is compiled of a definition for a field that refers to it: an array has
those of its items, an object those of its fields, and any other one those of the property that it
describes. -/
def targetReferences (ctx : Context) (name field : Scalar) (entries : Entries Data) :
    List (Scalar × String) :=
  if isContainer entries then
    if (Entries.value entries "type").isText "array" then
      (Shape.ofProperty ctx.extensionKey (Entries.value entries "items")).references name name
    else
      (Shape.ofNode ctx.extensionKey entries).references name name
  else
    (Shape.ofProperty ctx.extensionKey
      (.map (Entries.erase entries (.text ctx.extensionKey)))).references name field

/-- A reference with an owner and a target is compiled where the definition is embedded. -/
def RefersInside (ctx : Context) (name : String) (owner : Scalar) (target : String) : Prop :=
  ∃ node entries field, ctx.normalForm (.text name) = .ok node ∧ node.members = .ok entries ∧
    (owner, target) ∈ ctx.targetReferences (.text name) field entries

section Met

open Traced

variable {kind : Site → Prop} {resolve : Resolve Traced}

def ResolvedWithin (kind : Site → Prop) (resolve : Resolve Traced)
    (references : List (Scalar × String)) : Prop :=
  ∀ reference ∈ references, ∀ field many,
    (resolve reference.1 field reference.2 many).Within kind

mutual
private theorem within_compileShape (owner field : Scalar) (required : Data) (shape : Shape)
    (h : ResolvedWithin kind resolve (shape.references owner field)) :
    (ctx.compileShape resolve owner field required shape).Within kind := by
  match shape with
  | .notMapping _ | .endless | .noFields | .malformed _ =>
    simp only [compileShape]
    exact within_throw _
  | .composed =>
    simp only [compileShape]
    exact within_pure _
  | .override _ _ _ | .typed _ _ =>
    simp only [compileShape]
    exact (within_outcome _).bind fun _ _ => within_pure _
  | .reference target many =>
    simp only [compileShape]
    have hown := h (owner, target) (List.mem_singleton_self _) field many
    exact hown.bind fun _ _ => within_pure _
  | .fields inner members =>
    simp only [compileShape]
    exact (within_compileMembers field inner members h).bind fun _ _ => within_pure _
  | .withDefault shape _ =>
    simp only [compileShape]
    exact (within_compileShape owner field required shape h).bind fun _ _ => within_pure _

private theorem within_compileMembers (owner : Scalar) (required : Data)
    (members : List (Scalar × Shape))
    (h : ResolvedWithin kind resolve (Shape.memberReferences owner members)) :
    (ctx.compileMembers resolve owner required members).Within kind := by
  match members with
  | [] =>
    simp only [compileMembers]
    exact within_pure _
  | (name, shape) :: rest =>
    have hshape : ResolvedWithin kind resolve (shape.references owner name) :=
      fun reference hmem => h reference (List.mem_append_left _ hmem)
    have hrest : ResolvedWithin kind resolve (Shape.memberReferences owner rest) :=
      fun reference hmem => h reference (List.mem_append_right _ hmem)
    simp only [compileMembers]
    refine Within.bind ?_ fun v _ =>
      (within_compileMembers owner required rest hrest).bind fun more _ => ?_
    · split
      · exact within_pure _
      · exact within_compileShape owner name required shape hshape
    · cases v with
      | none => exact within_pure _
      | some v => exact within_pure _
end

private theorem within_compilePropertyWith {property : Data} {field owner : Scalar}
    (h : ResolvedWithin kind resolve
      ((Shape.ofProperty ctx.extensionKey property).references owner field)) (required : Data) :
    (ctx.compilePropertyWith resolve property field required owner).Within kind := by
  unfold compilePropertyWith
  split
  · exact within_pure _
  · exact within_compileShape owner field required _ h

private theorem within_compileNode {owner : Scalar} {shape : Shape}
    (h : ResolvedWithin kind resolve (shape.references owner owner)) :
    (ctx.compileNode resolve owner shape).Within kind := by
  unfold compileNode
  split
  · exact (within_compileMembers owner _ _ h).bind fun _ _ => within_pure _
  · exact (within_outcome _).bind fun _ _ => within_pure _
  · exact within_throw _
  · exact within_throw _

private theorem within_compileSetWith {lookup : Scalar → Traced Data} {node : Data}
    {entries : Entries Data} (hentries : node.members = .ok entries)
    (hplain : Composition.isComposed node = false) {owner : Scalar}
    (h : ResolvedWithin kind resolve
      ((Shape.ofNode ctx.extensionKey entries).references owner owner)) :
    (ctx.compileSetWith lookup resolve owner node).Within kind := by
  unfold compileSetWith
  rw [if_neg (by rw [hplain]; exact Bool.false_ne_true), hentries]
  refine (within_outcome _).bind fun entries' heq => ?_
  rw [outcome_ofExcept] at heq
  cases heq
  exact within_compileNode h

private theorem references_empty (key : String) (owner field : Scalar) :
    (Shape.ofProperty key (.map [])).references owner field = [] := by
  rw [Shape.ofProperty_empty]
  rfl

private theorem within_compileTarget {lookup : Scalar → Traced Data} {node : Data}
    {entries : Entries Data} (hentries : node.members = .ok entries)
    (hplain : Composition.isComposed node = false) {name field : Scalar}
    (h : ResolvedWithin kind resolve (ctx.targetReferences name field entries)) (many : Bool) :
    (ctx.compileTarget lookup resolve name field many node).Within kind := by
  unfold compileTarget
  rw [hentries]
  refine (within_outcome _).bind fun definition heq => ?_
  rw [outcome_ofExcept] at heq
  cases heq
  unfold targetReferences at h
  split at h
  · next hcontainer =>
    rw [if_pos hcontainer]
    split at h
    · next harray =>
      rw [if_pos harray]
      refine (within_compilePropertyWith ?_ _).bind fun _ _ => within_pure _
      split
      · exact h
      · rw [references_empty]
        exact fun reference hmem => by cases hmem
    · next harray =>
      rw [if_neg harray]
      exact (within_compileSetWith hentries hplain h).bind fun _ _ => within_pure _
  · next hcontainer =>
    rw [if_neg hcontainer]
    exact (within_compilePropertyWith h _).bind fun _ _ => within_pure _

private theorem resolvedWithin_noted {embed : Embed (Except Fault)}
    {references : List (Scalar × String)}
    (h : ∀ reference ∈ references, reference.1 ≠ .text reference.2 →
      ∀ field, kind ⟨field, reference.2⟩) :
    ResolvedWithin kind (ctx.resolution (noted embed) []) references := by
  intro reference hmem field many
  refine (within_outcome _).bind fun _ _ => ?_
  split
  · exact within_pure _
  · next hself =>
    intro s hs
    rw [List.mem_singleton.mp hs]
    refine h reference hmem (fun howner => hself ?_) field
    simp only [isSelfReference, howner, Scalar.same_refl, Bool.true_or]

/-- Embedding a definition meets references inside that definition that are not cut off. -/
theorem Embeds.refersInside {s s' : Site} (h : ctx.Embeds s s') :
    ∃ owner, owner ≠ .text s'.target ∧ ctx.RefersInside s.target owner s'.target := by
  have hwithin : (ctx.expand (noted ctx.embedded) s.field s.target false).Within
      fun s' => ∃ owner, owner ≠ .text s'.target ∧ ctx.RefersInside s.target owner s'.target := by
    refine (within_outcome _).bind fun node hnode => ?_
    rw [outcome_ofExcept] at hnode
    cases hentries : node.members with
    | error misuse =>
      unfold compileTarget
      rw [hentries]
      exact (within_throw _).bind fun _ h => by cases h
    | ok entries =>
      refine within_compileTarget hentries (isComposed_normalForm hnode) ?_ false
      exact resolvedWithin_noted fun reference hmem howner _ =>
        ⟨reference.1, howner, node, entries, s.field, hnode, hentries, hmem⟩
  exact hwithin s' h

end Met

section Ranked

variable {rank : String → Nat} (hrank : ∀ name owner target, ctx.RefersInside name owner target →
  owner = .text target ∨ rank target < rank name)

include hrank

theorem Embeds.rank_lt {s s' : Site} (h : ctx.Embeds s s') : rank s'.target < rank s.target := by
  obtain ⟨owner, howner, hrefers⟩ := h.refersInside
  exact (hrank _ _ _ hrefers).resolve_left howner

private theorem rank_lt_of_transGen {s s' : Site} (h : Relation.TransGen ctx.Embeds s s') :
    rank s'.target < rank s.target := by
  induction h with
  | single hstep => exact hstep.rank_lt hrank
  | tail _ hstep ih => exact (hstep.rank_lt hrank).trans ih

/-- Without the guard, over well-shaped definitions whose compositions have no cycle: if every
reference inside an embedded definition has an owner that is named after its target or leads to a
definition of a lower rank, compiling all definitions ends. -/
theorem ends_compileAll_of_rank (hguard : ctx.settings.detectCycles = false)
    (hctx : ctx.WellShaped) (hacyclic : ctx.AcyclicComposition) : Ends ctx.compileAll := by
  rw [ends_compileAll_iff hguard hctx hacyclic]
  -- A reference that leads back to itself would lead to a rank below its own.
  rintro ⟨s, -, back, -, hloop⟩
  exact Nat.lt_irrefl _ (rank_lt_of_transGen hrank hloop)

end Ranked

end Context

/-- Without the guard, where the definitions of a document are well-shaped and their compositions
have no cycle: compiling the document ends if and only if it meets no reference that leads to one
that leads back to itself. It does end if every reference inside a definition that is embedded has
an owner of the name of its target or leads to a definition of a lower rank. -/
theorem Session.ends_compileDefinitions_iff (session : Session) (source extra : Source)
    {ctx : Context} (hbuild : session.contextOf source extra = .ok ctx)
    (hguard : session.settings.compiler.detectCycles = false) (hctx : ctx.WellShaped)
    (hacyclic : ctx.AcyclicComposition) :
    (Ends (session.compileDefinitions source extra).outcome ↔ ¬ ctx.Reenters) ∧
      ∀ rank : String → Nat, (∀ name owner target, ctx.RefersInside name owner target →
        owner = .text target ∨ rank target < rank name) →
          Ends (session.compileDefinitions source extra).outcome := by
  have hunguarded : ctx.settings.detectCycles = false := by
    rw [settings_contextOf hbuild]
    exact hguard
  rw [outcome_compileDefinitions hbuild]
  exact ⟨Context.ends_compileAll_iff hunguarded hctx hacyclic,
    fun _ hrank => Context.ends_compileAll_of_rank hrank hunguarded hctx hacyclic⟩

namespace Context

section Nested

/-- One definition with an inline object, of which a field refers back to the definition. -/
def nested : Context where
  definitions := [(.text "D", .map node)]
where
  /-- The entries of a node with one property. -/
  declaring (field : String) (property : Data) : Entries Data :=
    [(.text "type", .text "object"), (.text "properties", .map [(.text field, property)])]
  /-- The reference back to the definition. -/
  pointer : Data := .map [(.text "$ref", .text "#/definitions/D")]
  child : Entries Data := declaring "parent" pointer
  node : Entries Data := declaring "child" (.map child)

private theorem rawDefinition_nested {name : Scalar} {raw : Data}
    (h : nested.rawDefinition name = .ok raw) : raw = .map nested.node := by
  obtain ⟨key, hmem, -⟩ := exists_key_of_rawDefinition h
  exact (Prod.mk.inj (List.mem_singleton.mp hmem)).2

theorem normalForm_nested (name : Scalar) :
    nested.normalForm name = nested.rawDefinition name := by
  cases hraw : nested.rawDefinition name with
  | error fault => rw [normalForm_of_unregistered hraw]
  | ok raw =>
    rw [normalForm_eq, readDefinition_of_raw hraw, rawDefinition_nested hraw]
    rfl

theorem ofNode_nested :
    Shape.ofNode "_mongoose" nested.node =
      .fields .null [(.text "child", .fields .null [(.text "parent", .reference "D" false)])] := by
  have hchild : Shape.ofProperty "_mongoose" (.map nested.child) =
      .fields .null [(.text "parent", .reference "D" false)] := by
    have hform : Form.ofEntries "_mongoose" nested.child = .embedded := rfl
    have hnode : Shape.ofNode "_mongoose" nested.child =
        .fields .null [(.text "parent", .reference "D" false)] :=
      Shape.ofNode_of_property rfl (Shape.ofProperty_pointer (by decide) rfl)
    rw [Shape.ofProperty_map, hform, hnode]
    rfl
  exact Shape.ofNode_of_property rfl hchild

private theorem compileSetWith_nested {embed : Embed (Except Fault)}
    (h : embed (.text "parent") "D" false = .error .endless) (owner : Scalar) :
    nested.compileSetWith nested.normalForm (nested.resolution embed []) owner
      (.map nested.node) = .error .endless := by
  have hkey : nested.extensionKey = "_mongoose" := rfl
  have hchild : nested.isReserved (.text "child") = false := rfl
  have hparent : nested.isReserved (.text "parent") = false := rfl
  have hreference : nested.resolution embed [] (.text "child") (.text "parent") "D" false =
      .error .endless := by
    rw [← h]
    rfl
  rw [compileSetWith_map rfl, hkey, ofNode_nested]
  simp only [compileNode, compileMembers, compileShape, hchild, hparent, Bool.false_eq_true,
    if_false, hreference, error_bind]

private theorem endlessAt_nested (depth : Nat) :
    nested.embedAt depth [] (.text "parent") "D" false = .error .endless := by
  have hnode : nested.normalForm (.text "D") = .ok (.map nested.node) := normalForm_nested _
  induction depth with
  | zero => rfl
  | succ depth ih =>
    rw [embedAt_succ rfl]
    simp only [expand, ofExcept_eq, hnode, ok_bind]
    rw [compileTarget_map, if_pos (by decide), if_neg (by decide), compileSetWith_nested ih]
    rfl

private theorem compileAll_nested : nested.compileAll = .error .endless := by
  have hnode : nested.normalForm (.text "D") = .ok (.map nested.node) := normalForm_nested _
  have hfields := compileSetWith_nested (endlessAt_nested nested.referenceBound) (.text "D")
  have hkeys : Entries.keys nested.definitions = [.text "D"] := rfl
  have hexcluded : nested.extensions.isExcluded (.text "D") = false := rfl
  rw [compileAll_eq_expandAll rfl]
  simp only [expandAll, ofExcept_eq, hkeys, compileEach, compileDefinitionWith, hexcluded,
    Bool.false_eq_true, if_false, hnode, ok_bind, hfields, error_bind]

def nestedDocument : Source :=
  .data (.map [(.text "definitions", .map nested.definitions)])

theorem contextOf_nested : ({} : Session).contextOf nestedDocument .absent = .ok nested := rfl

theorem compileDefinitions_nested :
    (({} : Session).compileDefinitions nestedDocument .absent).outcome = .error .endless := by
  rw [Session.outcome_compileDefinitions contextOf_nested]
  exact compileAll_nested

private theorem wellShaped_declaring {field : String} {property : Data}
    (hproperties : field ≠ "properties") (hrequired : field ≠ "required")
    (hkey : field ≠ "_mongoose") (h : property.WellShaped "_mongoose") :
    Data.WellShapedEntries "_mongoose" (nested.declaring field property) := by
  have hfield : Data.WellShapedEntries "_mongoose" [(.text field, property)] :=
    ⟨.other _ hproperties hrequired hkey, h, trivial⟩
  have hfits : Data.Fits "_mongoose" (.text "properties") (.map [(.text field, property)]) :=
    { properties := fun _ => Or.inr ⟨_, rfl⟩
      required := fun _ => trivial
      extension := fun hname => by
        injection hname with hname
        exact absurd hname (by decide) }
  exact ⟨.other _ (by decide) (by decide) (by decide), trivial, hfits, hfield, trivial⟩

private theorem wellShaped_pointer : nested.pointer.WellShaped "_mongoose" :=
  ⟨.other _ (by decide) (by decide) (by decide), trivial, trivial⟩

private theorem wellShaped_node : Data.WellShapedEntries "_mongoose" nested.node :=
  have hchild : Data.WellShapedEntries "_mongoose" nested.child :=
    wellShaped_declaring (by decide) (by decide) (by decide) wellShaped_pointer
  wellShaped_declaring (by decide) (by decide) (by decide) hchild

theorem wellShaped_nested : nested.WellShaped where
  definitions e he := by
    rw [List.mem_singleton.mp he]
    exact ⟨nested.node, rfl, wellShaped_node, fun h => by cases h⟩
  globalAdditional e he := by cases he
  additional facet hfacet := by cases hfacet
  indexes facet hfacet := by cases hfacet

theorem acyclic_nested : nested.AcyclicComposition := by
  apply acyclicComposition_of_plain
  intro e he
  rw [List.mem_singleton.mp he]
  rfl

/-- Every reference leads to the definition that it stands in or to one of a lower rank. -/
def Ranked (ctx : Context) (rank : String → Nat) : Prop :=
  ∀ name owner target, ctx.Refers name owner target → target = name ∨ rank target < rank name

private theorem refers_nested {name target : String} {owner : Scalar}
    (h : nested.Refers name owner target) : target = name := by
  have hregistered : ∀ {node : Data}, nested.normalForm (.text name) = .ok node →
      name = "D" ∧ node = .map nested.node := by
    intro node hnode
    rw [normalForm_nested] at hnode
    obtain ⟨key, hmem, hkey⟩ := exists_key_of_rawDefinition hnode
    cases List.mem_singleton.mp hmem
    injection Scalar.same_text.mp hkey with hname
    exact ⟨hname.symm, rfl⟩
  have hkey : nested.extensionKey = "_mongoose" := rfl
  have hfields : ∀ {owner' field : Scalar}, (owner, target) ∈
      (Shape.ofNode "_mongoose" nested.node).references owner' field → target = "D" := by
    intro owner' field hmem
    rw [ofNode_nested] at hmem
    simp only [Shape.references, Shape.memberReferences, List.append_nil,
      List.mem_singleton] at hmem
    exact (Prod.mk.inj hmem).2
  cases h with
  | fields hnode hentries hmem =>
    obtain ⟨rfl, rfl⟩ := hregistered hnode
    cases hentries
    exact hfields hmem
  | items hnode hentries hmem =>
    obtain ⟨rfl, rfl⟩ := hregistered hnode
    cases hentries
    have hnull : Entries.value nested.node "items" = .scalar .null := rfl
    rw [hnull, Shape.ofProperty] at hmem
    · cases hmem
    · simp
    · simp
  | property hnode hentries field hmem =>
    obtain ⟨rfl, rfl⟩ := hregistered hnode
    cases hentries
    have hform : Form.ofEntries "_mongoose" nested.node = .embedded := rfl
    have hstripped : Entries.erase nested.node (.text "_mongoose") = nested.node := rfl
    rw [hkey, hstripped, Shape.ofProperty_map, hform] at hmem
    exact hfields hmem

/-- The definition with a field that refers back to it, and another one with an inline object of
which a field refers to the first. -/
def winding : Context where
  definitions :=
    [(.text "D", .map (nested.declaring "next" nested.pointer)), (.text "E", .map nested.node)]

def windingDocument : Source :=
  .data (.map [(.text "definitions", .map winding.definitions)])

private theorem contextOf_winding :
    ({} : Session).contextOf windingDocument .absent = .ok winding := rfl

private theorem wellShaped_winding : winding.WellShaped where
  definitions e he := by
    rcases List.mem_cons.mp he with rfl | he
    · have hnode : Data.WellShapedEntries "_mongoose" (nested.declaring "next" nested.pointer) :=
        wellShaped_declaring (by decide) (by decide) (by decide) wellShaped_pointer
      exact ⟨_, rfl, hnode, fun h => by cases h⟩
    · rw [List.mem_singleton.mp he]
      exact ⟨nested.node, rfl, wellShaped_node, fun h => by cases h⟩
  globalAdditional e he := by cases he
  additional facet hfacet := by cases hfacet
  indexes facet hfacet := by cases hfacet

private theorem acyclic_winding : winding.AcyclicComposition := by
  apply acyclicComposition_of_plain
  intro e he
  rcases List.mem_cons.mp he with rfl | he
  · rfl
  · rw [List.mem_singleton.mp he]
    rfl

private theorem ofNode_declaring :
    Shape.ofNode "_mongoose" (nested.declaring "next" nested.pointer) =
      .fields .null [(.text "next", .reference "D" false)] :=
  Shape.ofNode_of_property rfl (Shape.ofProperty_pointer (by decide) rfl)

private def windingRank (name : String) : Nat :=
  if name = "D" then 0 else 1

private theorem refersInside_winding {name target : String} {owner : Scalar}
    (h : winding.RefersInside name owner target) :
    owner = .text target ∨ windingRank target < windingRank name := by
  obtain ⟨node, entries, field, hnode, hentries, hmem⟩ := h
  have hkey : winding.extensionKey = "_mongoose" := rfl
  cases hraw : winding.rawDefinition (.text name) with
  | error fault =>
    rw [normalForm_of_unregistered hraw] at hnode
    cases hnode
  | ok raw =>
    obtain ⟨key, hdefined, hname⟩ := exists_key_of_rawDefinition hraw
    rw [normalForm_eq, readDefinition_of_raw hraw] at hnode
    rcases List.mem_cons.mp hdefined with heq | hrest
    · -- The owner of the first definition's reference is that definition.
      cases heq
      injection Scalar.same_text.mp hname with hname
      cases hnode
      cases hentries
      rw [targetReferences, if_pos (by decide), if_neg (by decide), hkey, ofNode_declaring] at hmem
      cases List.mem_singleton.mp hmem
      exact Or.inl (congrArg Scalar.text hname.symm)
    · -- In the second definition the owner is the inline object.
      cases List.mem_singleton.mp hrest
      injection Scalar.same_text.mp hname with hname
      cases hnode
      cases hentries
      rw [targetReferences, if_pos (by decide), if_neg (by decide), hkey, ofNode_nested] at hmem
      cases List.mem_singleton.mp hmem
      rw [← hname]
      exact Or.inr (by decide)

/-- That every reference leads to the definition that it stands in or to one of a lower rank is not
enough: the one in the inline object is followed for ever. -/
theorem nested_endless :
    ({} : Session).contextOf nestedDocument .absent = .ok nested ∧
      nested.settings.detectCycles = false ∧ nested.WellShaped ∧ nested.AcyclicComposition ∧
      nested.Ranked (fun _ => 0) ∧
      ¬ Ends (({} : Session).compileDefinitions nestedDocument .absent).outcome := by
  refine ⟨contextOf_nested, rfl, wellShaped_nested, acyclic_nested, ?_, ?_⟩
  · exact fun name owner target h => Or.inl (refers_nested h)
  · exact fun h => h compileDefinitions_nested

/-- The inline object's reference back to its own definition leads to itself. Without the inline
object around it, and with it around a reference to another definition, compiling ends. -/
theorem nested_reenters :
    nested.Reenters ∧
      Ends (({} : Session).compileDefinitions windingDocument .absent).outcome := by
  have hnested := Session.ends_compileDefinitions_iff {} nestedDocument .absent contextOf_nested rfl
    wellShaped_nested acyclic_nested
  have hwinding := Session.ends_compileDefinitions_iff {} windingDocument .absent
    contextOf_winding rfl wellShaped_winding acyclic_winding
  constructor
  · by_contra hnone
    exact hnested.1.mpr hnone compileDefinitions_nested
  · exact hwinding.2 windingRank fun _ _ _ => refersInside_winding

end Nested

end Context

end StoreSchema
