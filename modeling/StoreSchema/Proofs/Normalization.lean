import StoreSchema.Proofs.Totality
import StoreSchema.Proofs.Meaning
import StoreSchema.Proofs.Intake
import StoreSchema.Proofs.Merging

/-!
Looking definitions up over well-formed compositions without cycles.

Main statement of this module: whatever was looked up before, a definition is given merged from its
own declarations and those of its fragments, a fragment that names a definition counting as what
that definition is given as; and definitions compile to the same if each is replaced by what it is
given as.
-/

set_option autoImplicit false

namespace StoreSchema

namespace Composition

/-- The properties of a node are a mapping, if it gives any; and it requires none of them, all of
them or those that a list names. -/
structure WellDeclared (node : Entries Data) : Prop where
  properties : Entries.value node "properties" = .null ∨
    ∃ properties, Entries.value node "properties" = .map properties
  required : Entries.value node "required" = .null ∨
    (∃ flag, Entries.value node "required" = .bool flag) ∨
      ∃ names : List String, Entries.value node "required" = .list (names.map .text)

theorem WellDeclared.readable {node : Entries Data} (h : WellDeclared node) : Readable node where
  properties := by
    unfold Gathered.propertiesOf declaredProperties
    rcases h.properties with hnull | ⟨properties, hmap⟩
    · rw [hnull]
      rfl
    · rw [hmap]
      cases properties <;> rfl
  required := by
    unfold Gathered.requiredOf listedNames
    rcases h.required with hnull | ⟨flag, hflag⟩ | ⟨names, hlist⟩
    · rw [hnull]
    · rw [hflag]
    · rw [hlist]
      refine (Data.mapM_key_texts names).trans ?_
      simp [List.filterMap_map]

end Composition

namespace Context

open StoreSchema.Composition

/-- A fragment refers to a registered definition or is a well-formed node of its own. -/
inductive IsFragment (ctx : Context) : Data → Prop
  | itself {own : Entries Data} (hplain : Entries.has own (.text "$ref") = false)
      (hdeclared : WellDeclared own) : IsFragment ctx (.map own)
  | named {own : Entries Data} {target : String}
      (hreference : Entries.has own (.text "$ref") = true)
      (htarget : Pointer.target (Entries.value own "$ref") = .ok target)
      (hregistered : ctx.hasDefinition (.text target) = true) : IsFragment ctx (.map own)

/-- Every definition is a well-formed node, composed of fragments if of anything. -/
def WellComposed (ctx : Context) : Prop :=
  ∀ e ∈ ctx.definitions, ∃ own, e.2 = .map own ∧ WellDeclared own ∧
    ((Entries.value own "allOf").isTruthy = false ∨ ∃ fragments,
      Entries.value own "allOf" = .list fragments ∧ ∀ fragment ∈ fragments, ctx.IsFragment fragment)

/-- What is remembered after looking definitions up one after another. -/
def afterLookups (ctx : Context) : List Scalar → Progress → Progress
  | [], p => p
  | name :: rest, p => afterLookups ctx rest ((ctx.definition name).after p)

/-- The context with each definition replaced by what it is given as. -/
def normalized (ctx : Context) : Context :=
  { ctx with
    definitions := ctx.definitions.map fun e =>
      (e.1, ((ctx.definition e.1).outcome {}).toOption.getD e.2) }

variable {ctx : Context}

theorem outcome_definition (name : Scalar) :
    (ctx.definition name).outcome {} = ctx.normalForm name :=
  (definition_yields name {} rfl (remembers_start [])).1

theorem remembers_afterLookups (earlier : List Scalar) {p : Progress} (hmem : ctx.Remembers p) :
    ctx.Remembers (ctx.afterLookups earlier p) := by
  induction earlier generalizing p with
  | nil => exact hmem
  | cons name rest ih =>
    obtain ⟨-, -, hmem'⟩ := definition_yields name p rfl hmem
    exact ih hmem'

theorem outcome_definition_afterLookups (earlier : List Scalar) (name : Scalar) :
    (ctx.definition name).outcome (ctx.afterLookups earlier {}) = ctx.normalForm name :=
  (definition_yields name _ rfl (remembers_afterLookups earlier (remembers_start []))).1

section Merged

/-- A definition has a normal form, which can be read and is merged from nodes that the fragments
stand for. -/
structure Merges (ctx : Context) (name : Scalar) (own node : Entries Data)
    (parts : List (Entries Data)) : Prop where
  normal : ctx.normalForm name = .ok (.map node)
  readable : Readable node
  stands : List.Forall₂ (StandsFor ctx.normalForm) (listedFragments own) parts
  merged : IsMerged own parts node

private theorem exists_parts {fragments : List Data}
    (h : ∀ fragment ∈ fragments,
      ∃ part, StandsFor ctx.normalForm fragment part ∧ Readable part) :
    ∃ parts, List.Forall₂ (StandsFor ctx.normalForm) fragments parts ∧
      ∀ part ∈ parts, Readable part := by
  induction fragments with
  | nil => exact ⟨[], .nil, by simp⟩
  | cons fragment rest ih =>
    obtain ⟨part, hstands, hreadable⟩ := h fragment List.mem_cons_self
    obtain ⟨parts, hrest, hparts⟩ := ih fun f hf => h f (List.mem_cons_of_mem _ hf)
    exact ⟨part :: parts, .cons hstands hrest, List.forall_mem_cons.mpr ⟨hreadable, hparts⟩⟩

private theorem exists_raw_of_registered {name : Scalar} (h : ctx.hasDefinition name = true) :
    ∃ raw, ctx.rawDefinition name = .ok raw := by
  obtain ⟨raw, hraw⟩ := Option.isSome_iff_exists.mp h
  exact ⟨raw, by rw [rawDefinition, hraw]⟩

/-- Over well-formed compositions without cycles every definition is merged. -/
theorem WellComposed.merges (hwell : ctx.WellComposed) (hacyclic : ctx.AcyclicComposition)
    (name : Scalar) : ∀ raw, ctx.rawDefinition name = .ok raw →
      ∃ own node parts, raw = .map own ∧ ctx.Merges name own node parts := by
  induction name using hacyclic.induction with
  | _ name ih =>
    intro raw hraw
    obtain ⟨key, hmem, -⟩ := exists_key_of_rawDefinition hraw
    obtain ⟨own, hown, hdeclared, hfragments⟩ := hwell _ hmem
    replace hown : raw = .map own := hown
    subst hown
    have hform : ctx.normalForm name = _ := normalForm_eq name
    rw [readDefinition_of_raw hraw] at hform
    cases hcomposed : isComposed (.map own) with
    | false =>
      rw [hcomposed, if_neg Bool.false_ne_true] at hform
      have hnone : listedFragments own = [] := by
        unfold listedFragments
        split
        · next fragments hlist =>
          rw [isComposed, Data.value, hlist] at hcomposed
          cases fragments with
          | nil => rfl
          | cons fragment rest => cases hcomposed
        · rfl
      refine ⟨own, own, [], rfl, hform, hdeclared.readable, ?_, isMerged_self own⟩
      rw [hnone]
      exact .nil
    | true =>
      have htruthy : (Entries.value own "allOf").isTruthy = true := hcomposed
      obtain ⟨fragments, hlist, hall⟩ := hfragments.resolve_left (by rw [htruthy]; simp)
      -- The induction is on compositions: what the fragments refer to is merged already.
      obtain ⟨parts, hstands, hreadable⟩ : ∃ parts,
          List.Forall₂ (StandsFor ctx.normalForm) fragments parts ∧
            ∀ part ∈ parts, Readable part := by
        apply exists_parts
        intro fragment hfragment
        cases hall fragment hfragment with
        | @itself part hplain hpart => exact ⟨part, .itself hplain, hpart.readable⟩
        | @named reference target hreference htarget hregistered =>
          have hsource : source (.map reference) = .ok (.named target) := by
            simp [source, Data.mentions, hreference, htarget]
          have hbelow : ctx.Composes name (.text target) :=
            ⟨own, fragments, _, target, hraw, hlist, hfragment, hsource, rfl⟩
          obtain ⟨below, hbelowRaw⟩ := exists_raw_of_registered hregistered
          obtain ⟨_, node, _, -, hmerges⟩ := ih _ hbelow below hbelowRaw
          exact ⟨node, .named hreference htarget hmerges.normal, hmerges.readable⟩
      have hlisted : Composition.fragments own = .ok fragments := by
        rw [Composition.fragments, htruthy, if_pos rfl, hlist]
        rfl
      have hgather := gather_of_standsFor hstands hreadable .empty
      rw [Gathered.empty, Gathered.foldl_addRequired_nil] at hgather
      have hmerge : merge ctx.normalForm (.map own) =
          .ok ((Gathered.ofParts parts).finish own) := by
        simp only [merge, Data.members, orMisuse_ok, ofExcept_eq, ok_bind, hlisted, Gathered.empty,
          hgather]
        rfl
      rw [hcomposed, if_pos rfl, hmerge] at hform
      refine ⟨own, (Gathered.ofParts parts).finish own, parts, rfl, hform, ?_, ?_, ?_⟩
      · exact Gathered.readable_finish _ hdeclared.readable
      · rw [listedFragments, hlist]
        exact hstands
      · exact Gathered.isMerged_finish own parts

end Merged

section Replaced

variable (hwell : ctx.WellComposed) (hacyclic : ctx.AcyclicComposition)

include hwell hacyclic

private theorem exists_normalForm {name : Scalar} {raw : Data}
    (hraw : ctx.rawDefinition name = .ok raw) : ∃ node, ctx.normalForm name = .ok node := by
  obtain ⟨_, node, _, -, hmerges⟩ := hwell.merges hacyclic name raw hraw
  exact ⟨.map node, hmerges.normal⟩

theorem rawDefinition_normalized (name : Scalar) :
    ctx.normalized.rawDefinition name = ctx.normalForm name := by
  have hget : Entries.get? ctx.normalized.definitions name =
      (ctx.definitions.find? fun e => e.1.same name).map fun e =>
        (ctx.normalForm e.1).toOption.getD e.2 := by
    rw [Entries.get?_eq_find?, normalized, List.find?_map, Option.map_map]
    simp only [Function.comp_def, outcome_definition]
  cases hfind : ctx.definitions.find? fun e => e.1.same name with
  | none =>
    have hnone : Entries.get? ctx.definitions name = none := by
      rw [Entries.get?_eq_find?, hfind]
      rfl
    have hfault : ctx.rawDefinition name = .error (.unresolvedReference name) := by
      rw [rawDefinition, hnone]
    rw [normalForm_of_unregistered hfault, rawDefinition, hget, hfind]
    rfl
  | some e =>
    have hraw : ctx.rawDefinition name = .ok e.2 := by
      rw [rawDefinition, Entries.get?_eq_find?, hfind]
      rfl
    have hfound : e.1.same name = true := by simpa using List.find?_some hfind
    have hsame := Scalar.same_symm hfound
    obtain ⟨node, hnode⟩ := exists_normalForm hwell hacyclic hraw
    rw [rawDefinition, hget, hfind, hnode, Option.map_some, normalForm_same hsame hnode]
    rfl

private theorem normalForm_normalized : ctx.normalized.normalForm = ctx.normalForm := by
  funext name
  have hraw := rawDefinition_normalized hwell hacyclic name
  cases hnode : ctx.normalForm name with
  | error fault =>
    rw [hnode] at hraw
    exact normalForm_of_unregistered hraw
  | ok node =>
    rw [hnode] at hraw
    rw [normalForm_eq, readDefinition_of_raw hraw, isComposed_normalForm hnode]
    rfl

private theorem requireDefinition_normalized :
    ctx.normalized.requireDefinition = ctx.requireDefinition := by
  funext name
  rw [requireDefinition, rawDefinition_normalized hwell hacyclic name, requireDefinition]
  cases hraw : ctx.rawDefinition name with
  | error fault => rw [normalForm_of_unregistered hraw]
  | ok raw =>
    obtain ⟨node, hnode⟩ := exists_normalForm hwell hacyclic hraw
    rw [hnode]
    rfl

private theorem alike_normalized : ctx.normalized.Alike ctx where
  extensionKey := rfl
  isReserved _ := rfl
  override extension base many := by
    unfold override
    simp only [requireDefinition_normalized hwell hacyclic]
    rfl
  extensions := rfl

/-- Normal forms in the place of the definitions compile to the same. -/
theorem compileAll_normalForms : ctx.normalized.compileAll = ctx.compileAll := by
  have hmeaning : ctx.normalized.definitionMeaning [] = ctx.definitionMeaning [] := by
    funext name
    refine (alike_normalized hwell hacyclic).definitionMeaning_eq
      (normalForm_normalized hwell hacyclic) (requireDefinition_normalized hwell hacyclic) rfl ?_
      [] name
    simp only [referenceBound, normalized, List.length_map]
  have hkeys : Entries.keys ctx.normalized.definitions = Entries.keys ctx.definitions := by
    simp only [Entries.keys, normalized, List.map_map, Function.comp_def]
  rw [compileAll_eq, compileAll_eq, hmeaning, hkeys]

section Document

variable (hnames : (Entries.keys ctx.definitions).Pairwise fun a b => a.same b = false)
  (hmerged : isMergedKey (.text ctx.extensionKey) = false)

include hnames hmerged

private theorem value_normalized {e : Scalar × Data} (he : e ∈ ctx.definitions) :
    (((ctx.definition e.1).outcome {}).toOption.getD e.2).value ctx.extensionKey =
      e.2.value ctx.extensionKey := by
  have hraw : ctx.rawDefinition e.1 = .ok e.2 := by
    rw [rawDefinition, Entries.get?_of_mem hnames he]
  obtain ⟨own, node, parts, hown, hmerges⟩ := hwell.merges hacyclic _ _ hraw
  rw [outcome_definition, hmerges.normal, hown]
  exact congrArg (·.getD .null) (hmerges.merged.get?_kept hmerged)

private theorem register_normalized :
    ctx.normalized.definitions.forM
        (fun e => Extensions.register e.1 (e.2.value ctx.extensionKey)) =
      ctx.definitions.forM fun e => Extensions.register e.1 (e.2.value ctx.extensionKey) := by
  have hpart : ∀ definitions : Entries Data, (∀ e ∈ definitions, e ∈ ctx.definitions) →
      (definitions.map fun e =>
        (e.1, ((ctx.definition e.1).outcome {}).toOption.getD e.2)).forM
          (fun e => Extensions.register e.1 (e.2.value ctx.extensionKey)) =
        definitions.forM fun e => Extensions.register e.1 (e.2.value ctx.extensionKey) := by
    intro definitions hmem
    induction definitions with
    | nil => rfl
    | cons e rest ih =>
      obtain ⟨he, hrest⟩ := List.forall_mem_cons.mp hmem
      have hblock := value_normalized hwell hacyclic hnames hmerged he
      simp only [List.map_cons, List.forM, hblock, ih hrest]
  exact hpart ctx.definitions fun e he => he

/-- A document with its definitions replaced by their normal forms gives the normalized context,
unless its extension blocks stand under a key that merging changes or among the definitions. -/
theorem builds_normalized {session : Session} {document : Entries Data}
    (hbuilds : session.Builds document ctx) (hdefinitions : ctx.extensionKey ≠ "definitions") :
    session.Builds
      (Entries.put document (.text "definitions") (.map ctx.normalized.definitions))
      ctx.normalized where
  definitions := by
    rw [Document.definitionsOf, Entries.value, Entries.get?_put_same]
    rfl
  settings := hbuilds.settings
  version := by
    rw [Document.detectVersion, Entries.value_put_other (by decide)]
    exact hbuilds.version
  extensions := by
    have hkey : ctx.normalized.extensionKey = ctx.extensionKey := rfl
    have hgathered := hbuilds.extensions
    rw [Document.gatherExtensions,
      ← register_normalized hwell hacyclic hnames hmerged] at hgathered
    rw [hkey, Entries.value_put_other hdefinitions]
    exact hgathered
  validators := hbuilds.validators

/-- A document compiles to the same with its definitions replaced by their normal forms. -/
theorem compileDefinitions_normalForms {session : Session} {document : Entries Data}
    (hctx : session.contextOf (.data (.map document)) .absent = .ok ctx)
    (hdefinitions : ctx.extensionKey ≠ "definitions") :
    (session.compileDefinitions (.data (.map (Entries.put document (.text "definitions")
      (.map ctx.normalized.definitions)))) .absent).outcome =
      (session.compileDefinitions (.data (.map document)) .absent).outcome := by
  have hbuilds := (Session.contextOf_eq_ok_iff rfl rfl).mp hctx
  have hctx' : session.contextOf (.data (.map (Entries.put document (.text "definitions")
      (.map ctx.normalized.definitions)))) .absent = .ok ctx.normalized :=
    (Session.contextOf_eq_ok_iff rfl rfl).mpr
      (builds_normalized hwell hacyclic hnames hmerged hbuilds hdefinitions)
  rw [Session.outcome_compileDefinitions hctx, Session.outcome_compileDefinitions hctx',
    compileAll_normalForms hwell hacyclic]

end Document

end Replaced

/-- Over well-formed compositions without cycles, whatever definitions were looked up before: a
definition is given as a node that is merged from its own declarations and those of its fragments,
where a fragment that refers to a definition declares what that definition is given as; and
compiling is the same with every definition replaced by what it is given as. -/
theorem definition_isMerged (hwell : ctx.WellComposed) (hacyclic : ctx.AcyclicComposition) :
    (∀ name, ctx.hasDefinition name = true → ∃ own node parts,
      ctx.rawDefinition name = .ok (.map own) ∧
      (∀ earlier, (ctx.definition name).outcome (ctx.afterLookups earlier {}) = .ok (.map node)) ∧
      List.Forall₂ (StandsFor fun target => (ctx.definition target).outcome {})
        (listedFragments own) parts ∧
      IsMerged own parts node) ∧
    ctx.normalized.compileAll = ctx.compileAll ∧
    ∀ (session : Session) (source extra source' extra' : Source),
      session.contextOf source extra = .ok ctx →
      session.contextOf source' extra' = .ok ctx.normalized →
        (session.compileDefinitions source' extra').outcome =
          (session.compileDefinitions source extra).outcome := by
  have hall : ctx.normalized.compileAll = ctx.compileAll := compileAll_normalForms hwell hacyclic
  refine ⟨?_, hall, ?_⟩
  · intro name hregistered
    obtain ⟨raw, hraw⟩ := exists_raw_of_registered hregistered
    obtain ⟨own, node, parts, rfl, hmerges⟩ := hwell.merges hacyclic name raw hraw
    refine ⟨own, node, parts, hraw, fun earlier => ?_, ?_, hmerges.merged⟩
    · rw [outcome_definition_afterLookups]
      exact hmerges.normal
    · rw [funext outcome_definition]
      exact hmerges.stands
  · intro session source extra source' extra' hctx hctx'
    rw [Session.outcome_compileDefinitions hctx, Session.outcome_compileDefinitions hctx', hall]

/-- A definition that is composed of another one, which is composed of a third. -/
def layered : Context where
  definitions := [(.text "Base", .map base), (.text "Middle", .map middle), (.text "Top", .map top)]
where
  /-- A fragment that refers to a definition. -/
  reference (pointer : String) : Data := .map [(.text "$ref", .text pointer)]
  /-- A node with one property of a type. -/
  declaring (field type : String) : Entries Data :=
    [(.text "properties", .map [(.text field, .map [(.text "type", .text type)])])]
  base : Entries Data := declaring "id" "string" ++ [(.text "required", .list [.text "id"])]
  middle : Entries Data :=
    [(.text "allOf", .list [reference "#/definitions/Base", .map (declaring "name" "string")])]
  top : Entries Data :=
    [(.text "allOf", .list [reference "#/definitions/Middle", .map (declaring "id" "date")]),
      (.text "required", .bool true)]

private theorem wellDeclared_declaring (field type : String) :
    WellDeclared (layered.declaring field type) where
  properties := Or.inr ⟨_, rfl⟩
  required := Or.inl rfl

private theorem isFragment_layered {pointer target field type : String}
    (htarget : Pointer.target (.text pointer) = .ok target)
    (hregistered : layered.hasDefinition (.text target) = true) {fragment : Data}
    (hmem : fragment ∈ [layered.reference pointer, .map (layered.declaring field type)]) :
    layered.IsFragment fragment := by
  rcases List.mem_cons.mp hmem with rfl | hmem
  · exact .named rfl htarget hregistered
  · rw [List.mem_singleton.mp hmem]
    exact .itself rfl (wellDeclared_declaring field type)

private theorem named_layered {pointer target field type : String} {fragment : Data}
    (hmem : fragment ∈ [layered.reference pointer, .map (layered.declaring field type)])
    (hsource : source fragment = .ok (.named target)) :
    source (layered.reference pointer) = .ok (.named target) := by
  rcases List.mem_cons.mp hmem with rfl | hmem
  · exact hsource
  · rw [List.mem_singleton.mp hmem] at hsource
    cases hsource

private theorem wellComposed_layered : layered.WellComposed := by
  intro e he
  rcases List.mem_cons.mp he with rfl | he
  · exact ⟨layered.base, rfl,
      { properties := Or.inr ⟨_, rfl⟩, required := Or.inr (Or.inr ⟨["id"], rfl⟩) }, Or.inl rfl⟩
  rcases List.mem_cons.mp he with rfl | he
  · exact ⟨layered.middle, rfl, { properties := Or.inl rfl, required := Or.inl rfl },
      Or.inr ⟨_, rfl, fun _ hfragment =>
        isFragment_layered
          (show Pointer.target (.text "#/definitions/Base") = .ok "Base" from rfl) rfl
          hfragment⟩⟩
  · rw [List.mem_singleton.mp he]
    exact ⟨layered.top, rfl,
      { properties := Or.inl rfl, required := Or.inr (Or.inl ⟨true, rfl⟩) },
      Or.inr ⟨_, rfl, fun _ hfragment =>
        isFragment_layered
          (show Pointer.target (.text "#/definitions/Middle") = .ok "Middle" from rfl) rfl
          hfragment⟩⟩

private theorem acyclic_layered : layered.AcyclicComposition := by
  refine acyclicComposition_of_rank
    (fun name => if name = .text "Top" then 2 else if name = .text "Middle" then 1 else 0) ?_
  rintro name other ⟨entries, fragments, fragment, target, hraw, hlist, hmem, hsource, rfl⟩
  obtain ⟨key, hkey, hsame⟩ := exists_key_of_rawDefinition hraw
  rcases List.mem_cons.mp hkey with h | hkey
  · cases h
    cases hlist
  rcases List.mem_cons.mp hkey with h | hkey
  · cases h
    cases hlist
    rw [Scalar.same_text.mp (Scalar.same_symm hsame)]
    cases named_layered hmem hsource
    decide
  · cases List.mem_singleton.mp hkey
    cases hlist
    rw [Scalar.same_text.mp (Scalar.same_symm hsame)]
    cases named_layered hmem hsource
    decide

def layeredDocument (definitions : Entries Data) : Source :=
  .data (.map [(.text "definitions", .map definitions)])

/-- A definition whose composition leads through another one is merged, and so are all when the
document is compiled. -/
theorem layered_isMerged :
    (∃ node parts,
      (layered.definition (.text "Top")).outcome {} = .ok (.map node) ∧
      IsMerged layered.top parts node) ∧
    (({} : Session).compileDefinitions (layeredDocument layered.normalized.definitions)
        .absent).outcome =
      (({} : Session).compileDefinitions (layeredDocument layered.definitions)
        .absent).outcome := by
  obtain ⟨hmerged, -, hsame⟩ := definition_isMerged wellComposed_layered acyclic_layered
  obtain ⟨own, node, parts, hraw, hnode, -, hparts⟩ := hmerged (.text "Top") rfl
  cases hraw
  exact ⟨⟨node, parts, hnode [], hparts⟩, hsame _ _ _ _ _ rfl rfl⟩

end Context

end StoreSchema
