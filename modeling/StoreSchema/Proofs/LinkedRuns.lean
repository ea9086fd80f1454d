import StoreSchema.Proofs.Meaning
import StoreSchema.Proofs.LinkedNodes
import StoreSchema.Proofs.Intake

set_option autoImplicit false

namespace StoreSchema

open Value (SameRule SameRules SameRuleIfAny SameFields)

/-- A compiled definition and one that collections check alike: but for the values of the fields
they are the same, and the fields have the same rule. -/
structure Compiled.CheckedAlike (c c' : Compiled) : Prop where
  name : c.name = c'.name
  fields : ∃ fields fields', c.properties.entries? = some fields ∧
    c'.properties.entries? = some fields' ∧
    CollectionRule.ofFields fields = CollectionRule.ofFields fields'
  options : c.options = c'.options
  index : c.index = c'.index

theorem Compiled.CheckedAlike.ofField_eq {c c' : Compiled} (h : CheckedAlike c c') {name : Scalar}
    {v v' : Value} (hc : c.properties = .embedded [(name, v)])
    (hc' : c'.properties = .embedded [(name, v')]) :
    CollectionRule.ofField v = CollectionRule.ofField v' := by
  obtain ⟨fields, fields', hfields, hfields', hrules⟩ := h.fields
  rw [hc] at hfields
  rw [hc'] at hfields'
  cases hfields
  cases hfields'
  simp only [CollectionRule.ofFields, CollectionRule.fieldRules] at hrules
  injection hrules with hrules _ _
  injection hrules with hrule _
  exact (Prod.mk.inj hrule).2

namespace Context

theorem fieldsMeaning_of_property {ctx : Context} {name field : Scalar} {entries : Entries Data}
    {property : Data} {shape : Shape} {v : Value} (hnode : ctx.normalForm name = .ok (.map entries))
    (hproperties : Entries.value entries "properties" = .map [(field, property)])
    (hfield : ctx.isReserved field = false)
    (hshape : Shape.ofProperty ctx.extensionKey property = shape)
    (h : ctx.compileShape (ctx.meaning [name]) name field (Entries.value entries "required") shape =
      .ok (some v)) :
    ctx.fieldsMeaning [] name = .ok (.embedded [(field, v)]) := by
  rw [fieldsMeaning_map hnode, Shape.ofNode_of_property hproperties hshape]
  simp only [List.nil_append, compileNode, compileMembers, hfield, Bool.false_eq_true, if_false, h]
  rfl

section Redefined

variable {ctx : Context} {definitions' : Entries Data} {R : Scalar × Data → Scalar × Data → Prop}
  (hname : ∀ e e', R e e' → e.1 = e'.1) (h : List.Forall₂ R ctx.definitions definitions')

include hname h

theorem requireDefinition_redefined (name : Scalar) :
    ctx.requireDefinition name = (ctx.redefined definitions').requireDefinition name := by
  simp only [requireDefinition, rawDefinition, redefined]
  rcases Entries.get?_of_forall₂ hname h name with
    ⟨hnone, hnone'⟩ | ⟨_, raw, raw', -, -, hraw, hraw'⟩
  · rw [hnone, hnone']
  · rw [hraw, hraw']
    rfl

theorem alike_redefined : ctx.Alike (ctx.redefined definitions') where
  extensionKey := rfl
  isReserved _ := rfl
  override extension base many := by
    have hrequire := requireDefinition_redefined hname h
    unfold override
    simp only [hrequire]
    rfl
  extensions := rfl

end Redefined

section Additional

variable {ctx : Context} {resolve resolve' : Resolve (Except Fault)}

private theorem compileAdditional_alike (hresolve : ctx.ResolvesAlike resolve resolve')
    (name : Scalar) (properties : Entries Data) :
    Carries SameRules (ctx.compileAdditional resolve name properties)
      (ctx.compileAdditional resolve' name properties) := by
  induction properties with
  | nil => exact .value .nil
  | cons e rest ih =>
    obtain ⟨field, property⟩ := e
    simp only [compileAdditional]
    refine Carries.bind (R := (· = ·)) (.refl fun _ _ => rfl) ?_
    rintro entries _ rfl
    refine (compilePropertyWith_alike (compileShape_alike hresolve name _) field _).bind
      fun v w hsame => ih.bind fun more more' hmore => ?_
    cases hsame with
    | some hsame => exact .value (.cons ⟨rfl, hsame⟩ hmore)
    | none => exact .value hmore

end Additional

variable {P : Data → Data → Prop} {direct : Prop} {apart : Scalar → Prop} {ctx : Context}
  {definitions' : Entries Data}

variable (P direct apart ctx definitions') in
/-- Definitions of which some properties are replaced by such as may stand for them. A definition of
a name that is apart compiles to fields with the same rules by itself, and inside of none such the
properties compile to values with the same rule. If there are such definitions no field that is
listed directly is replaced, since it may be owned by a field of that name. -/
structure Replaces : Prop where
  definitions : List.Forall₂ (fun e e' => e.1 = e'.1 ∧ DefinitionLinked P direct e.2 e'.2)
    ctx.definitions definitions'
  key : ctx.extensionKey ≠ "type" ∧ ctx.extensionKey ≠ "properties"
  owned : (∀ name, ¬ apart name) ∨ (¬ direct ∧
    ∀ name entries, ctx.normalForm name = .ok (.map entries) →
      Entries.value entries "type" = .null ∨ (Entries.value entries "type").isTruthy = true)
  suits : ∀ (depth : Nat) (stack : List Scalar) (owner : Scalar), (∀ name ∈ stack, ¬ apart name) →
    ¬ apart owner → Suits P ctx (ctx.resolution (ctx.embedAt depth stack) stack)
      ((ctx.redefined definitions').resolution ((ctx.redefined definitions').embedAt depth stack)
        stack) owner
  embedded : ∀ target : String, apart (.text target) →
    ∀ (depth : Nat) (stack : List Scalar) (field : Scalar) (many : Bool),
      ctx.isReserved field = false → Carries SameRuleIfAny
        (ctx.embedAt depth stack field target many)
        ((ctx.redefined definitions').embedAt depth stack field target many)
  fields : ∀ name, apart name → Carries SameFields (ctx.fieldsMeaning [] name)
    ((ctx.redefined definitions').fieldsMeaning [] name)

namespace Replaces

variable (h : Replaces P direct apart ctx definitions') {stack : List Scalar}

include h

private theorem alike : ctx.Alike (ctx.redefined definitions') :=
  alike_redefined (fun _ _ => And.left) h.definitions

private theorem resolvesAlike {embed embed' : Embed (Except Fault)}
    (hembed : ∀ field target many, ctx.isReserved field = false →
      Carries SameRuleIfAny (embed field target many) (embed' field target many)) :
    ctx.ResolvesAlike (ctx.resolution embed stack)
      ((ctx.redefined definitions').resolution embed' stack) := by
  intro owner field target many hfield
  have hrequire := requireDefinition_redefined (fun _ _ => And.left) h.definitions (.text target)
  have hself : (ctx.redefined definitions').isSelfReference owner target stack =
      ctx.isSelfReference owner target stack := rfl
  simp only [resolution, ← hrequire, hself]
  refine Carries.bind (R := (· = ·)) (.refl fun _ _ => rfl) fun _ _ _ => ?_
  split
  · refine .value (.some (.refl ?_))
    cases many <;> rfl
  · exact hembed field target many hfield

private theorem embedAt_carries (depth : Nat) : ∀ stack : List Scalar,
    (∀ name ∈ stack, ¬ apart name) → ∀ (field : Scalar) (target : String) (many : Bool),
      ctx.isReserved field = false → Carries SameRuleIfAny
        (ctx.embedAt depth stack field target many)
        ((ctx.redefined definitions').embedAt depth stack field target many) := by
  induction depth with
  | zero => exact fun _ _ _ _ _ _ => .fault _ _
  | succ depth ih =>
    intro stack hstack field target many hfield
    by_cases htarget : apart (.text target)
    · exact h.embedded target htarget (depth + 1) stack field many hfield
    let inner := stack ++ [Scalar.text target]
    have hinner : ∀ name ∈ inner, ¬ apart name := by
      intro name hname
      rcases List.mem_append.mp hname with hname | hname
      · exact hstack name hname
      · rwa [List.mem_singleton.mp hname]
    have hresolve : ctx.ResolvesAlike (ctx.resolution (ctx.embedAt depth inner) inner)
        ((ctx.redefined definitions').resolution ((ctx.redefined definitions').embedAt depth inner)
          inner) := h.resolvesAlike (ih inner hinner)
    have hsuits := h.suits depth inner (.text target) hinner htarget
    have hlinked : BothYield (DataLinked P direct) (ctx.normalForm (.text target))
        ((ctx.redefined definitions').normalForm (.text target)) :=
      normalForm_linkedTo h.definitions (.text target)
    simp only [embedAt]
    refine (Carries.of_bothYield hlinked).bind_of_ok fun node node' hnode hlinked => ?_
    have hplain := isComposed_normalForm hnode
    rw [← h.alike.compileTarget_eq]
    cases hlinked with
    | same => exact compileTarget_alike hresolve hplain _ field many
    | node hnodes =>
      refine compileTarget_linked hresolve hnodes hsuits hplain h.key ?_ field many
      rcases h.owned with hnone | ⟨hdirect, htypes⟩
      · exact Or.inr fun field _ => h.suits depth inner field hinner (hnone field)
      · exact Or.inl ⟨hdirect, htypes _ _ hnode⟩

private theorem meaning_eq (stack : List Scalar) :
    (ctx.redefined definitions').meaning stack = (ctx.redefined definitions').resolution
      ((ctx.redefined definitions').embedAt ctx.referenceBound stack) stack := by
  have hlength : (ctx.redefined definitions').definitions.length = ctx.definitions.length :=
    h.definitions.length_eq.symm
  unfold meaning referenceBound
  rw [hlength]

private theorem meaning_alike (hstack : ∀ name ∈ stack, ¬ apart name) :
    ctx.ResolvesAlike (ctx.meaning stack) ((ctx.redefined definitions').meaning stack) := by
  rw [h.meaning_eq]
  exact h.resolvesAlike (h.embedAt_carries _ stack hstack)

private theorem fieldsMeaning_carries (name : Scalar) :
    Carries SameFields (ctx.fieldsMeaning [] name)
      ((ctx.redefined definitions').fieldsMeaning [] name) := by
  by_cases hname : apart name
  · exact h.fields name hname
  have hstack : ∀ other ∈ [] ++ [name], ¬ apart other := by
    intro other hother
    rwa [List.mem_singleton.mp hother]
  have hlinked : BothYield (DataLinked P direct) (ctx.normalForm name)
      ((ctx.redefined definitions').normalForm name) := normalForm_linkedTo h.definitions name
  unfold fieldsMeaning
  refine (Carries.of_bothYield hlinked).bind_of_ok fun node node' hnode hlinked => ?_
  have hresolve := h.meaning_alike hstack
  have hplain := isComposed_normalForm hnode
  rw [← h.alike.compileSetWith_eq]
  cases hlinked with
  | same => exact compileSetWith_alike hresolve hplain name
  | node hnodes =>
    have hsuits := h.suits ctx.referenceBound ([] ++ [name]) name hstack hname
    rw [← h.meaning_eq] at hsuits
    exact compileSetWith_linked hresolve hnodes hsuits hplain

private theorem definitionMeaning_carries (name : Scalar) :
    Carries (Option.Rel Compiled.CheckedAlike) (ctx.definitionMeaning [] name)
      ((ctx.redefined definitions').definitionMeaning [] name) := by
  unfold definitionMeaning
  rw [← h.alike.compileDefinitionWith_eq]
  unfold compileDefinitionWith
  split
  · exact .value .none
  refine (h.fieldsMeaning_carries name).bind fun properties properties' hproperties => ?_
  have hnone : ∀ other ∈ ([] : List Scalar), ¬ apart other := nofun
  refine (compileAdditional_alike (h.meaning_alike hnone) name _).bind fun added added' hadded => ?_
  refine Carries.bind (R := (· = ·)) (.refl fun _ _ => rfl) ?_
  rintro index _ rfl
  obtain ⟨fields, fields', hfields, hfields', hsame⟩ := hproperties.addFields hadded
  exact .value (.some ⟨rfl, ⟨fields, fields', hfields, hfields', hsame.ofFields⟩, rfl, rfl⟩)

private theorem compileEach_carries (names : List Scalar) :
    Carries (List.Forall₂ Compiled.CheckedAlike)
      (compileEach (ctx.definitionMeaning []) names)
      (compileEach ((ctx.redefined definitions').definitionMeaning []) names) := by
  induction names with
  | nil => exact .value .nil
  | cons name rest ih =>
    refine (h.definitionMeaning_carries name).bind fun first first' hfirst =>
      ih.bind fun more more' hmore => .value ?_
    cases hfirst with
    | none => exact hmore
    | some hfirst => exact .cons hfirst hmore

/-- Definitions that compile do so after the replacement, and are checked alike. -/
theorem compileAll_carries :
    Carries (List.Forall₂ Compiled.CheckedAlike) ctx.compileAll
      (ctx.redefined definitions').compileAll := by
  have hkeys : Entries.keys (ctx.redefined definitions').definitions =
      Entries.keys ctx.definitions :=
    (Entries.keys_of_forall₂ (fun _ _ => And.left) h.definitions).symm
  rw [compileAll_eq, compileAll_eq, hkeys]
  exact h.compileEach_carries _

end Replaces

end Context

theorem Document.gatherExtensions_congr {key : String} {definitions definitions' : Entries Data}
    (h : List.Forall₂ (fun e e' => e.1 = e'.1 ∧ e.2.value key = e'.2.value key) definitions
      definitions') (block : Data) :
    gatherExtensions key block definitions = gatherExtensions key block definitions' := by
  have hall : (definitions.forM fun e => Extensions.register e.1 (e.2.value key)) =
      definitions'.forM fun e => Extensions.register e.1 (e.2.value key) := by
    induction h with
    | nil => rfl
    | cons hfirst _ ih => simp only [List.forM, hfirst.1, hfirst.2, ih]
  unfold gatherExtensions
  rw [hall]

namespace Session

variable {session : Session} {source source' : Source}
  {document document' definitions definitions' : Entries Data} {key : String}
  (hdecode : Document.decode source = .ok document)
  (hdecode' : Document.decode source' = .ok document')
  (hshares : ∀ sharing, source.sharing = some sharing → Document.Shares key document sharing)
  (hshares' : ∀ sharing, source'.sharing = some sharing → Document.Shares key document' sharing)
  (hne : key ≠ "definitions")
  (hkey : ∀ found, session.extensionKeyOf document = .ok found → found = key)
  (hdefinitions : Entries.value document "definitions" = .map definitions)
  (hdefinitions' : Entries.value document' "definitions" = .map definitions')
  (hrest : ∀ word, word ≠ "definitions" →
    Entries.value document' word = Entries.value document word)

include hdecode hdecode' hshares hshares' hne hkey hdefinitions hdefinitions' hrest

/-- A document with other definitions under the same names and with the same blocks is taken in as
the first one is, but for these definitions. -/
theorem contextOf_redefined
    (hblocks : List.Forall₂ (fun e e' => e.1 = e'.1 ∧ e.2.value key = e'.2.value key) definitions
      definitions') {ctx : Context} (hctx : session.contextOf source .absent = .ok ctx) :
    session.contextOf source' .absent = .ok (ctx.redefined definitions') := by
  obtain ⟨hbuilds, hfound⟩ := builds_of_contextOf hdecode hshares hne hkey hctx
  have hown : ∀ {document definitions : Entries Data},
      Entries.value document "definitions" = .map definitions →
        Document.definitionsOf document = .ok definitions := by
    intro document definitions hdefinitions
    unfold Document.definitionsOf
    rw [hdefinitions]
  have hsame : definitions = ctx.definitions :=
    Except.ok.inj ((hown hdefinitions).symm.trans hbuilds.definitions)
  have hversion : Document.detectVersion document' = Document.detectVersion document := by
    unfold Document.detectVersion
    rw [hrest "swagger" (by decide)]
  have hkey' : ∀ found, session.extensionKeyOf document' = .ok found → found = key := by
    intro found hfound
    refine hkey found ?_
    rw [← hfound, extensionKeyOf, extensionKeyOf, hversion]
  rw [contextOf_data hdecode' hshares' hne hkey']
  refine (contextOf_eq_ok_iff rfl rfl).mpr
    { definitions := hown hdefinitions', settings := hbuilds.settings,
      version := hversion ▸ hbuilds.version, extensions := ?_, validators := hbuilds.validators }
  have hgathered := hbuilds.extensions
  have hsamekey : (ctx.redefined definitions').extensionKey = key := hfound
  rw [hfound, ← hsame] at hgathered
  rw [hsamekey, hrest key hne]
  exact (congrArg (fun step => step.run.run {})
    (Document.gatherExtensions_congr hblocks (Entries.value document key))).symm.trans hgathered

/-- A document that compiles does so after properties are replaced by such as may stand for them,
and collections check alike what it compiles to. -/
theorem compileDefinitions_replaced {P : Data → Data → Prop} {direct : Prop}
    {apart : Scalar → Prop}
    (hblocks : List.Forall₂ (fun e e' => e.1 = e'.1 ∧ e.2.value key = e'.2.value key) definitions
      definitions')
    (hreplaces : ∀ ctx, session.contextOf source .absent = .ok ctx → ctx.extensionKey = key →
      ctx.definitions = definitions → Context.Replaces P direct apart ctx definitions') :
    Carries (List.Forall₂ Compiled.CheckedAlike)
      (session.compileDefinitions source .absent).outcome
      (session.compileDefinitions source' .absent).outcome := by
  intro compiled hcompiled
  obtain ⟨ctx, hctx, hall⟩ := exists_contextOf hcompiled
  obtain ⟨hbuilds, hfound⟩ := builds_of_contextOf hdecode hshares hne hkey hctx
  have hsame : ctx.definitions = definitions := by
    have hown : Document.definitionsOf document = .ok definitions := by
      unfold Document.definitionsOf
      rw [hdefinitions]
    exact Except.ok.inj (hbuilds.definitions.symm.trans hown)
  have hctx' := contextOf_redefined hdecode hdecode' hshares hshares' hne hkey hdefinitions
    hdefinitions' hrest hblocks hctx
  rw [outcome_compileDefinitions hctx']
  exact (hreplaces ctx hctx hfound hsame).compileAll_carries compiled hall

end Session

end StoreSchema
