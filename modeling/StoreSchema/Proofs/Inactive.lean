import StoreSchema.Proofs.Exclusion
import StoreSchema.Proofs.InactiveKey
import StoreSchema.Proofs.Respelling
import StoreSchema.Proofs.Intake

/-!
Documents with entries under the extension key of the other kind of document.

A document is read for one key, by its version. Main statement of this module: a document compiles
to the same without what it holds under the other key, if none of it is listed as a field and none
stands in a node that an extension block is laid on.
-/

set_option autoImplicit false

namespace StoreSchema

open Data (cleared)

/-- Definitions that are the same, or that compare once an entry under the other key is removed. -/
inductive ClearedAs (key other : String) : Data → Data → Prop
  | same (d : Data) : ClearedAs key other d d
  | node {es es' : Entries Data} (h : NodeLike key es es') :
      ClearedAs key other (.map es) (.map (Entries.erase es' (.text other)))

variable {key other : String} {es es' : Entries Data}

namespace NodeLike

theorem distinctKeys (h : NodeLike key es es') : Entries.DistinctKeys es' := by
  have hkeys := Entries.keys_of_forall₂ (fun _ _ => EntryLike.name_eq) h.entries
  unfold Entries.DistinctKeys
  rw [← hkeys]
  exact h.distinct

theorem isMap_value_eq (h : NodeLike key es es') (word : String) :
    (Entries.value es word).isMap = (Entries.value es' word).isMap := by
  unfold Entries.value
  rcases h.get?_eq_or word with heq | ⟨d, d', hlike, hd, hd'⟩
  · rw [heq]
  · rw [hd, hd']
    cases hlike <;> rfl

end NodeLike

namespace Context

variable {ctx : Context} {met : Scalar → String → Prop} {lookup : Scalar → Except Fault Data}
  {resolve : Resolve (Except Fault)}

section Node

variable (hkeys : ExtensionKeys ctx.extensionKey other) (hdistinct : Entries.DistinctKeys es)
  (hlisted : Shape.listsFields es = true → (Entries.value es other).isMap = false)
  (hplain : Composition.isComposed (.map es) = false)

include hkeys hdistinct hlisted hplain

private theorem compileSetWith_erase_other (name : Scalar) :
    ctx.compileSetWith lookup resolve name (.map (Entries.erase es (.text other))) =
      ctx.compileSetWith lookup resolve name (.map es) := by
  have hplain' := (isComposed_erase hkeys.not_mem_nodeKeywords (.map es)).trans hplain
  rw [compileSetWith_map hplain, compileSetWith_map hplain',
    Shape.ofNode_erase_other hkeys hdistinct hlisted]

private theorem compileTarget_erase_other (name field : Scalar) (many : Bool) :
    ctx.compileTarget lookup resolve name field many (.map (Entries.erase es (.text other))) =
      ctx.compileTarget lookup resolve name field many (.map es) := by
  have hvalue := fun {word} (hword : word ∈ Shape.wordsOfLists) =>
    Entries.value_erase_word (hkeys.ne_of_listed hword) es
  have hget := fun {word} (hword : word ∈ Shape.wordsOfLists) =>
    Entries.get?_erase_word (hkeys.ne_of_listed hword) es
  have hcontainer : isContainer (Entries.erase es (.text other)) = isContainer es := by
    simp only [isContainer, hvalue (by decide : "type" ∈ Shape.wordsOfLists), Entries.has,
      hget (by decide : "properties" ∈ Shape.wordsOfLists),
      hget (by decide : "allOf" ∈ Shape.wordsOfLists)]
  have hblock : Data.Unblocked ctx.extensionKey (Entries.erase es (.text ctx.extensionKey)) := by
    unfold Data.Unblocked
    rw [Entries.value_erase, if_pos (Scalar.same_refl _)]
    rfl
  have hread := fun {word} (hword : ctx.extensionKey ≠ word) => Entries.value_erase_word hword es
  have hsame : Shape.ofProperty ctx.extensionKey
        (.map (Entries.erase (Entries.erase es (.text ctx.extensionKey)) (.text other))) =
      Shape.ofProperty ctx.extensionKey (.map (Entries.erase es (.text ctx.extensionKey))) := by
    refine Shape.ofProperty_erase_other hkeys (hdistinct.erase _) hblock fun _ hdirect => ?_
    have hne : ∀ word ∈ Shape.wordsOfLists, ctx.extensionKey ≠ word :=
      fun word hword heq => hkeys.active (heq ▸ hword)
    rw [Shape.listsFields, hread (hne "properties" (by decide)), hread (hne "type" (by decide))]
      at hdirect
    rw [hread hkeys.ne.symm]
    exact hlisted hdirect
  rw [compileTarget_map, compileTarget_map, hcontainer,
    hvalue (by decide : "type" ∈ Shape.wordsOfLists),
    hvalue (by decide : "items" ∈ Shape.wordsOfLists),
    compileSetWith_erase_other hkeys hdistinct hlisted hplain, Entries.erase_comm]
  simp only [compilePropertyWith, hsame]

end Node

/-- Definitions that compare compile to the same, if none lists as a field what is removed. -/
theorem meansAs_of_cleared (hkeys : ExtensionKeys ctx.extensionKey other) {name : Scalar}
    {node node' : Data} (h : ClearedAs ctx.extensionKey other node node')
    (hplain : Composition.isComposed node = false)
    (hlisted : ∀ es, node = .map es → Shape.listsFields es = true →
      (Entries.value es other).isMap = false) : ctx.MeansAs met name node node' := by
  cases h with
  | same _ => exact ⟨hplain, fun _ _ => rfl, fun _ _ _ _ _ _ _ _ _ => rfl⟩
  | @node es es' hnode =>
    have hplain' : Composition.isComposed (.map es') = false :=
      hnode.isComposed_eq.symm.trans hplain
    have hlisted' : Shape.listsFields es' = true → (Entries.value es' other).isMap = false := by
      rw [← hnode.listsFields_eq, ← hnode.isMap_value_eq]
      exact hlisted es rfl
    refine ⟨(isComposed_erase hkeys.not_mem_nodeKeywords (.map es')).trans hplain', ?_, ?_⟩
    · intro lookup resolve
      rw [hnode.compileSetWith_eq hplain,
        compileSetWith_erase_other hkeys hnode.distinctKeys hlisted' hplain']
    · intro lookup resolve field target many _ _ _ _
      rw [hnode.compileTarget_eq hplain,
        compileTarget_erase_other hkeys hnode.distinctKeys hlisted' hplain']

section Merging

variable (hkeys : ExtensionKeys key other)

include hkeys

private theorem merge_erase_other (es : Entries Data) :
    merge lookup (.map (Entries.erase es (.text other))) =
      (merge lookup (.map es)).map fun merged => Entries.erase merged (.text other) := by
  have hfragments : Composition.fragments (Entries.erase es (.text other)) =
      Composition.fragments es := by
    unfold Composition.fragments
    rw [Entries.value_erase_word (hkeys.ne_of_listed (by decide : "allOf" ∈ Shape.wordsOfLists))]
  simp only [merge, Data.members, orMisuse_ok, ofExcept_eq, ok_bind, hfragments]
  cases Composition.fragments es with
  | error misuse => rfl
  | ok fragments =>
    simp only [orMisuse_ok, ok_bind]
    cases gather lookup .empty fragments with
    | error fault => rfl
    | ok gathered =>
      simp only [ok_bind, finish_erase hkeys.not_mem_nodeKeywords]
      rfl

private theorem partLike_of_cleared {node node' : Data} (h : ClearedAs key other node node') :
    PartLike key node node' := by
  cases h with
  | same _ => exact .same _
  | @node es es' hnode =>
    obtain ⟨hreference, hproperties, hrequired⟩ := hnode.fragmentLike
    have hvalue := fun {word} (hword : word ∈ Shape.wordsOfLists) =>
      Entries.value_erase_word (hkeys.ne_of_listed hword) es'
    refine .changed ⟨?_, ?_, ?_⟩
    · rw [Entries.get?_erase_word
        (hkeys.ne_of_listed (by decide : "$ref" ∈ Shape.wordsOfLists))]
      exact hreference
    · rw [Composition.Gathered.propertiesOf, Composition.Gathered.propertiesOf,
        hvalue (by decide : "properties" ∈ Shape.wordsOfLists)]
      exact hproperties
    · rw [hrequired, Composition.Gathered.requiredOf, Composition.Gathered.requiredOf,
        hvalue (by decide : "required" ∈ Shape.wordsOfLists)]

end Merging

private theorem normalNode_cleared (hkeys : ExtensionKeys key other)
    {lookup' : Scalar → Except Fault Data}
    (hlookup : ∀ name, BothYield (ClearedAs key other) (lookup name) (lookup' name))
    (h : NodeLike key es es') :
    BothYield (ClearedAs key other)
      (if Composition.isComposed (.map es) then (do
          let merged ← merge lookup (.map es)
          pure (.map merged))
        else pure (.map es))
      (if Composition.isComposed (.map (Entries.erase es' (.text other))) then (do
          let merged ← merge lookup' (.map (Entries.erase es' (.text other)))
          pure (.map merged))
        else pure (.map (Entries.erase es' (.text other)))) := by
  have hcomposed : Composition.isComposed (.map (Entries.erase es' (.text other))) =
      Composition.isComposed (.map es) :=
    (isComposed_erase hkeys.not_mem_nodeKeywords (.map es')).trans h.isComposed_eq.symm
  rw [hcomposed]
  split
  · have hmerged : BothYield (NodeLike key) (merge lookup (.map es)) (merge lookup' (.map es')) :=
      merge_like h fun _ _ _ _ target _ =>
        (hlookup (.text target)).mono fun _ _ => partLike_of_cleared hkeys
    rw [merge_erase_other hkeys]
    rcases hmerged.outcomes with ⟨fault, hfault, hfault'⟩ | ⟨merged, merged', hok, hok', hlike⟩
    · rw [hfault, hfault']
      exact .fault fault
    · rw [hok, hok']
      exact .value (.node hlike)
  · exact .value (.node h)

section Definitions

def clearedDefinitions (ctx : Context) (other : String) : Entries Data :=
  Entries.mapValues (cleared ctx.extensionKey other .node) ctx.definitions

/-- What a definition holds under the other key is not heeded in the nodes inside it. -/
def UnheededIn (key other : String) (d : Data) : Prop :=
  ∀ es, d = .map es →
    Data.UnheededEntries key other (Part.inNode key other (Shape.listsFields es)) es

variable (hkeys : ExtensionKeys ctx.extensionKey other)
  (hdistinct : ∀ e ∈ ctx.definitions, e.2.Throughout Entries.DistinctKeys)
  (hunheeded : ∀ e ∈ ctx.definitions, UnheededIn ctx.extensionKey other e.2)

private theorem rawDefinition_cleared (name : Scalar) :
    (ctx.redefined (ctx.clearedDefinitions other)).rawDefinition name =
      (ctx.rawDefinition name).map (cleared ctx.extensionKey other .node) := by
  simp only [rawDefinition, redefined, clearedDefinitions, Entries.get?_mapValues]
  cases Entries.get? ctx.definitions name <;> rfl

include hkeys hdistinct hunheeded

private theorem normalAt_cleared (depth : Nat) : ∀ name : Scalar,
    BothYield (ClearedAs ctx.extensionKey other) (ctx.normalAt depth name)
      ((ctx.redefined (ctx.clearedDefinitions other)).normalAt depth name) := by
  induction depth with
  | zero => exact fun _ => .fault Fault.endless
  | succ depth ih =>
    intro name
    have hcleared : (ctx.redefined (ctx.clearedDefinitions other)).rawDefinition name =
        (ctx.rawDefinition name).map (cleared ctx.extensionKey other .node) :=
      rawDefinition_cleared name
    cases hraw : ctx.rawDefinition name with
    | error fault =>
      rw [hraw] at hcleared
      rw [normalAt, normalAt, readDefinition_of_unregistered hraw,
        readDefinition_of_unregistered hcleared]
      exact .fault fault
    | ok raw =>
      rw [hraw] at hcleared
      obtain ⟨k, hmem, -⟩ := exists_key_of_rawDefinition hraw
      rw [normalAt, normalAt, readDefinition_of_raw hraw, readDefinition_of_raw hcleared]
      cases raw with
      | map es =>
        have hnode := nodeLike_cleared hkeys (hdistinct _ hmem) (hunheeded _ hmem es rfl)
        exact normalNode_cleared hkeys ih hnode
      | _ => exact .value (.same _)

theorem redefines_cleared (hlisted : ∀ name es, ctx.normalForm name = .ok (.map es) →
    Shape.listsFields es = true → (Entries.value es other).isMap = false) :
    ctx.Redefines (fun _ _ => True) (ctx.clearedDefinitions other) where
  covers := covers_any
  keys := (Entries.keys_mapValues _ _).symm
  requireDefinition name := by
    rw [requireDefinition, requireDefinition, rawDefinition_cleared]
    cases ctx.rawDefinition name <;> rfl
  normalForm name := by
    have hlength : (ctx.redefined (ctx.clearedDefinitions other)).definitions.length =
        ctx.definitions.length := List.length_map _
    have hlike := normalAt_cleared hkeys hdistinct hunheeded (ctx.definitions.length + 1) name
    rw [normalForm, normalForm, hlength]
    rcases hlike.outcomes with ⟨fault, hfault, hfault'⟩ | ⟨node, node', hnode, hnode', hlike⟩
    · rw [hfault, hfault']
      exact .fault fault
    · rw [hnode, hnode']
      have hnormal : ctx.normalForm name = .ok node := hnode
      refine .value (meansAs_of_cleared hkeys hlike (isComposed_normalForm hnormal) ?_)
      rintro es rfl
      exact hlisted name es hnormal

theorem compileAll_cleared (hlisted : ∀ name es, ctx.normalForm name = .ok (.map es) →
    Shape.listsFields es = true → (Entries.value es other).isMap = false) :
    (ctx.redefined (ctx.clearedDefinitions other)).compileAll = ctx.compileAll := by
  have hredefines := redefines_cleared hkeys hdistinct hunheeded hlisted
  refine hredefines.compileAll_eq fun name => ?_
  have hreads : ∀ shape : Shape, shape.Reads (fun _ => True) fun _ _ => True :=
    fun _ => Shape.reads_any _
  refine hredefines.agrees.compileAdditional_eq ?_ name _ fun _ _ _ _ => hreads _
  intro owner field target many _ hopen
  exact hredefines.meaning_eq [] owner field target many trivial hopen

end Definitions

end Context

namespace Document

/-- A document without what it holds under the other key, in itself and in its definitions. -/
def cleared (key other : String) (document : Entries Data) : Entries Data :=
  Entries.erase (Entries.adjust document (.text "definitions") (Data.cleared key other .fields))
    (.text other)

variable {document definitions : Entries Data}

theorem clearedEntries_fields (definitions : Entries Data) :
    Data.clearedEntries key other (fun _ => .node) definitions =
      Entries.mapValues (Data.cleared key other .node) definitions := by
  induction definitions with
  | nil => rfl
  | cons e rest ih =>
    rw [Data.clearedEntries, ih]
    rfl

theorem value_cleared {word : String} (hword : word ≠ "definitions") (hother : other ≠ word) :
    Entries.value (cleared key other document) word = Entries.value document word := by
  rw [cleared, Entries.value_erase_word hother, Entries.value_adjust_other hword.symm]

theorem definitionsOf_cleared (hother : other ≠ "definitions") :
    definitionsOf (cleared key other document) =
      (definitionsOf document).map (Entries.mapValues (Data.cleared key other .node)) := by
  unfold definitionsOf cleared
  rw [Entries.value_erase_word hother, Entries.value_adjust_same "definitions" _ rfl]
  cases Entries.value document "definitions" with
  | map definitions =>
    dsimp only [Data.cleared]
    rw [clearedEntries_fields]
    rfl
  | _ =>
    dsimp only [Data.cleared]
    split <;> rfl

theorem detectVersion_cleared (hother : other ≠ "swagger") :
    detectVersion (cleared key other document) = detectVersion document := by
  unfold detectVersion
  rw [value_cleared (by decide) hother]

private theorem value_cleared_node (hkeys : ExtensionKeys key other) (d : Data) :
    (Data.cleared key other .node d).value key = d.value key := by
  cases d with
  | map es =>
    exact (Entries.value_erase_word hkeys.ne _).trans (value_clearedInside hkeys (Or.inl rfl) es)
  | _ => rfl

theorem gatherExtensions_cleared (hkeys : ExtensionKeys key other) (block : Data) :
    gatherExtensions key block (Entries.mapValues (Data.cleared key other .node) definitions) =
      gatherExtensions key block definitions := by
  have hall : ∀ es : Entries Data,
      (Entries.mapValues (Data.cleared key other .node) es).forM
          (fun e => Extensions.register e.1 (e.2.value key)) =
        es.forM fun e => Extensions.register e.1 (e.2.value key) := by
    intro es
    induction es with
    | nil => rfl
    | cons e rest ih =>
      have hblock := value_cleared_node hkeys e.2
      simp only [List.forM_eq_forM] at ih ⊢
      rw [Entries.mapValues, List.map_cons, ← Entries.mapValues, List.forM_cons, List.forM_cons, ih,
        hblock]
  unfold gatherExtensions
  rw [hall]

end Document

namespace Session

variable {session : Session} {source : Source} {document : Entries Data}

private theorem equip_cleared {bare : Context} (hkeys : ExtensionKeys bare.extensionKey other)
    {definitions : Entries Data} (hbare : bare.definitions = definitions)
    (hdefinitions : Document.definitionsOf document = .ok definitions)
    (hdefinitions' : Document.definitionsOf (Document.cleared bare.extensionKey other document) =
      .ok (bare.clearedDefinitions other))
    (hvalue : Entries.value (Document.cleared bare.extensionKey other document)
      bare.extensionKey = Entries.value document bare.extensionKey) :
    Document.equip (bare.redefined (bare.clearedDefinitions other)) session.library
        (Document.withDefinitions (Document.cleared bare.extensionKey other document)
          (bare.clearedDefinitions other)) (bare.clearedDefinitions other) =
      (Document.equip bare session.library (Document.withDefinitions document definitions)
        definitions).map fun ctx => ctx.redefined (ctx.clearedDefinitions other) := by
  subst hbare
  have hkey : (bare.redefined (bare.clearedDefinitions other)).extensionKey =
    bare.extensionKey := rfl
  unfold Document.equip
  rw [hkey, Document.value_withDefinitions hdefinitions,
    Document.value_withDefinitions hdefinitions', hvalue, Context.clearedDefinitions,
    Document.gatherExtensions_cleared hkeys]
  rcases (Document.gatherExtensions bare.extensionKey (Entries.value document bare.extensionKey)
    bare.definitions).run.run {} with ⟨gathered, extensions⟩
  cases gathered with
  | error misuse => rfl
  | ok _ =>
    simp only [orMisuse_ok, ok_bind, Context.redefined]
    cases session.library.loadAll bare.settings.validatorsBaseDir bare.validators
      extensions.validatorPaths <;> rfl

private theorem contextOf_cleared (hkeys : ExtensionKeys key other)
    (hwords : ∀ word ∈ ["swagger", "definitions"], key ≠ word ∧ other ≠ word)
    (hkey : ∀ found, session.extensionKeyOf document = .ok found → found = key) :
    session.contextOf (.data (.map (Document.cleared key other document))) .absent =
      (session.contextOf (.data (.map document)) .absent).map fun ctx =>
        ctx.redefined (ctx.clearedDefinitions other) := by
  have hdecode : ∀ document, Document.decode (.data (.map document)) = .ok document := fun _ => rfl
  have hextra : Document.decodeExtra .absent = .ok .null := rfl
  have hother := (hwords "definitions" (by decide)).2
  rw [contextOf_eq, contextOf_eq, hdecode, hdecode, hextra]
  simp only [ok_bind]
  rw [Document.definitionsOf_cleared hother,
    Document.detectVersion_cleared (hwords "swagger" (by decide)).2]
  cases hdefinitions : Document.definitionsOf document with
  | error fault => rfl
  | ok definitions =>
    cases hversion : (Document.detectVersion document).outcome with
    | error fault => rfl
    | ok version =>
      let bare : Context :=
        { definitions, settings := session.settings.compiler, version,
          validators := session.validators }
      have hfound : bare.extensionKey = key := by
        refine hkey _ ?_
        rw [extensionKeyOf, hversion]
        rfl
      have hdefinitions' :
          Document.definitionsOf (Document.cleared bare.extensionKey other document) =
            .ok (bare.clearedDefinitions other) := by
        rw [Document.definitionsOf_cleared hother, hdefinitions]
        rfl
      have hvalue := @Document.value_cleared key other document _
        (hwords "definitions" (by decide)).1 hkeys.ne
      subst hfound
      exact equip_cleared hkeys rfl hdefinitions hdefinitions' hvalue

/-- Only the active extension key has an effect: a document compiles to the same, or fails in the
same way, without what it holds under the other key, if none of that is listed as a field and none
stands in a node that an extension block is laid on. -/
theorem compileDefinitions_cleared (hdecode : Document.decode source = .ok document)
    (hshares : ∀ sharing, source.sharing = some sharing → Document.Shares key document sharing)
    (hkeys : ExtensionKeys key other)
    (hwords : ∀ word ∈ ["swagger", "definitions"], key ≠ word ∧ other ≠ word)
    (hkey : ∀ found, session.extensionKeyOf document = .ok found → found = key)
    (hdistinct : (Data.map document).Throughout Entries.DistinctKeys)
    (hunheeded : ∀ definitions, Document.definitionsOf document = .ok definitions →
      ∀ e ∈ definitions, Context.UnheededIn key other e.2)
    (hlisted : ∀ ctx, session.contextOf source .absent = .ok ctx →
      ∀ name entries, ctx.normalForm name = .ok (.map entries) →
        Shape.listsFields entries = true → (Entries.value entries other).isMap = false) :
    (session.compileDefinitions (.data (.map (Document.cleared key other document)))
        .absent).outcome =
      (session.compileDefinitions source .absent).outcome := by
  have hdata := contextOf_data hdecode hshares (hwords "definitions" (by decide)).1 hkey
  rw [outcome_compileDefinitions_eq, outcome_compileDefinitions_eq,
    contextOf_cleared hkeys hwords hkey, ← hdata]
  cases hctx : session.contextOf source .absent with
  | error fault => rfl
  | ok ctx =>
    obtain ⟨hbuilds, hfound⟩ := builds_of_contextOf hdecode hshares
      (hwords "definitions" (by decide)).1 hkey hctx
    have hthroughout := Document.throughout_definitionsOf hdistinct hbuilds.definitions
    subst hfound
    exact Context.compileAll_cleared hkeys hthroughout (hunheeded _ hbuilds.definitions)
      (hlisted ctx hctx)

section People

/-- A document for one key in which a definition has a block under the other. -/
def people : Entries Data :=
  [(.text "swagger", .int 2), (.text "definitions", .map [(.text "Person", .map person)])]
where
  block : Entries Data := [(.text "schema-options", .map [(.text "collection", .text "people")])]
  plain : Entries Data := [(.text "name", .map [(.text "type", .text "string")])]
  person : Entries Data := plain ++ [(.text "_mongoose", .map block)]

private theorem ofProperty_block :
    Shape.ofProperty "x-swagger-mongoose" (.map people.block) =
      .fields .null [(.text "schema-options", .fields .null [])] := by
  have hinner : Shape.ofProperty "x-swagger-mongoose"
      (.map [(.text "collection", .text "people")]) = .fields .null [] := by
    have hform : Form.ofEntries "x-swagger-mongoose"
        [(.text "collection", .text "people")] = .embedded := rfl
    rw [Shape.ofProperty_map, hform,
      @Shape.ofNode_of_direct _ [(.text "collection", .text "people")] rfl rfl]
    simp only [Shape.members]
    rfl
  have hform : Form.ofEntries "x-swagger-mongoose" people.block = .embedded := rfl
  have hmembers : Shape.members "x-swagger-mongoose" true people.block =
      [(.text "schema-options", .fields .null [])] := by
    rw [← hinner]
    simp only [people.block, Shape.members]
    rfl
  rw [Shape.ofProperty_map, hform, @Shape.ofNode_of_direct _ people.block rfl rfl, hmembers]
  rfl

private theorem ofNode_person :
    Shape.ofNode "x-swagger-mongoose" people.person =
      .fields .null [(.text "name", .typed (.ok (.scalar .text)) none),
        (.text "_mongoose", .fields .null [(.text "schema-options", .fields .null [])])] := by
  have hname := @Shape.ofProperty_string "x-swagger-mongoose" (by decide)
  rw [@Shape.ofNode_of_direct _ people.person rfl rfl, ← ofProperty_block, ← hname]
  simp only [people.person, people.plain, List.singleton_append, Shape.members]
  rfl

private theorem ofNode_plain :
    Shape.ofNode "x-swagger-mongoose" people.plain =
      .fields .null [(.text "name", .typed (.ok (.scalar .text)) none)] := by
  have hname := @Shape.ofProperty_string "x-swagger-mongoose" (by decide)
  rw [@Shape.ofNode_of_direct _ people.plain rfl rfl, ← hname]
  simp only [people.plain, Shape.members]
  rfl

def peopleOf (person : Entries Data) : Context where
  definitions := [(.text "Person", .map person)]
  version := Number.Binary64.ofInt? 2

def compiledPerson (more : Entries Value) : Compiled where
  name := .text "Person"
  properties := .embedded ((.text "name", .map [(.text "type", .type .text)]) :: more)
  options := []
  index := none

private theorem compileAll_people {person : Entries Data} {more : Entries Value}
    {members : List (Scalar × Shape)} (hplain : Composition.isComposed (.map person) = false)
    (hnode : Shape.ofNode "x-swagger-mongoose" person =
      .fields .null ((.text "name", .typed (.ok (.scalar .text)) none) :: members))
    (hmore : (peopleOf person).compileMembers ((peopleOf person).meaning [.text "Person"])
      (.text "Person") .null members = .ok more) :
    (peopleOf person).compileAll = .ok [compiledPerson more] := by
  have hkey : (peopleOf person).extensionKey = "x-swagger-mongoose" := rfl
  have hnormal : (peopleOf person).normalForm (.text "Person") = .ok (.map person) := by
    rw [Context.normalForm_eq, Context.readDefinition_of_raw rfl, hplain]
    rfl
  have hfields : (peopleOf person).fieldsMeaning [] (.text "Person") =
      .ok (compiledPerson more).properties := by
    have hname : (peopleOf person).isReserved (.text "name") = false := rfl
    rw [Context.fieldsMeaning_map hnormal, hkey, hnode]
    simp only [List.nil_append, Context.compileNode, Context.compileMembers, Context.compileShape,
      hname, Bool.false_eq_true, if_false, hmore]
    rfl
  exact Context.compileAll_of_fields (peopleOf person) rfl (.cons hfields .nil)

/-- A block under the other key is compiled as a field of a definition in shorthand. -/
theorem people_listed :
    (({} : Session).compileDefinitions (.data (.map people)) .absent).outcome =
        .ok [compiledPerson
          [(.text "_mongoose", .embedded [(.text "schema-options", .embedded [])])]] ∧
      (({} : Session).compileDefinitions
          (.data (.map (Document.cleared "x-swagger-mongoose" "_mongoose" people)))
          .absent).outcome = .ok [compiledPerson []] := by
  have hctx : ({} : Session).contextOf (.data (.map people)) .absent =
      .ok (peopleOf people.person) := rfl
  have hctx' : ({} : Session).contextOf
      (.data (.map (Document.cleared "x-swagger-mongoose" "_mongoose" people))) .absent =
        .ok (peopleOf people.plain) := rfl
  rw [Session.outcome_compileDefinitions hctx, Session.outcome_compileDefinitions hctx']
  constructor
  · refine compileAll_people rfl ofNode_person ?_
    simp only [Context.compileMembers, Context.compileShape]
    rfl
  · exact compileAll_people rfl ofNode_plain rfl

/-- A document with blocks under the other key where nothing heeds them. -/
def staff : Entries Data :=
  [(.text "swagger", .int 2), (.text "_mongoose", .map [(.text "exclude-schema", .bool true)]),
    (.text "definitions", .map [(.text "Person", .map person)])]
where
  name : Entries Data :=
    [(.text "type", .text "string"), (.text "_mongoose", .map [(.text "unique", .bool true)])]
  age : Entries Data :=
    [(.text "type", .text "number"),
      (.text "x-swagger-mongoose", .map [(.text "unique", .bool true)])]
  person : Entries Data :=
    [(.text "properties", .map [(.text "name", .map name), (.text "age", .map age)]),
      (.text "_mongoose", .map people.block)]

/-- The staff compiles to the same without these blocks. -/
theorem staff_cleared :
    (({} : Session).compileDefinitions
        (.data (.map (Document.cleared "x-swagger-mongoose" "_mongoose" staff))) .absent).outcome =
      (({} : Session).compileDefinitions (.data (.map staff)) .absent).outcome := by
  have hdistinct : (Data.map staff).Throughout Entries.DistinctKeys := by
    simp only [staff, staff.person, staff.name, staff.age, people.block, Data.Throughout,
      Data.ThroughoutEntries]
    decide
  have hkey : ∀ found, ({} : Session).extensionKeyOf staff = .ok found →
      found = "x-swagger-mongoose" := by
    intro found hfound
    cases hfound
    rfl
  have hname : Data.Unheeded "x-swagger-mongoose" "_mongoose" .node (.map staff.name) := by
    rw [Data.Unheeded, if_neg (by decide)]
    exact ⟨nofun, trivial, trivial, trivial⟩
  have hage : Data.Unheeded "x-swagger-mongoose" "_mongoose" .node (.map staff.age) := by
    rw [Data.Unheeded, if_pos (by decide)]
    rfl
  refine compileDefinitions_cleared rfl (fun _ h => by cases h)
    ⟨by decide, by decide, by decide⟩ (by decide) hkey hdistinct ?_ ?_
  · intro definitions hdefinitions e he entries hentries
    cases hdefinitions
    obtain rfl := List.mem_singleton.mp he
    cases hentries
    exact ⟨⟨hname, hage, trivial⟩, trivial, trivial⟩
  · intro ctx hctx name entries hnormal hlisted
    cases hctx
    rw [Context.normalForm_eq] at hnormal
    cases hraw : Context.rawDefinition _ name with
    | error fault =>
      rw [Context.readDefinition_of_unregistered hraw] at hnormal
      cases hnormal
    | ok raw =>
      obtain ⟨k, hmem, -⟩ := Context.exists_key_of_rawDefinition hraw
      cases List.mem_singleton.mp hmem
      rw [Context.readDefinition_of_raw hraw] at hnormal
      cases hnormal
      cases hlisted

end People
end Session

end StoreSchema
