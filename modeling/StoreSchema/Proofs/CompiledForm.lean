import StoreSchema.Proofs.Blocks

/-!
The form of compiled definitions.

Main statement of this module: where no extension block is read, every definition of a document
compiles to a value of the grammar; an array of null stands in one only if some array definition has
a reserved name or a composition for its items.
-/

set_option autoImplicit false

namespace StoreSchema

namespace Context

variable {ctx : Context}

private theorem addFields_nil (properties : Value) : addFields properties [] = properties := by
  cases properties <;> rfl

theorem wellFormed_definitionMeaning (hblocks : ctx.Unextended) {name : Scalar} {c : Compiled}
    (h : ctx.definitionMeaning [] name = .ok (some c)) :
    c.properties.WellFormed (∃ target, ctx.LeavesOut target) := by
  have hresolve : ∀ stack, ctx.ResolvesTo (∃ target, ctx.LeavesOut target) (fun _ => True)
      (ctx.meaning stack) :=
    resolvesTo_meaning (fun target _ => hblocks.definitions (.text target))
      fun target _ hout => ⟨target, hout⟩
  obtain ⟨-, fields, added, hassembles⟩ := exists_of_definitionMeaning h
  have hadditional := hassembles.additional
  rw [hblocks.additional] at hadditional
  cases hadditional
  obtain ⟨node, hnode, hfields⟩ := exists_of_bind_eq_ok hassembles.own
  have hfound := isField_compileSetWith (hresolve _) (isComposed_normalForm hnode)
    (fun entries hentries => (hblocks.definitions c.name node entries hnode hentries).1) hfields
  rw [hassembles.properties, addFields_nil]
  exact hfound.wellFormed

end Context

namespace Session

/-- A document that compiles without extension blocks compiles to values of the grammar, with an
array of null in them only if some array definition has nothing to put in the array. -/
theorem wellFormed_compileDefinitions {session : Session} {source extra : Source} {ctx : Context}
    (hctx : session.contextOf source extra = .ok ctx) (hblocks : ctx.Unextended)
    {compiled : List Compiled}
    (h : (session.compileDefinitions source extra).outcome = .ok compiled) :
    ∀ c ∈ compiled, c.properties.WellFormed (∃ target, ctx.LeavesOut target) := by
  intro c hc
  rw [outcome_compileDefinitions hctx, Context.compileAll_eq] at h
  obtain ⟨name, -, hname⟩ := Context.exists_of_mem_compileEach h hc
  exact Context.wellFormed_definitionMeaning hblocks hname

end Session

section Gaps

/-- An array definition whose items are a composition, and a definition with a reference to it. -/
def hollow : Context where
  definitions := [(.text "Tags", .map tags), (.text "Post", .map post)]
where
  items : Data := .map [(.text "type", .text "string"), (.text "allOf", .list [.map []])]
  tags : Entries Data := [(.text "type", .text "array"), (.text "items", items)]
  post : Entries Data :=
    [(.text "properties",
      .map [(.text "tags", .map [(.text "$ref", .text "#/definitions/Tags")])])]

def hollowDocument : Source := .data (.map [(.text "definitions", .map hollow.definitions)])

private theorem contextOf_hollow : ({} : Session).contextOf hollowDocument .absent = .ok hollow :=
  rfl

private theorem unextended_hollow : hollow.Unextended := by
  have hbuilds := (Session.contextOf_eq_ok_iff rfl rfl).mp contextOf_hollow
  have hkey : hollow.extensionKey = "_mongoose" := rfl
  refine hbuilds.unextended ?_
  rw [hkey]
  simp only [hollow, hollow.tags, hollow.items, hollow.post, Data.Blockless,
    Data.BlocklessEntries, Data.BlocklessItems]
  decide

private theorem ofNode_tags :
    Shape.ofNode "_mongoose" hollow.tags = .typed (.ok (.listOf (.scalar .text))) none := by
  have hitems : FieldType.ofEntries
      [(.text "type", .text "string"), (.text "allOf", .list [.map []])] = .ok (.scalar .text) := by
    rw [FieldType.ofEntries]
    rfl
  have htype : FieldType.ofEntries hollow.tags = .ok (.listOf (.scalar .text)) := by
    rw [@FieldType.ofEntries_of_array hollow.tags _ rfl rfl, hitems]
    rfl
  rw [Shape.ofNode_of_typed "_mongoose" rfl rfl rfl, htype]

private theorem ofNode_post :
    Shape.ofNode "_mongoose" hollow.post =
      .fields .null [(.text "tags", .reference "Tags" false)] :=
  Shape.ofNode_of_property rfl (Shape.ofProperty_pointer (by decide) rfl)

private theorem embedAt_tags (depth : Nat) (stack : List Scalar) :
    hollow.embedAt (depth + 1) stack (.text "tags") "Tags" false =
      .ok (some (.list [.scalar .null])) := by
  have hkey : hollow.extensionKey = "_mongoose" := rfl
  have hnode : hollow.normalForm (.text "Tags") = .ok (.map hollow.tags) := rfl
  have hitems : Shape.ofProperty "_mongoose" hollow.items = .composed := by
    have hform : Form.ofEntries "_mongoose"
        [(.text "type", .text "string"), (.text "allOf", .list [.map []])] = .composed := rfl
    rw [hollow.items, Shape.ofProperty_map, hform]
    rfl
  have hdeclared : Entries.value hollow.tags "items" = hollow.items := rfl
  have htruthy : hollow.items.isTruthy = true := rfl
  have hname : hollow.isReserved (.text "Tags") = false := rfl
  simp only [Context.embedAt, hnode, ok_bind]
  rw [Context.compileTarget_map, if_pos (by decide), if_pos (by decide)]
  simp only [Context.compilePropertyWith, hkey, hdeclared, htruthy, hname, Bool.false_eq_true,
    if_true, if_false, hitems]
  rfl

private theorem compileDefinitions_hollow :
    (({} : Session).compileDefinitions hollowDocument .absent).outcome = .ok
      [{ name := .text "Tags", properties := .map [(.text "type", .list [.type .text])],
         options := [], index := none },
       { name := .text "Post", properties := .embedded [(.text "tags", .list [.scalar .null])],
         options := [], index := none }] := by
  have hkey : hollow.extensionKey = "_mongoose" := rfl
  have htags : hollow.fieldsMeaning [] (.text "Tags") =
      .ok (.map [(.text "type", .list [.type .text])]) := by
    have hnode : hollow.normalForm (.text "Tags") = .ok (.map hollow.tags) := rfl
    rw [Context.fieldsMeaning_map hnode, hkey, ofNode_tags]
    rfl
  have hpost : hollow.fieldsMeaning [] (.text "Post") =
      .ok (.embedded [(.text "tags", .list [.scalar .null])]) := by
    have hnode : hollow.normalForm (.text "Post") = .ok (.map hollow.post) := rfl
    have hreference : hollow.meaning [.text "Post"] (.text "Post") (.text "tags") "Tags" false =
        .ok (some (.list [.scalar .null])) := by
      rw [← embedAt_tags 8 [.text "Post"]]
      rfl
    have hname : hollow.isReserved (.text "tags") = false := rfl
    rw [Context.fieldsMeaning_map hnode, hkey, ofNode_post]
    simp only [List.nil_append, Context.compileNode, Context.compileMembers, Context.compileShape,
      hname, Bool.false_eq_true, if_false, hreference, ok_bind]
    rfl
  rw [Session.outcome_compileDefinitions contextOf_hollow]
  exact Context.compileAll_of_fields hollow rfl (.cons htags (.cons hpost .nil))

/-- An array of null in a compiled definition, where no extension block is read. -/
theorem hollow_notWellFormed :
    ({} : Session).contextOf hollowDocument .absent = .ok hollow ∧ hollow.Unextended ∧
      ∃ compiled, (({} : Session).compileDefinitions hollowDocument .absent).outcome =
          .ok compiled ∧
        ∃ c ∈ compiled, ¬ c.properties.WellFormed False := by
  refine ⟨contextOf_hollow, unextended_hollow, _, compileDefinitions_hollow, _,
    List.mem_cons_of_mem _ List.mem_cons_self, fun h => ?_⟩
  cases h with
  | embedded hfields _ =>
    have htags : (Value.list [.scalar .null]).WellFormed False := hfields _ List.mem_cons_self
    cases htags with
    | array hitem => cases hitem
    | gap h => exact h

/-- A definition with an array of texts, which leaves nothing out. -/
def filled : Context where
  definitions := [(.text "Post", .map post)]
where
  tags : Entries Data :=
    [(.text "type", .text "array"), (.text "items", .map [(.text "type", .text "string")])]
  post : Entries Data := [(.text "properties", .map [(.text "tags", .map tags)])]

def filledDocument : Source := .data (.map [(.text "definitions", .map filled.definitions)])

private theorem contextOf_filled : ({} : Session).contextOf filledDocument .absent = .ok filled :=
  rfl

private theorem unextended_filled : filled.Unextended := by
  have hbuilds := (Session.contextOf_eq_ok_iff rfl rfl).mp contextOf_filled
  have hkey : filled.extensionKey = "_mongoose" := rfl
  refine hbuilds.unextended ?_
  rw [hkey]
  simp only [filled, filled.tags, filled.post, Data.Blockless, Data.BlocklessEntries]
  decide

private theorem not_leavesOut_filled : ¬ ∃ target, filled.LeavesOut target := by
  rintro ⟨target, node, entries, hnode, hentries, harray, -⟩
  cases hraw : filled.rawDefinition (.text target) with
  | error fault =>
    rw [Context.normalForm_of_unregistered hraw] at hnode
    cases hnode
  | ok raw =>
    obtain ⟨key, hmem, -⟩ := Context.exists_key_of_rawDefinition hraw
    cases List.mem_singleton.mp hmem
    rw [Context.normalForm_eq, Context.readDefinition_of_raw hraw] at hnode
    cases hnode
    cases hentries
    cases harray

private theorem compileDefinitions_filled :
    (({} : Session).compileDefinitions filledDocument .absent).outcome = .ok
      [{ name := .text "Post",
         properties := .embedded [(.text "tags", .map [(.text "type", .list [.type .text])])],
         options := [], index := none }] := by
  have hkey : filled.extensionKey = "_mongoose" := rfl
  have hnode : filled.normalForm (.text "Post") = .ok (.map filled.post) := rfl
  have htags : Shape.ofProperty "_mongoose" (.map filled.tags) =
      .typed (.ok (.listOf (.scalar .text))) none := by
    have hitems : FieldType.ofEntries [(.text "type", .text "string")] = .ok (.scalar .text) := by
      rw [FieldType.ofEntries]
      rfl
    have htype : FieldType.ofEntries filled.tags = .ok (.listOf (.scalar .text)) := by
      rw [@FieldType.ofEntries_of_array filled.tags _ rfl rfl, hitems]
      rfl
    rw [Shape.ofProperty_of_typed (.inl rfl), htype]
    rfl
  have hpost : filled.fieldsMeaning [] (.text "Post") =
      .ok (.embedded [(.text "tags", .map [(.text "type", .list [.type .text])])]) := by
    rw [Context.fieldsMeaning_map hnode, hkey, Shape.ofNode_of_property rfl htags]
    rfl
  rw [Session.outcome_compileDefinitions contextOf_filled]
  exact Context.compileAll_of_fields filled rfl (.cons hpost .nil)

/-- The array of null stands for the items that are left out; with items that are compiled there is
none. -/
theorem hollow_wellFormed :
    (∃ compiled, (({} : Session).compileDefinitions hollowDocument .absent).outcome =
        .ok compiled ∧
      ∀ c ∈ compiled, c.properties.WellFormed (∃ target, hollow.LeavesOut target)) ∧
    ∃ c, (({} : Session).compileDefinitions filledDocument .absent).outcome = .ok [c] ∧
      c.properties = .embedded [(.text "tags", .map [(.text "type", .list [.type .text])])] ∧
      c.properties.WellFormed False := by
  constructor
  · exact ⟨_, compileDefinitions_hollow, Session.wellFormed_compileDefinitions contextOf_hollow
      unextended_hollow compileDefinitions_hollow⟩
  · have hformed := Session.wellFormed_compileDefinitions contextOf_filled unextended_filled
      compileDefinitions_filled _ (List.mem_singleton_self _)
    rw [eq_false not_leavesOut_filled] at hformed
    exact ⟨_, compileDefinitions_filled, rfl, hformed⟩

end Gaps

end StoreSchema
