import StoreSchema.Proofs.Expansion
import StoreSchema.Proofs.Respelling
import StoreSchema.Proofs.Intake

/-!
Documents in shorthand.

Main statement: a document without extension blocks compiles to the same, or fails in the same way,
if a node in it is written out: any node inside a definition, and a definition itself if nothing
reads its shorthand apart.
-/

set_option autoImplicit false

namespace StoreSchema

namespace Session

variable {session : Session} {source : Source} {document document' definitions : Entries Data}
  {key : String}

private theorem detectVersion_congr
    (h : Entries.value document' "swagger" = Entries.value document "swagger") :
    Document.detectVersion document' = Document.detectVersion document := by
  unfold Document.detectVersion
  rw [h]

private theorem contextOf_blockless (hdecode : Document.decode source = .ok document)
    (hshares : ∀ sharing, source.sharing = some sharing → Document.Shares key document sharing)
    (hkey : ∀ found, session.extensionKeyOf document = .ok found → found = key)
    (hdefinitions : Entries.value document "definitions" = .map definitions)
    (hsome : definitions ≠ [])
    (hblocks : (Data.map document).Throughout (Data.Unblocked key)) :
    session.contextOf source .absent = ((Document.detectVersion document).outcome >>= fun version =>
      .ok { definitions, settings := session.settings.compiler, version,
            validators := session.validators }) := by
  have hown : Document.definitionsOf document = .ok definitions := by
    unfold Document.definitionsOf
    rw [hdefinitions]
  cases hversion : (Document.detectVersion document).outcome with
  | error fault =>
    have hextra : Document.decodeExtra .absent = .ok .null := rfl
    rw [contextOf_eq, hdecode, hextra]
    simp only [ok_bind, hown, hversion, error_bind]
  | ok version =>
    have hfound : session.extensionKeyOf document = .ok key := by
      have hok : ∃ found, session.extensionKeyOf document = .ok found := by
        rw [extensionKeyOf, hversion]
        exact ⟨_, rfl⟩
      obtain ⟨found, hfound⟩ := hok
      rw [hfound, hkey found hfound]
    have hne : key ≠ "definitions" := by
      rintro rfl
      have hnone : (Entries.value document "definitions").isTruthy = false := hblocks.1
      rw [hdefinitions] at hnone
      exact hsome (Data.eq_nil_of_falsy hnone)
    rw [contextOf_of_shares hdecode hfound hne hshares]
    have hdeclared : ∀ e ∈ definitions, e.2.Throughout (Data.Unblocked key) := by
      have hall := Data.throughout_value hblocks.values "definitions"
      rw [hdefinitions] at hall
      exact hall.values
    refine (contextOf_eq_ok_iff rfl rfl).mpr
      { definitions := hown, settings := rfl, version := hversion, extensions := ?_,
        validators := rfl }
    have hctx : Context.extensionKey
        { definitions, settings := session.settings.compiler, version,
          validators := session.validators } = key :=
      extensionKey_of_version hfound hversion rfl
    rw [hctx, Document.gatherExtensions_blockless hblocks.1 fun e he =>
      Data.isTruthy_value_of_throughout (hdeclared e he)]
    rfl

/-- Shorthand is only sugar: a document without extension blocks has the same outcome if a node in
one of its definitions is written out, or the definition itself is, provided that nothing in the
document reads its shorthand apart. -/
theorem compileDefinitions_respelled {source' : Source} {name : Scalar}
    {before after entries entries' : Entries Data}
    (hdecode : Document.decode source = .ok document)
    (hdecode' : Document.decode source' = .ok document')
    (hshares : ∀ sharing, source.sharing = some sharing → Document.Shares key document sharing)
    (hshares' : ∀ sharing, source'.sharing = some sharing → Document.Shares key document' sharing)
    (hkey : ∀ found, session.extensionKeyOf document = .ok found → found = key)
    (hversion : Entries.value document' "swagger" = Entries.value document "swagger")
    (hdefinitions : Entries.value document "definitions" =
      .map (before ++ (name, .map entries) :: after))
    (hdefinitions' : Entries.value document' "definitions" =
      .map (before ++ (name, .map entries') :: after))
    (hdistinct : (Data.map document).Throughout Entries.DistinctKeys)
    (hblocks : (Data.map document).Blockless key) (hblocks' : (Data.map document').Blockless key)
    (h : Respelled key .definition entries entries' ∨
      Shape.IsShorthand key entries ∧ entries' = Shape.writtenOut key entries ∧
        ∀ ctx, session.contextOf source .absent = .ok ctx →
          ∃ met, ctx.Covers met ∧ ctx.Indifferent met name entries) :
    (session.compileDefinitions source' .absent).outcome =
      (session.compileDefinitions source .absent).outcome := by
  rw [Data.blockless_iff_throughout] at hblocks hblocks'
  have hsame := detectVersion_congr hversion
  have hkey' : ∀ found, session.extensionKeyOf document' = .ok found → found = key := by
    intro found hfound
    refine hkey found ?_
    rw [← hfound, extensionKeyOf, extensionKeyOf, hsame]
  have hcontext := contextOf_blockless hdecode hshares hkey hdefinitions (by simp) hblocks
  have hcontext' := contextOf_blockless hdecode' hshares' hkey' hdefinitions' (by simp) hblocks'
  rw [hsame] at hcontext'
  rw [outcome_compileDefinitions_eq, outcome_compileDefinitions_eq, hcontext, hcontext']
  cases hfound : (Document.detectVersion document).outcome with
  | error fault => rfl
  | ok version =>
    rw [hfound, ok_bind] at hcontext
    simp only [ok_bind]
    let ctx : Context :=
      { definitions := before ++ (name, .map entries) :: after,
        settings := session.settings.compiler, version, validators := session.validators }
    have hctx : ctx.extensionKey = key := by
      have hok : session.extensionKeyOf document = .ok ctx.extensionKey := by
        rw [extensionKeyOf, hfound]
        rfl
      exact hkey _ hok
    have hkeys := Data.throughout_value hdistinct.values "definitions"
    have hopen := Data.throughout_value hblocks.values "definitions"
    have hopen' := Data.throughout_value hblocks'.values "definitions"
    rw [hdefinitions] at hkeys hopen
    rw [hdefinitions'] at hopen'
    subst hctx
    obtain ⟨met, hrespelled⟩ := ctx.exists_respelledAs rfl hkeys hopen hopen'
      (h.imp_right fun hwritten => ⟨hwritten.1, hwritten.2.1, hwritten.2.2 ctx hcontext⟩)
    exact hrespelled.compileAll_eq fun _ => rfl

end Session

namespace Context

section Forum

/-- A definition in shorthand that refers to itself, and one that embeds it. -/
def forum : Context where
  definitions := [(.text "Reply", .map reply), (.text "Post", .map post)]
where
  pointer : Data := .map [(.text "$ref", .text "#/definitions/Reply")]
  reply : Entries Data := [(.text "parent", pointer)]
  post : Entries Data := [(.text "properties", .map [(.text "first", pointer)])]

def writtenForum : Context :=
  forum.redefined
    [(.text "Reply", .map (Shape.writtenOut "_mongoose" forum.reply)),
      (.text "Post", .map forum.post)]

def documentOf (definitions : Entries Data) : Entries Data :=
  [(.text "definitions", .map definitions)]

private theorem shorthand_reply : Shape.IsShorthand "_mongoose" forum.reply := by decide

private theorem members_reply :
    Shape.members "_mongoose" true forum.reply = [(.text "parent", .reference "Reply" false)] :=
  Shape.members_of_directFields rfl (Shape.ofProperty_pointer (by decide) rfl)

private theorem ofNode_reply :
    Shape.ofNode "_mongoose" forum.reply =
      .fields .null [(.text "parent", .reference "Reply" false)] := by
  rw [shorthand_reply.ofNode_eq, members_reply]
  rfl

private theorem ofNode_forumPost :
    Shape.ofNode "_mongoose" forum.post =
      .fields .null [(.text "first", .reference "Reply" false)] :=
  Shape.ofNode_of_property rfl (Shape.ofProperty_pointer (by decide) rfl)

private theorem endlessAt_reply (depth : Nat) : ∀ field : Scalar, field ≠ .text "Reply" →
    forum.isReserved field = false →
      forum.embedAt depth [] field "Reply" false = .error .endless := by
  have hnode : forum.normalForm (.text "Reply") = .ok (.map forum.reply) := rfl
  have hkey : forum.extensionKey = "_mongoose" := rfl
  have hshorthand : Shape.IsShorthand forum.extensionKey forum.reply := shorthand_reply
  have hparent : forum.isReserved (.text "parent") = false := rfl
  induction depth with
  | zero => exact fun _ _ _ => rfl
  | succ depth ih =>
    intro field hfield hopen
    have hself : forum.isSelfReference field "Reply" [] = false := by
      have hother : field.same (.text "Reply") = false := by
        rw [Bool.eq_false_iff, Ne, Scalar.same_text]
        exact hfield
      rw [isSelfReference, hother]
      rfl
    have hreference : forum.resolution (forum.embedAt depth []) [] field (.text "parent") "Reply"
        false = .error .endless := by
      rw [resolution, hself, if_neg Bool.false_ne_true, ih _ (by simp) hparent]
      rfl
    rw [embedAt_succ rfl]
    simp only [expand, ofExcept_eq, hnode, ok_bind]
    rw [compileTarget_of_shorthand hshorthand hopen, hkey, members_reply]
    simp only [compileMembers, compileShape, hparent, Bool.false_eq_true, if_false, hreference,
      error_bind]

def replyFields : Value := .embedded [(.text "parent", Value.referenceTo "Reply" true)]

private theorem fieldsMeaning_reply :
    forum.fieldsMeaning [] (.text "Reply") = .ok replyFields := by
  have hnode : forum.normalForm (.text "Reply") = .ok (.map forum.reply) := rfl
  have hkey : forum.extensionKey = "_mongoose" := rfl
  rw [fieldsMeaning_map hnode, hkey, ofNode_reply]
  rfl

private theorem fieldsMeaning_forumPost :
    forum.fieldsMeaning [] (.text "Post") = .error .endless := by
  have hnode : forum.normalForm (.text "Post") = .ok (.map forum.post) := rfl
  have hkey : forum.extensionKey = "_mongoose" := rfl
  have hguard : forum.settings.detectCycles = false := rfl
  have hfirst : forum.isReserved (.text "first") = false := rfl
  have hreference : forum.meaning [.text "Post"] (.text "Post") (.text "first") "Reply" false =
      .error .endless := by
    rw [← endlessAt_reply forum.referenceBound (.text "first") (by simp) hfirst,
      ← embedAt_unguarded hguard _ [.text "Post"] []]
    rfl
  rw [fieldsMeaning_map hnode, hkey, ofNode_forumPost]
  simp only [List.nil_append, compileNode, compileMembers, compileShape, hfirst,
    Bool.false_eq_true, if_false, hreference, error_bind]

private theorem compileAll_forum : forum.compileAll = .error .endless := by
  have hkeys : Entries.keys forum.definitions = [.text "Reply", .text "Post"] := rfl
  rw [Context.compileAll_eq]
  simp only [hkeys, compileEach, definitionMeaning, compileDefinitionWith, fieldsMeaning_reply,
    fieldsMeaning_forumPost]
  rfl

private theorem fieldsMeaning_writtenReply :
    writtenForum.fieldsMeaning [] (.text "Reply") = .ok replyFields := by
  have hnode : writtenForum.normalForm (.text "Reply") =
      .ok (.map (Shape.writtenOut "_mongoose" forum.reply)) := rfl
  have hkey : writtenForum.extensionKey = "_mongoose" := rfl
  rw [fieldsMeaning_map hnode, hkey, Shape.ofNode_writtenOut shorthand_reply, ofNode_reply]
  rfl

private theorem embedAt_writtenReply (depth : Nat) (stack : List Scalar) :
    writtenForum.embedAt (depth + 1) stack (.text "first") "Reply" false =
      .ok (some replyFields) := by
  have hkey : writtenForum.extensionKey = "_mongoose" := rfl
  have hshorthand : Shape.IsShorthand writtenForum.extensionKey forum.reply := shorthand_reply
  have hnode : writtenForum.normalForm (.text "Reply") =
      .ok (.map (Shape.writtenOut writtenForum.extensionKey forum.reply)) := rfl
  simp only [embedAt, hnode, ok_bind]
  rw [compileTarget_of_writtenOut hshorthand, hkey, members_reply]
  rfl

private theorem fieldsMeaning_writtenForumPost :
    writtenForum.fieldsMeaning [] (.text "Post") =
      .ok (.embedded [(.text "first", replyFields)]) := by
  have hnode : writtenForum.normalForm (.text "Post") = .ok (.map forum.post) := rfl
  have hkey : writtenForum.extensionKey = "_mongoose" := rfl
  have hfirst : writtenForum.isReserved (.text "first") = false := rfl
  have hreference : writtenForum.meaning [.text "Post"] (.text "Post") (.text "first") "Reply"
      false = .ok (some replyFields) := by
    rw [← embedAt_writtenReply 8 [.text "Post"]]
    rfl
  rw [fieldsMeaning_map hnode, hkey, ofNode_forumPost]
  simp only [List.nil_append, compileNode, compileMembers, compileShape, hfirst,
    Bool.false_eq_true, if_false, hreference, ok_bind]
  rfl

private theorem compileAll_writtenForum :
    writtenForum.compileAll = .ok
      [{ name := .text "Reply", properties := replyFields, options := [], index := none },
       { name := .text "Post", properties := .embedded [(.text "first", replyFields)],
         options := [], index := none }] :=
  compileAll_of_fields writtenForum rfl
    (.cons fieldsMeaning_writtenReply (.cons fieldsMeaning_writtenForumPost .nil))

/-- The forum compiles with its first definition written out, and does not end with that in
shorthand. -/
theorem shorthand_is_told_apart :
    Shape.IsShorthand "_mongoose" forum.reply ∧
      (Data.map (documentOf forum.definitions)).Blockless "_mongoose" ∧
      (({} : Session).compileDefinitions (.data (.map (documentOf forum.definitions)))
        .absent).outcome = .error .endless ∧
      (({} : Session).compileDefinitions (.data (.map (documentOf writtenForum.definitions)))
        .absent).outcome = .ok
          [{ name := .text "Reply", properties := replyFields, options := [], index := none },
           { name := .text "Post", properties := .embedded [(.text "first", replyFields)],
             options := [], index := none }] := by
  have hcontext : ({} : Session).contextOf (.data (.map (documentOf forum.definitions))) .absent =
      .ok forum := rfl
  have hwritten : ({} : Session).contextOf
      (.data (.map (documentOf writtenForum.definitions))) .absent = .ok writtenForum := rfl
  rw [Session.outcome_compileDefinitions hcontext, Session.outcome_compileDefinitions hwritten]
  refine ⟨shorthand_reply, ?_, compileAll_forum, compileAll_writtenForum⟩
  simp only [documentOf, forum, forum.reply, forum.post, forum.pointer, Data.Blockless,
    Data.BlocklessEntries]
  decide

end Forum

section Journal

/-- A definition in shorthand that refers to another one, and one that embeds it. -/
def journal : Context where
  definitions := [(.text "User", .map user), (.text "Tag", .map tag), (.text "Post", .map post)]
where
  pointer (target : String) : Data := .map [(.text "$ref", .text ("#/definitions/" ++ target))]
  user : Entries Data :=
    [(.text "properties", .map [(.text "name", .map [(.text "type", .text "string")])])]
  tag : Entries Data :=
    [(.text "author", pointer "User"), (.text "required", .list [.text "author"])]
  post : Entries Data := [(.text "properties", .map [(.text "tag", pointer "Tag")])]
  /-- The definitions with the one in shorthand written out. -/
  written : Entries Data :=
    [(.text "User", .map user), (.text "Tag", .map (Shape.writtenOut "_mongoose" tag)),
      (.text "Post", .map post)]
  /-- The fields under which a definition is embedded. -/
  met (field : Scalar) (target : String) : Prop :=
    field = .text "tag" ∧ target = "Tag" ∨ field = .text "author" ∧ target = "User"

private theorem ofNode_journalUser :
    Shape.ofNode "_mongoose" journal.user =
      .fields .null [(.text "name", .typed (.ok (.scalar .text)) none)] :=
  Shape.ofNode_of_property rfl (Shape.ofProperty_string (by decide))

private theorem members_journalTag :
    Shape.members "_mongoose" true journal.tag =
      [(.text "author", .reference "User" false)] :=
  Shape.members_of_directFields rfl (Shape.ofProperty_pointer (by decide) rfl)

private theorem ofNode_journalTag :
    Shape.ofNode "_mongoose" journal.tag =
      .fields (.list [.text "author"]) [(.text "author", .reference "User" false)] := by
  rw [@Shape.ofNode_of_direct _ journal.tag rfl rfl, members_journalTag]
  rfl

private theorem ofNode_journalPost :
    Shape.ofNode "_mongoose" journal.post =
      .fields .null [(.text "tag", .reference "Tag" false)] :=
  Shape.ofNode_of_property rfl (Shape.ofProperty_pointer (by decide) rfl)

private theorem shorthand_journalTag : Shape.IsShorthand "_mongoose" journal.tag := by decide

private theorem mem_journal {name : Scalar} {raw : Data}
    (h : journal.rawDefinition name = .ok raw) :
    raw = .map journal.user ∨ raw = .map journal.tag ∨ raw = .map journal.post := by
  obtain ⟨key, hmem, -⟩ := exists_key_of_rawDefinition h
  simp only [journal, List.mem_cons, List.not_mem_nil, or_false, Prod.mk.injEq] at hmem
  exact hmem.imp And.right (Or.imp And.right And.right)

private theorem normalForm_journal {name : Scalar} {node : Data}
    (h : journal.normalForm name = .ok node) : journal.rawDefinition name = .ok node := by
  cases hraw : journal.rawDefinition name with
  | error fault =>
    rw [normalForm_of_unregistered hraw] at h
    cases h
  | ok raw =>
    rw [normalForm_eq, readDefinition_of_raw hraw] at h
    have hplain : Composition.isComposed raw = false := by
      rcases mem_journal hraw with rfl | rfl | rfl <;> rfl
    rw [hplain] at h
    exact h

private theorem covers_journal : journal.Covers journal.met := by
  have hkey : journal.extensionKey = "_mongoose" := rfl
  constructor
  · intro name node entries hnode hentries
    rw [hkey]
    rcases mem_journal (normalForm_journal hnode) with rfl | rfl | rfl
    all_goals cases hentries
    · rw [ofNode_journalUser]
      exact ⟨fun _ => trivial, trivial⟩
    · rw [ofNode_journalTag]
      exact ⟨fun _ => Or.inr ⟨rfl, rfl⟩, trivial⟩
    · rw [ofNode_journalPost]
      exact ⟨fun _ => Or.inl ⟨rfl, rfl⟩, trivial⟩
  · intro target node entries hnode hentries harray
    rcases mem_journal (normalForm_journal hnode) with rfl | rfl | rfl
    all_goals
      cases hentries
      cases harray
  · intro field target node entries hmet hnode hentries hsimple
    have hplain : Entries.erase journal.tag (.text "_mongoose") = journal.tag := rfl
    rw [hkey]
    rcases mem_journal (normalForm_journal hnode) with rfl | rfl | rfl
    all_goals cases hentries
    · cases hsimple
    · rw [hplain, shorthand_journalTag.ofProperty_eq, ofNode_journalTag]
      exact ⟨fun _ => Or.inr ⟨rfl, rfl⟩, trivial⟩
    · cases hsimple

private theorem indifferent_journal :
    journal.Indifferent journal.met (.text "Tag") journal.tag := by
  have hkey : journal.extensionKey = "_mongoose" := rfl
  constructor
  · rintro target - ⟨name, entries, fragments, fragment, hraw, hfragments, hmem, -⟩
    have hnone : fragments = [] := by
      rcases mem_journal hraw with h | h | h
      all_goals
        cases h
        exact (Except.ok.inj hfragments).symm
    rw [hnone] at hmem
    cases hmem
  · intro field target htarget hmet e he _ inner hinner
    rw [hkey, members_journalTag, List.mem_singleton] at he
    rw [he] at hinner
    cases hinner
    cases htarget
    refine Or.inl ⟨fun hfield => ?_, fun hsame => by simp at hsame⟩
    rcases hmet with ⟨rfl, -⟩ | ⟨-, hsame⟩
    · simp at hfield
    · simp at hsame

/-- The journal compiles to the same with its tags written out. -/
theorem journal_in_shorthand :
    (({} : Session).compileDefinitions (.data (.map (documentOf journal.written)))
        .absent).outcome =
      (({} : Session).compileDefinitions (.data (.map (documentOf journal.definitions)))
        .absent).outcome := by
  have hcontext : ({} : Session).contextOf (.data (.map (documentOf journal.definitions)))
      .absent = .ok journal := rfl
  have hkey : ∀ found, ({} : Session).extensionKeyOf (documentOf journal.definitions) = .ok found →
      found = "_mongoose" := by
    intro found hfound
    cases hfound
    rfl
  have hdistinct : (Data.map (documentOf journal.definitions)).Throughout
      Entries.DistinctKeys := by
    simp only [documentOf, journal, journal.user, journal.tag, journal.post, journal.pointer,
      Data.Throughout, Data.ThroughoutEntries, Data.ThroughoutItems]
    decide
  have hblocks : (Data.map (documentOf journal.definitions)).Blockless "_mongoose" := by
    simp only [documentOf, journal, journal.user, journal.tag, journal.post, journal.pointer,
      Data.Blockless, Data.BlocklessEntries, Data.BlocklessItems]
    decide
  have hblocks' : (Data.map (documentOf journal.written)).Blockless "_mongoose" := by
    have hwritten : Shape.writtenOut "_mongoose" journal.tag =
        [(.text "properties", .map [(.text "author", journal.pointer "User")]),
          (.text "required", .list [.text "author"])] := rfl
    simp only [documentOf, journal.written, journal.user, hwritten, journal.post, journal.pointer,
      Data.Blockless, Data.BlocklessEntries, Data.BlocklessItems]
    decide
  have hdefinitions : Entries.value (documentOf journal.definitions) "definitions" =
      .map ([(.text "User", .map journal.user)] ++
        (.text "Tag", .map journal.tag) :: [(.text "Post", .map journal.post)]) := rfl
  refine Session.compileDefinitions_respelled rfl rfl (fun _ h => by cases h)
    (fun _ h => by cases h) hkey rfl hdefinitions rfl hdistinct hblocks hblocks'
    (Or.inr ⟨shorthand_journalTag, rfl, fun ctx hctx => ?_⟩)
  rw [hcontext] at hctx
  cases hctx
  exact ⟨journal.met, covers_journal, indifferent_journal⟩

end Journal

end Context

end StoreSchema
