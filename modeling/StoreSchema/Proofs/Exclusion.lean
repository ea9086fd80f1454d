import StoreSchema.Proofs.Facets
import StoreSchema.Proofs.Intake
import StoreSchema.Proofs.Stripped

/-!
Excluded definitions.

The exclusion of a definition is looked at when it is its turn to be compiled, and at no other time.
Main statement of this module: a document compiles to what it would compile to without exclusions,
less the definitions that are excluded.
-/

set_option autoImplicit false

namespace StoreSchema

theorem Data.value_erase (d : Data) (name word : String) :
    (d.erase name).value word = if name = word then .null else d.value word := by
  cases d with
  | map entries =>
    simp only [erase, value, Entries.value_erase, Scalar.same_text, Scalar.text.injEq]
  | _ => simp [erase, value]

namespace Extensions

def covers (facet : Data) (name : Scalar) : Bool :=
  match facet with
  | .list names => names.any (·.isScalar name)
  | .pair first second _ => first.isScalar name || second.isScalar name
  | .set names _ => names.any (·.same name)
  | other => other.isTruthy

theorem isExcluded_eq (x : Extensions) (name : Scalar) :
    x.isExcluded name = (((Entries.get? x.excluded name).getD .null).isTruthy ||
      covers x.globalExcluded name) := by
  unfold isExcluded covers
  cases ((Entries.get? x.excluded name).getD .null).isTruthy <;> rfl

def unexcluded (x : Extensions) : Extensions :=
  { x with excluded := [], globalExcluded := .null }

def Facets.unexcluded (facets : Facets) : Facets :=
  { facets with excluded := none }

theorem Facets.of_erase_iff {indexed : Bool} {block : Data} {less : Facets} :
    less.Of indexed (block.erase "exclude-schema") ↔
      ∃ facets : Facets, facets.Of indexed block ∧ less = facets.unexcluded := by
  have hvalue := Data.value_erase block "exclude-schema"
  have hmembers : ((block.erase "exclude-schema").isTruthy = true →
      ∃ entries, (block.erase "exclude-schema").members = .ok entries) ↔
      (block.isTruthy = true → ∃ entries, block.members = .ok entries) := by
    cases block with
    | map entries => exact iff_of_true (fun _ => ⟨_, rfl⟩) fun _ => ⟨_, rfl⟩
    | _ => exact Iff.rfl
  constructor
  · rintro ⟨hblock, hoptions, hexcluded, hadditional, hindex, hvalidators⟩
    simp only [hvalue] at hoptions hexcluded hadditional hindex hvalidators
    refine ⟨{ less with excluded := given (block.value "exclude-schema") },
      ⟨hmembers.mp hblock, hoptions, rfl, hadditional, hindex, hvalidators⟩, ?_⟩
    obtain ⟨options, excluded, additional, index, validators⟩ := less
    cases hexcluded
    rfl
  · rintro ⟨facets, ⟨hblock, hoptions, -, hadditional, hindex, hvalidators⟩, rfl⟩
    refine ⟨hmembers.mpr hblock, ?_, ?_, ?_, ?_, ?_⟩
    all_goals simp only [hvalue]
    · exact hoptions
    · rfl
    · exact hadditional
    · exact hindex
    · exact hvalidators

section Adding

variable {x : Extensions} {name : Scalar}

theorem unexcluded_addGlobal (x : Extensions) (facets : Facets) :
    (x.addGlobal facets).unexcluded = x.unexcluded.addGlobal facets.unexcluded := rfl

theorem unexcluded_addAll (x : Extensions) (owns : Entries Facets) :
    (x.addAll owns).unexcluded =
      x.unexcluded.addAll (Entries.mapValues Facets.unexcluded owns) := by
  induction owns generalizing x with
  | nil => rfl
  | cons own rest ih => exact ih (x.add own.1 own.2)

private theorem isTruthy_excluded_addAll {owns : Entries Facets}
    (htruthy : ∀ e ∈ owns, ∀ facet, e.2.excluded = some facet → facet.isTruthy = true) :
    ((Entries.get? (x.addAll owns).excluded name).getD .null).isTruthy =
      (((Entries.get? x.excluded name).getD .null).isTruthy ||
        owns.any fun e => e.1.same name && e.2.excluded.isSome) := by
  induction owns generalizing x with
  | nil => simp
  | cons own rest ih =>
    obtain ⟨k, facets⟩ := own
    obtain ⟨hfirst, hrest⟩ := List.forall_mem_cons.mp htruthy
    rw [addAll_cons, ih hrest, List.any_cons]
    cases hfacet : facets.excluded with
    | none => simp [add, hfacet, putGiven]
    | some facet =>
      have hgiven := hfirst facet hfacet
      simp only [add, hfacet, putGiven, Entries.get?_put, Option.isSome_some, Bool.and_true]
      cases k.same name <;> simp [hgiven]

end Adding

end Extensions

def Entries.adjust {α : Type} (es : Entries α) (key : Scalar) (f : α → α) : Entries α :=
  es.map fun e => (e.1, if e.1.same key then f e.2 else e.2)

namespace Entries

variable {α : Type}

theorem get?_adjust (es : Entries α) (key other : Scalar) (f : α → α) :
    get? (adjust es key f) other =
      if key.same other then (get? es other).map f else get? es other := by
  induction es with
  | nil => simp [adjust, get?]
  | cons e rest ih =>
    obtain ⟨k, v⟩ := e
    unfold adjust at ih ⊢
    rw [List.map_cons, get?_cons, get?_cons, ih]
    cases hk : k.same other with
    | true =>
      rw [Scalar.same_comm k key, ← Scalar.same_congr (Scalar.same_symm hk) key]
      cases key.same other <;> rfl
    | false => cases key.same other <;> rfl

theorem value_adjust_other {key word : String} (h : key ≠ word) (es : Entries Data)
    (f : Data → Data) : value (adjust es (.text key) f) word = value es word := by
  rw [value, get?_adjust, Scalar.same_text_of_ne h, if_neg Bool.false_ne_true, value]

theorem value_adjust_same (key : String) (es : Entries Data) {f : Data → Data}
    (hnull : f .null = .null) : value (adjust es (.text key) f) key = f (value es key) := by
  rw [value, get?_adjust, Scalar.same_refl, if_pos rfl, value]
  cases get? es (.text key) with
  | none => exact hnull.symm
  | some d => rfl

theorem erase_adjust (es : Entries α) (key : Scalar) (f : α → α) :
    erase (adjust es key f) key = erase es key := by
  unfold erase adjust
  induction es with
  | nil => rfl
  | cons e rest ih =>
    rw [List.map_cons, List.filter_cons, List.filter_cons, ih]
    cases hk : e.1.same key with
    | true => rfl
    | false => rw [if_neg Bool.false_ne_true]

end Entries

def Data.unexcluded (key : String) : Data → Data
  | .map entries => .map (Entries.adjust entries (.text key) (Data.erase "exclude-schema"))
  | d => d

namespace Document

def keywords : List String :=
  "swagger" :: "definitions" :: Shape.nodeKeywords

def unexcluded (key : String) (document : Entries Data) : Entries Data :=
  Entries.adjust (Entries.adjust document (.text key) (Data.erase "exclude-schema"))
    (.text "definitions") fun declared =>
      match declared with
      | .map definitions => .map (Entries.mapValues (Data.unexcluded key) definitions)
      | other => other

/-- A definition is excluded: by its own extension block, or by that of the document. -/
def excludes (key : String) (document : Entries Data) (name : Scalar) : Bool :=
  (((definitionsOf document).toOption.getD []).any fun e =>
    e.1.same name && ((e.2.value key).value "exclude-schema").isTruthy) ||
  Extensions.covers ((Entries.value document key).value "exclude-schema") name

end Document

theorem Data.value_unexcluded (key : String) (d : Data) :
    (d.unexcluded key).value key = (d.value key).erase "exclude-schema" := by
  cases d with
  | map entries => exact Entries.value_adjust_same key entries rfl
  | _ => rfl

theorem Data.erase_unexcluded (key : String) (d : Data) :
    (d.unexcluded key).erase key = d.erase key := by
  cases d with
  | map entries => exact congrArg Data.map (Entries.erase_adjust entries (.text key) _)
  | _ => rfl

namespace Document

variable {key : String} (hkey : key ∉ keywords) (document : Entries Data)

include hkey

theorem ne_of_mem_keywords {word : String} (hword : word ∈ keywords) : key ≠ word :=
  fun h => hkey (h ▸ hword)

theorem value_unexcluded :
    Entries.value (unexcluded key document) key =
      (Entries.value document key).erase "exclude-schema" := by
  have hne := ne_of_mem_keywords hkey (by decide : "definitions" ∈ keywords)
  unfold unexcluded
  rw [Entries.value_adjust_other hne.symm, Entries.value_adjust_same key document rfl]

theorem detectVersion_unexcluded :
    detectVersion (unexcluded key document) = detectVersion document := by
  have hne := ne_of_mem_keywords hkey (by decide : "swagger" ∈ keywords)
  have hvalue : Entries.value (unexcluded key document) "swagger" =
      Entries.value document "swagger" := by
    unfold unexcluded
    rw [Entries.value_adjust_other (by decide), Entries.value_adjust_other hne]
  unfold detectVersion
  rw [hvalue]

theorem definitionsOf_unexcluded :
    definitionsOf (unexcluded key document) =
      (definitionsOf document).map (Entries.mapValues (Data.unexcluded key)) := by
  have hne := ne_of_mem_keywords hkey (by decide : "definitions" ∈ keywords)
  unfold definitionsOf unexcluded
  rw [Entries.value_adjust_same "definitions" _ rfl, Entries.value_adjust_other hne]
  cases Entries.value document "definitions" with
  | map definitions => rfl
  | _ =>
    dsimp only
    split <;> rfl

end Document

namespace Extensions

variable {key : String} {definitions : Entries Data}

theorem facetsOf_unexcluded {less : Entries Facets}
    (h : FacetsOf key (Entries.mapValues (Data.unexcluded key) definitions) less) :
    ∃ owns, FacetsOf key definitions owns ∧ less = Entries.mapValues Facets.unexcluded owns := by
  induction definitions generalizing less with
  | nil =>
    cases h
    exact ⟨[], .nil, rfl⟩
  | cons e rest ih =>
    obtain ⟨⟨name, facets⟩, more, ⟨hname, hfirst⟩, hmore, rfl⟩ := List.forall₂_cons_left_iff.mp h
    obtain ⟨owns, howns, rfl⟩ := ih hmore
    rw [Data.value_unexcluded, Facets.of_erase_iff] at hfirst
    obtain ⟨own, hown, rfl⟩ := hfirst
    exact ⟨(name, own) :: owns, .cons ⟨hname, hown⟩ howns, rfl⟩

private theorem covers_given (facet : Data) (name : Scalar) :
    covers ((given facet).getD .null) name = covers facet name := by
  unfold given
  cases htruthy : facet.isTruthy with
  | true => rfl
  | false =>
    cases facet with
    | list names =>
      have hempty : names = [] := by simpa [Data.isTruthy] using htruthy
      rw [hempty]
      rfl
    | set names _ =>
      have hempty : names = [] := by simpa [Data.isTruthy] using htruthy
      rw [hempty]
      rfl
    | pair _ _ _ => cases htruthy
    | _ => exact htruthy.symm

private theorem any_excluded {owns : Entries Facets} (howns : FacetsOf key definitions owns)
    (name : Scalar) : (owns.any fun e => e.1.same name && e.2.excluded.isSome) =
      definitions.any fun e =>
        e.1.same name && ((e.2.value key).value "exclude-schema").isTruthy := by
  induction howns with
  | nil => rfl
  | cons hown _ ih =>
    obtain ⟨hname, hof⟩ := hown
    rw [List.any_cons, List.any_cons, ih, hname, hof.excluded, given]
    split
    · next htruthy => rw [htruthy, Option.isSome_some]
    · next hfalsy => rw [Bool.eq_false_iff.mpr hfalsy, Option.isSome_none]

private theorem isTruthy_of_excluded {owns : Entries Facets}
    (howns : FacetsOf key definitions owns) :
    ∀ e ∈ owns, ∀ facet, e.2.excluded = some facet → facet.isTruthy = true := by
  induction howns with
  | nil =>
    intro e he
    cases he
  | cons hown _ ih =>
    refine List.forall_mem_cons.mpr ⟨fun facet hfacet => ?_, ih⟩
    rw [hown.2.excluded, given] at hfacet
    split at hfacet
    · next htruthy =>
      cases hfacet
      exact htruthy
    · cases hfacet

/-- A definition is excluded by what is gathered exactly if the document excludes it. -/
theorem isExcluded_addAll {global : Facets} {owns : Entries Facets} {document : Entries Data}
    (hdefinitions : Document.definitionsOf document = .ok definitions)
    (hglobal : global.Of false (Entries.value document key)) (howns : FacetsOf key definitions owns)
    (name : Scalar) :
    ((({} : Extensions).addGlobal global).addAll owns).isExcluded name =
      Document.excludes key document name := by
  let base := ({} : Extensions).addGlobal global
  have hown : ((Entries.get? (base.addAll owns).excluded name).getD .null).isTruthy = _ :=
    isTruthy_excluded_addAll (isTruthy_of_excluded howns)
  have hnone : ((Entries.get? base.excluded name).getD .null).isTruthy = false := rfl
  have hfacet : (base.addAll owns).globalExcluded = global.excluded.getD .null :=
    globalExcluded_addAll base owns
  have hdeclared : (Document.definitionsOf document).toOption.getD [] = definitions := by
    rw [hdefinitions]
    rfl
  rw [isExcluded_eq, hown, hnone, hfacet, hglobal.excluded, covers_given, any_excluded howns,
    Bool.false_or, Document.excludes, hdeclared]

end Extensions

namespace Context

variable {ctx less : Context}

theorem definitionMeaning_excluding (hkey : ctx.extensionKey ∉ Shape.nodeKeywords)
    (hstripped : ctx.stripped = less.stripped)
    (hextensions : less.extensions = ctx.extensions.unexcluded)
    (stack : List Scalar) (name : Scalar) :
    ctx.definitionMeaning stack name =
      if ctx.extensions.isExcluded name then .ok none else less.definitionMeaning stack name := by
  have hkey' : less.extensionKey ∉ Shape.nodeKeywords := by
    rw [← extensionKey_stripped, ← hstripped]
    exact hkey
  have hfields : ctx.fieldsMeaning stack name = less.fieldsMeaning stack name := by
    rw [← fieldsMeaning_stripped hkey, hstripped, fieldsMeaning_stripped hkey']
  have hadditional : ∀ properties, ctx.compileAdditional (ctx.meaning stack) name properties =
      less.compileAdditional (less.meaning stack) name properties := by
    intro properties
    rw [← compileAdditional_stripped hkey, hstripped, compileAdditional_stripped hkey']
  have hincluded : less.extensions.isExcluded name = false := by
    rw [hextensions]
    rfl
  simp only [definitionMeaning, compileDefinitionWith, hfields, hadditional, hincluded]
  rw [hextensions]
  rfl

/-- Compiling definitions some of which are passed over gives the others. -/
theorem compileEach_excluding {compile less : Scalar → Except Fault (Option Compiled)}
    {excluded : Scalar → Bool} {names : List Scalar} {compiled : List Compiled}
    (hcompile : ∀ name, compile name = if excluded name then .ok none else less name)
    (hname : ∀ name c, less name = .ok (some c) → c.name = name)
    (h : compileEach less names = .ok compiled) :
    compileEach compile names = .ok (compiled.filter fun c => !excluded c.name) := by
  induction names generalizing compiled with
  | nil =>
    cases h
    rfl
  | cons name rest ih =>
    obtain ⟨first, hfirst, h⟩ := exists_of_bind_eq_ok h
    obtain ⟨more, hmore, h⟩ := exists_of_bind_eq_ok h
    cases h
    rw [compileEach, ih hmore, hcompile, List.filter_append]
    cases hexcluded : excluded name with
    | true =>
      cases first with
      | none => rfl
      | some c =>
        simp [hname name c hfirst, hexcluded]
    | false =>
      rw [if_neg Bool.false_ne_true, hfirst]
      cases first with
      | none => rfl
      | some c =>
        simp [hname name c hfirst, hexcluded]

end Context

namespace Session

variable {session : Session} {source : Source} {document : Entries Data} {key : String}
  {less : Context} {compiled : List Compiled}

private theorem exists_builds (hkey : session.extensionKeyOf document = .ok key)
    (hkeyword : key ∉ Document.keywords)
    (h : session.Builds (Document.unexcluded key document) less) :
    ∃ ctx, session.Builds document ctx ∧ ctx.extensionKey = key ∧ ctx.stripped = less.stripped ∧
      less.extensions = ctx.extensions.unexcluded ∧
      ∀ name, ctx.extensions.isExcluded name = Document.excludes key document name := by
  obtain ⟨hdefinitions, hsettings, hversion, hgather, hvalidators⟩ := h
  rw [Document.detectVersion_unexcluded hkeyword] at hversion
  have hless : less.extensionKey = key := extensionKey_of_version hkey hversion hsettings
  rw [hless, Document.value_unexcluded hkeyword] at hgather
  rw [Document.definitionsOf_unexcluded hkeyword] at hdefinitions
  cases hdeclared : Document.definitionsOf document with
  | error fault =>
    rw [hdeclared] at hdefinitions
    cases hdefinitions
  | ok definitions =>
    rw [hdeclared, Except.map, Except.ok.injEq] at hdefinitions
    rw [← hdefinitions] at hgather
    obtain ⟨_, _, hlessGlobal, hlessOwns, hgathered⟩ :=
      Extensions.leads_gatherExtensions.mp hgather
    obtain ⟨global, hglobal, rfl⟩ := Extensions.Facets.of_erase_iff.mp hlessGlobal
    obtain ⟨owns, howns, rfl⟩ := Extensions.facetsOf_unexcluded hlessOwns
    have hextensions : less.extensions =
        ((({} : Extensions).addGlobal global).addAll owns).unexcluded := by
      rw [hgathered, Extensions.unexcluded_addAll, Extensions.unexcluded_addGlobal]
      rfl
    let ctx : Context :=
      { less with definitions, extensions := (({} : Extensions).addGlobal global).addAll owns }
    have hctx : ctx.extensionKey = key := hless
    refine ⟨ctx, ⟨hdeclared, hsettings, hversion, ?_, ?_⟩, hctx, ?_, hextensions,
      Extensions.isExcluded_addAll hdeclared hglobal howns⟩
    · rw [hctx]
      exact Extensions.leads_gatherExtensions.mpr ⟨global, owns, hglobal, howns, rfl⟩
    · rw [hextensions] at hvalidators
      exact hvalidators
    · have hsame : Entries.mapValues (Data.erase key) less.definitions =
          Entries.mapValues (Data.erase key) definitions := by
        rw [← hdefinitions]
        simp only [Entries.mapValues, List.map_map, Function.comp_def, Data.erase_unexcluded]
      unfold Context.stripped
      rw [hctx, hless, hsame]

/-- Exclusion is a filter: a document compiles to what it compiles to without its exclusions, in the
same order, less the definitions that are excluded. -/
theorem compileDefinitions_excluding (hdecode : Document.decode source = .ok document)
    (hkey : session.extensionKeyOf document = .ok key) (hkeyword : key ∉ Document.keywords)
    (hshares : ∀ sharing, source.sharing = some sharing → Document.Shares key document sharing)
    (h : (session.compileDefinitions (.data (.map (Document.unexcluded key document)))
      .absent).outcome = .ok compiled) :
    (session.compileDefinitions source .absent).outcome =
      .ok (compiled.filter fun c => !Document.excludes key document c.name) := by
  obtain ⟨less, hless, hall⟩ := exists_contextOf h
  obtain ⟨ctx, hbuilds, rfl, hstripped, hextensions, hexcluded⟩ :=
    exists_builds hkey hkeyword ((contextOf_eq_ok_iff rfl rfl).mp hless)
  have hne := Document.ne_of_mem_keywords hkeyword (by decide : "definitions" ∈ Document.keywords)
  have hctx : session.contextOf source .absent = .ok ctx :=
    (contextOf_of_shares hdecode hkey hne hshares).trans
      ((contextOf_eq_ok_iff rfl rfl).mpr hbuilds)
  have hnode : ctx.extensionKey ∉ Shape.nodeKeywords :=
    fun hmem => hkeyword (List.mem_cons_of_mem _ (List.mem_cons_of_mem _ hmem))
  have hkeys : Entries.keys ctx.definitions = Entries.keys less.definitions := by
    have hdefinitions := congrArg (fun c => Entries.keys c.definitions) hstripped
    simpa only [Context.stripped, Entries.keys_mapValues] using hdefinitions
  rw [outcome_compileDefinitions hctx, Context.compileAll_eq, hkeys]
  rw [Context.compileAll_eq] at hall
  refine Context.compileEach_excluding (fun name => ?_) (fun name c hc => ?_) hall
  · rw [Context.definitionMeaning_excluding hnode hstripped hextensions, hexcluded]
  · exact (Context.exists_of_definitionMeaning hc).1

end Session

section Blog

/-- A post that embeds a tag; tags are excluded by their own block and drafts by the document. -/
def blog : Entries Data :=
  [(.text "swagger", .int 2),
    (.text "x-swagger-mongoose", .map [(.text "exclude-schema", .list [.text "Draft"])]),
    (.text "definitions", .map
      [(.text "Tag", .map (tag [(.text "exclude-schema", .bool true)])), (.text "Post", .map post),
        (.text "Draft", .map [(.text "type", .text "string")])])]
where
  tag (block : Entries Data) : Entries Data :=
    [(.text "properties", .map [(.text "label", .map [(.text "type", .text "string")])]),
      (.text "x-swagger-mongoose", .map block)]
  post : Entries Data :=
    [(.text "properties", .map [(.text "tag", .map [(.text "$ref", .text "#/definitions/Tag")])])]

def openBlog : Context where
  definitions := [(.text "Tag", .map (blog.tag [])), (.text "Post", .map blog.post),
    (.text "Draft", .map [(.text "type", .text "string")])]
  version := Number.Binary64.ofInt? 2

private theorem contextOf_openBlog :
    ({} : Session).contextOf (.data (.map (Document.unexcluded "x-swagger-mongoose" blog)))
      .absent = .ok openBlog :=
  rfl

private theorem ofEntries_text :
    FieldType.ofEntries [(.text "type", .text "string")] = .ok (.scalar .text) := by
  rw [FieldType.ofEntries]
  rfl

private theorem ofNode_tag (block : Entries Data) :
    Shape.ofNode "x-swagger-mongoose" (blog.tag block) =
      .fields .null [(.text "label", .typed (.ok (.scalar .text)) none)] :=
  Shape.ofNode_of_property rfl (Shape.ofProperty_string (by decide))

private theorem ofNode_blogPost :
    Shape.ofNode "x-swagger-mongoose" blog.post =
      .fields .null [(.text "tag", .reference "Tag" false)] :=
  Shape.ofNode_of_property rfl (Shape.ofProperty_pointer (by decide) rfl)

def tagFields : Value :=
  .embedded [(.text "label", .map [(.text "type", .type .text)])]

private theorem compileSetWith_tag (lookup : Scalar → Except Fault Data)
    (resolve : Resolve (Except Fault)) :
    openBlog.compileSetWith lookup resolve (.text "Tag") (.map (blog.tag [])) = .ok tagFields := by
  have hkey : openBlog.extensionKey = "x-swagger-mongoose" := rfl
  rw [Context.compileSetWith_map rfl, hkey, ofNode_tag]
  rfl

private theorem embedAt_tag (depth : Nat) (stack : List Scalar) :
    openBlog.embedAt (depth + 1) stack (.text "tag") "Tag" false = .ok (some tagFields) := by
  have hnode : openBlog.normalForm (.text "Tag") = .ok (.map (blog.tag [])) := rfl
  simp only [Context.embedAt, hnode, ok_bind]
  rw [Context.compileTarget_map, if_pos (by decide), if_neg (by decide), compileSetWith_tag]
  rfl

private theorem compileDefinitions_openBlog :
    (({} : Session).compileDefinitions
        (.data (.map (Document.unexcluded "x-swagger-mongoose" blog))) .absent).outcome = .ok
      [{ name := .text "Tag", properties := tagFields, options := [], index := none },
       { name := .text "Post", properties := .embedded [(.text "tag", tagFields)],
         options := [], index := none },
       { name := .text "Draft", properties := .map [(.text "type", .type .text)],
         options := [], index := none }] := by
  have hkey : openBlog.extensionKey = "x-swagger-mongoose" := rfl
  have htag : openBlog.fieldsMeaning [] (.text "Tag") = .ok tagFields := by
    have hnode : openBlog.normalForm (.text "Tag") = .ok (.map (blog.tag [])) := rfl
    simp only [Context.fieldsMeaning, hnode, ok_bind, compileSetWith_tag]
  have hpost : openBlog.fieldsMeaning [] (.text "Post") =
      .ok (.embedded [(.text "tag", tagFields)]) := by
    have hnode : openBlog.normalForm (.text "Post") = .ok (.map blog.post) := rfl
    have hreference : openBlog.meaning [.text "Post"] (.text "Post") (.text "tag") "Tag" false =
        .ok (some tagFields) := by
      rw [← embedAt_tag 15 [.text "Post"]]
      rfl
    have hname : openBlog.isReserved (.text "tag") = false := rfl
    rw [Context.fieldsMeaning_map hnode, hkey, ofNode_blogPost]
    simp only [List.nil_append, Context.compileNode, Context.compileMembers, Context.compileShape,
      hname, Bool.false_eq_true, if_false, hreference, ok_bind]
    rfl
  have hdraft : openBlog.fieldsMeaning [] (.text "Draft") =
      .ok (.map [(.text "type", .type .text)]) := by
    have hnode : openBlog.normalForm (.text "Draft") =
        .ok (.map [(.text "type", .text "string")]) := rfl
    rw [Context.fieldsMeaning_map hnode, Shape.ofNode_of_typed _ rfl rfl rfl, ofEntries_text]
    rfl
  rw [Session.outcome_compileDefinitions contextOf_openBlog]
  exact Context.compileAll_of_fields openBlog rfl (.cons htag (.cons hpost (.cons hdraft .nil)))

/-- Of the blog only the post is compiled, with its tag embedded. -/
theorem blog_excluding :
    (({} : Session).compileDefinitions (.data (.map blog)) .absent).outcome = .ok
      [{ name := .text "Post", properties := .embedded [(.text "tag", tagFields)],
         options := [], index := none }] :=
  Session.compileDefinitions_excluding rfl rfl (by decide) (fun _ h => by cases h)
    compileDefinitions_openBlog

end Blog

end StoreSchema
