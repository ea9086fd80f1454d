import StoreSchema.Proofs.LinkedRuns
import StoreSchema.Proofs.Overrides

/-!
Extension blocks of facets that say nothing of the type.

On a property that is read by its type such a block leaves the rule for its values as it is. Main
statement of this module: a document that compiles does so after a block of facets is attached to a
property of this kind, and collections check alike what it compiles to. On an object or a reference
the block takes the place of what the property compiles to.
-/

set_option autoImplicit false

namespace StoreSchema

open Value (SameRule)

/-- The names that a block of facets leaves alone: those that a rule or a type is read from, and
those that replace a property. -/
def facetKeywords : List String :=
  ["type", "format", "items", "properties", "required", "enum", "default", "allOf", "$ref",
    "validator"]

/-- A block of facets, none of them a keyword. -/
structure IsFacetBlock (block : Entries Data) : Prop where
  nonempty : block ≠ []
  apart : ∀ e ∈ block, ∀ word ∈ facetKeywords, e.1.same (.text word) = false

/-- A property that is read by its type and does not require itself, and the same with a block. -/
inductive GivenBlock (key : String) (block : Entries Data) : Data → Data → Prop
  | intro {es : Entries Data}
      (hform : Form.ofEntries key es = .array ∨ Form.ofEntries key es = .scalar)
      (hrequired : Entries.value es "required" ≠ .bool true) :
      GivenBlock key block (.map es) (.map (Entries.put es (.text key) (.map block)))

namespace IsFacetBlock

variable {block : Entries Data} (h : IsFacetBlock block)

include h

theorem value_eq {word : String} (hword : word ∈ facetKeywords) :
    Entries.value block word = .null := by
  have hnone : Entries.get? block (.text word) = none := by
    rw [Entries.get?_eq_find?, Option.map_eq_none_iff, List.find?_eq_none]
    intro e he
    rw [h.apart e he word hword]
    exact Bool.false_ne_true
  rw [Entries.value, hnone]
  rfl

variable {ctx : Context} (hkey : ctx.extensionKey ∉ facetKeywords) (es : Entries Data)

include hkey

private theorem get?_laidOver {word : String} (hword : word ∈ facetKeywords) :
    Entries.get? (ctx.laidOver (Entries.put es (.text ctx.extensionKey) (.map block)) block)
      (.text word) = Entries.get? es (.text word) := by
  have hother : (Scalar.text ctx.extensionKey).same (.text word) = false :=
    Scalar.same_text_of_ne fun heq => hkey (heq ▸ hword)
  rw [Context.laidOver, Entries.get?_overlay_apart fun e he => h.apart e he word hword,
    Entries.get?_erase_other hother, Entries.get?_put_other _ _ hother]

private theorem ofEntries_laidOver :
    FieldType.ofEntries
        (ctx.laidOver (Entries.put es (.text ctx.extensionKey) (.map block)) block) =
      FieldType.ofEntries es := by
  have hsame : ∀ word ∈ facetKeywords, Entries.get? (ctx.laidOver
      (Entries.put es (.text ctx.extensionKey) (.map block)) block) (.text word) =
        Entries.get? es (.text word) := fun _ hword => h.get?_laidOver hkey es hword
  rw [FieldType.ofEntries_eq, FieldType.ofEntries_eq, Entries.value, Entries.value, Entries.value,
    Entries.value, hsame "type" (by decide), hsame "format" (by decide), hsame "items" (by decide)]

end IsFacetBlock

namespace Context

variable {t : FieldType} {es : Entries Data} {facets : Entries Value}

private theorem ofField_of_describes {facet : Scalar → Option Data}
    (h : Value.Describes t facet facets)
    (hlisted : facet (.text "enum") = Entries.get? es (.text "enum")) :
    CollectionRule.ofField (typedDescriptor t (Shape.choicesOf es)) =
      CollectionRule.ofField (.map facets) := by
  have hcan := t.canBeType_toValue
  have hfound := h.get?_eq (.text "enum") (by decide) (by decide)
  rw [hlisted] at hfound
  unfold typedDescriptor
  rw [CollectionRule.ofField_descriptor h.type hcan, CollectionRule.ofField_descriptor rfl hcan]
  unfold CollectionRule.withChoices
  rw [hfound, Shape.choicesOf, Entries.value]
  cases Entries.get? es (.text "enum") with
  | none => rfl
  | some d => cases d <;> rfl

private theorem isRequired_of_describes {facet : Scalar → Option Data}
    (h : Value.Describes t facet facets) (hrequired : facet (.text "required") ≠ some (.bool true))
    (choices : Option (List Data)) :
    CollectionRule.isRequired (typedDescriptor t choices) =
      CollectionRule.isRequired (.map facets) := by
  have hplain : CollectionRule.isRequired (typedDescriptor t choices) = false := by
    unfold typedDescriptor
    rw [Bool.eq_false_iff, Ne, CollectionRule.isRequired_map]
    rintro ⟨-, hflag⟩
    cases choices <;> cases hflag
  have hfaceted : CollectionRule.isRequired (.map facets) = false := by
    rw [Bool.eq_false_iff, Ne, CollectionRule.isRequired_map,
      h.get?_eq (.text "required") (by decide) (by decide)]
    rintro ⟨-, hflag⟩
    obtain ⟨d, hfound, hd⟩ := Option.map_eq_some_iff.mp hflag
    cases d with
    | scalar value =>
      cases hd
      exact hrequired hfound
    | _ => cases hd
  rw [hplain, hfaceted]

variable {ctx : Context} {block : Entries Data} (hblock : IsFacetBlock block)
  (hkey : ctx.extensionKey ∉ facetKeywords)

include hblock

private theorem overrideReference_facets (base : Entries Data) :
    ctx.overrideReference block base = none := by
  have hreference : Entries.value block "$ref" = .null := hblock.value_eq (by decide)
  have htype : Entries.value block "type" = .null := hblock.value_eq (by decide)
  have hobject : (Data.null).isText "objectId" = false := rfl
  have hfalsy : (Data.null).isTruthy = false := rfl
  unfold overrideReference
  simp only [hreference, htype, hobject, hfalsy, Bool.and_false, Bool.false_eq_true, if_false,
    ite_self]

include hkey

private theorem sameRule_retyped (hrequired : Entries.value es "required" ≠ .bool true) :
    SameRule (typedDescriptor t (Shape.choicesOf es)) (.map (Value.retyped t
      (ctx.laidOver (Entries.put es (.text ctx.extensionKey) (.map block)) block))) := by
  have hdescribes := Value.describes_retyped t
    (ctx.laidOver (Entries.put es (.text ctx.extensionKey) (.map block)) block)
  constructor
  · exact ofField_of_describes hdescribes (hblock.get?_laidOver hkey es (by decide))
  · refine isRequired_of_describes hdescribes ?_ _
    rw [hblock.get?_laidOver hkey es (by decide)]
    intro hfound
    rw [Entries.value, hfound] at hrequired
    exact hrequired rfl
  · rfl
  · rfl

private theorem suits_givenBlock (resolve resolve' : Resolve (Except Fault)) (owner : Scalar) :
    ctx.Suits (GivenBlock ctx.extensionKey block) resolve resolve' owner := by
  intro d d' h
  cases h with
  | @intro es hform hrequired =>
    let given := Entries.put es (.text ctx.extensionKey) (.map block)
    have hgiven : Entries.value given ctx.extensionKey = .map block := by
      rw [Entries.value, Entries.get?_put_same]
      rfl
    have hdefault : Entries.get? given (.text "default") = Entries.get? es (.text "default") := by
      apply Entries.get?_put_other
      exact Scalar.same_text_of_ne fun heq => hkey (heq ▸ by decide)
    rw [Shape.ofProperty_of_typed hform, Shape.ofProperty_of_block hgiven hblock.nonempty]
    refine withDefaultOf_alike (fun field required _ => ?_) hdefault.symm
    simp only [compileShape, ofExcept_eq]
    cases htype : FieldType.ofEntries es with
    | error fault => exact .fault _ _
    | ok t =>
      have hlaid : FieldType.ofEntries (ctx.laidOver given block) = .ok t :=
        (hblock.ofEntries_laidOver hkey es).trans htype
      have hvalidator : (Entries.value block "validator").isTruthy = false := by
        rw [hblock.value_eq (by decide)]
        rfl
      have hreference : ctx.overrideReference block given = none :=
        overrideReference_facets hblock given
      have hsame := @sameRule_retyped t _ _ _ hblock hkey hrequired
      rw [override_of_typed hreference hvalidator hlaid false]
      exact .value (.some (hsame.fillRequired field required))

theorem replaces_givenBlock {definitions' : Entries Data}
    (hdefinitions : List.Forall₂
      (fun e e' => e.1 = e'.1 ∧
        DefinitionLinked (GivenBlock ctx.extensionKey block) True e.2 e'.2)
      ctx.definitions definitions') :
    Replaces (GivenBlock ctx.extensionKey block) True (fun _ => False) ctx definitions' where
  definitions := hdefinitions
  key := ⟨fun heq => hkey (heq ▸ by decide), fun heq => hkey (heq ▸ by decide)⟩
  owned := Or.inl fun _ => id
  suits _ _ owner _ _ := suits_givenBlock hblock hkey _ _ owner
  embedded _ hfalse := hfalse.elim
  fields _ hfalse := hfalse.elim

end Context

namespace Session

variable {session : Session} {source source' : Source} {document document' : Entries Data}
  {key : String} {name : Scalar} {before after entries entries' block : Entries Data}

/-- A document that compiles does so after a block of facets is attached to a property that is read
by its type: one of a definition, of a fragment of it, or one that it lists directly. Collections
check alike what both compile to. -/
theorem compileDefinitions_givenBlock (hdecode : Document.decode source = .ok document)
    (hdecode' : Document.decode source' = .ok document')
    (hshares : ∀ sharing, source.sharing = some sharing → Document.Shares key document sharing)
    (hshares' : ∀ sharing, source'.sharing = some sharing → Document.Shares key document' sharing)
    (hkey : ∀ found, session.extensionKeyOf document = .ok found → found = key)
    (hwords : key ∉ "definitions" :: facetKeywords)
    (hdefinitions : Entries.value document "definitions" =
      .map (before ++ (name, .map entries) :: after))
    (hdefinitions' : Entries.value document' "definitions" =
      .map (before ++ (name, .map entries') :: after))
    (hrest : ∀ word, word ≠ "definitions" →
      Entries.value document' word = Entries.value document word)
    (hblock : IsFacetBlock block)
    (hreplaced : DefinitionReplaced (GivenBlock key block) entries entries' ∨
      FieldReplaced key (GivenBlock key block) entries entries') :
    Carries (List.Forall₂ Compiled.CheckedAlike)
      (session.compileDefinitions source .absent).outcome
      (session.compileDefinitions source' .absent).outcome := by
  rw [List.mem_cons, not_or] at hwords
  obtain ⟨hne, hapart⟩ := hwords
  have hproperties : key ≠ "properties" := fun heq => hapart (heq ▸ by decide)
  have hown : Entries.value entries key = Entries.value entries' key := by
    rcases hreplaced with hproperty | hfield
    · exact hproperty.value_eq hproperties fun heq => absurd (heq ▸ by decide) hapart
    · exact hfield.value_key
  have hlinked : RawLinked (GivenBlock key block) True entries entries' := by
    rcases hreplaced with hproperty | hfield
    · exact hproperty.rawLinked
    · exact hfield.nodeLinked.rawLinked
  have hreplaces : ∀ ctx, session.contextOf source .absent = .ok ctx → ctx.extensionKey = key →
      ctx.definitions = before ++ (name, .map entries) :: after →
      ctx.Replaces (GivenBlock key block) True (fun _ => False)
        (before ++ (name, .map entries') :: after) := by
    rintro ctx - rfl hsame
    refine Context.replaces_givenBlock hblock hapart ?_
    rw [hsame]
    exact forall₂_replaced (fun _ => ⟨rfl, .same _⟩) ⟨rfl, .raw hlinked⟩ _ _
  exact compileDefinitions_replaced hdecode hdecode' hshares hshares' hne hkey hdefinitions
    hdefinitions' hrest (forall₂_replaced (fun _ => ⟨rfl, rfl⟩) ⟨rfl, hown⟩ _ _) hreplaces

section Roster

def roster (property : Entries Data) : Entries Data :=
  [(.text "swagger", .int 2),
    (.text "definitions", .map [(.text "Person", .map (roster.person property))])]
where
  person (property : Entries Data) : Entries Data :=
    [(.text "properties", .map [(.text "entry", .map property)])]
  /-- A name, restricted to some. -/
  name : Entries Data := [(.text "type", .text "string"), (.text "enum", .list [.text "al"])]
  /-- An address inside the person. -/
  address : Entries Data :=
    [(.text "type", .text "object"),
      (.text "properties", .map [(.text "city", .map [(.text "type", .text "string")])])]
  indexed : Entries Data := [(.text "index", .bool true)]
  /-- A property with a block of one facet. -/
  withIndex (property : Entries Data) : Entries Data :=
    Entries.put property (.text "x-swagger-mongoose") (.map indexed)

private def rosterContext (property : Entries Data) : Context where
  definitions := [(.text "Person", .map (roster.person property))]
  version := Number.Binary64.ofInt? 2

private theorem isFacetBlock_indexed : IsFacetBlock roster.indexed where
  nonempty := List.cons_ne_nil _ _
  apart := by decide

private theorem outcome_roster {property : Entries Data} {shape : Shape} {v : Value}
    (hshape : Shape.ofProperty "x-swagger-mongoose" (.map property) = shape)
    (h : (rosterContext property).compileShape ((rosterContext property).meaning [.text "Person"])
      (.text "Person") (.text "entry") .null shape = .ok (some v)) :
    (({} : Session).compileDefinitions (.data (.map (roster property))) .absent).outcome =
      .ok [{ name := .text "Person", properties := .embedded [(.text "entry", v)],
             options := [], index := none }] := by
  have hctx : ({} : Session).contextOf (.data (.map (roster property))) .absent =
      .ok (rosterContext property) := rfl
  have hfields : (rosterContext property).fieldsMeaning [] (.text "Person") =
      .ok (.embedded [(.text "entry", v)]) :=
    Context.fieldsMeaning_of_property rfl rfl rfl hshape h
  rw [outcome_compileDefinitions hctx]
  exact Context.compileAll_of_fields (rosterContext property) rfl (.cons hfields .nil)

/-- A name is checked alike with an index. -/
theorem roster_indexed : ∃ compiled compiled',
    (({} : Session).compileDefinitions
      (.data (.map (roster roster.name))) .absent).outcome = .ok compiled ∧
    (({} : Session).compileDefinitions
      (.data (.map (roster (roster.withIndex roster.name)))) .absent).outcome = .ok compiled' ∧
    List.Forall₂ Compiled.CheckedAlike compiled compiled' := by
  have hkey : ∀ found, ({} : Session).extensionKeyOf (roster roster.name) = .ok found →
      found = "x-swagger-mongoose" := by
    intro found hfound
    cases hfound
    rfl
  have hrest : ∀ word, word ≠ "definitions" →
      Entries.value (roster (roster.withIndex roster.name)) word =
        Entries.value (roster roster.name) word := by
    intro word hword
    simp only [roster, Entries.value, Entries.get?_cons, Scalar.same_text_of_ne hword.symm,
      Bool.false_eq_true, if_false]
  have hform : Form.ofEntries "x-swagger-mongoose" roster.name = .scalar := rfl
  have hreplaced : DefinitionReplaced (GivenBlock "x-swagger-mongoose" roster.indexed)
      (roster.person roster.name) (roster.person (roster.withIndex roster.name)) :=
    .own (@OwnReplaced.intro _ _ [] [] _ _ _ (.intro (Or.inr hform) (fun h => by cases h)) rfl)
  have hshape : Shape.ofProperty "x-swagger-mongoose" (.map roster.name) =
      .typed (.ok (.scalar .text)) (some [.text "al"]) := by
    have htype : FieldType.ofEntries roster.name = .ok (.scalar .text) := by
      rw [FieldType.ofEntries_eq]
      rfl
    rw [Shape.ofProperty_map, hform, ← htype]
    rfl
  have hcompiled := outcome_roster hshape (by
    simp only [Context.compileShape]
    rfl)
  have hdefinitions : Entries.value (roster roster.name) "definitions" =
      .map ([] ++ (.text "Person", .map (roster.person roster.name)) :: []) := rfl
  have hcarries : Carries (List.Forall₂ Compiled.CheckedAlike)
      (({} : Session).compileDefinitions (.data (.map (roster roster.name))) .absent).outcome
      (({} : Session).compileDefinitions
        (.data (.map (roster (roster.withIndex roster.name)))) .absent).outcome :=
    compileDefinitions_givenBlock rfl rfl (fun _ h => by cases h) (fun _ h => by cases h) hkey
      (by decide) hdefinitions rfl hrest isFacetBlock_indexed (Or.inl hreplaced)
  obtain ⟨compiled', hcompiled', hsame⟩ := hcarries _ hcompiled
  exact ⟨_, compiled', hcompiled, hcompiled', hsame⟩

/-- An address is not checked at all with an index. -/
theorem address_unchecked : ∃ compiled compiled',
    (({} : Session).compileDefinitions
      (.data (.map (roster roster.address))) .absent).outcome = .ok compiled ∧
    (({} : Session).compileDefinitions
      (.data (.map (roster (roster.withIndex roster.address)))) .absent).outcome = .ok compiled' ∧
    ¬ List.Forall₂ Compiled.CheckedAlike compiled compiled' := by
  have hshape : Shape.ofProperty "x-swagger-mongoose" (.map roster.address) =
      .fields .null [(.text "city", .typed (.ok (.scalar .text)) none)] := by
    have hform : Form.ofEntries "x-swagger-mongoose" roster.address = .embedded := rfl
    have hcity := @Shape.ofProperty_string "x-swagger-mongoose" (by decide)
    rw [Shape.ofProperty_map, hform]
    exact Shape.ofNode_of_property rfl hcity
  have hcompiled := outcome_roster hshape (by
    simp only [Context.compileShape, Context.compileMembers]
    rfl)
  have hshape' : Shape.ofProperty "x-swagger-mongoose" (.map (roster.withIndex roster.address)) =
      .override (.map roster.indexed) (.map (roster.withIndex roster.address)) false :=
    Shape.ofProperty_of_block rfl (List.cons_ne_nil _ _)
  let kept : Entries Value :=
    [(.text "type", .text "object"),
      (.text "properties", .map [(.text "city", .map [(.text "type", .text "string")])]),
      (.text "index", .bool true)]
  have hcompiled' := @outcome_roster _ _ (.map kept) hshape' (by
    simp only [Context.compileShape]
    rfl)
  have hrule : CollectionRule.ofField (.map kept) = .anything := by
    have htype : Entries.get? kept (.text "type") = some (.text "object") := rfl
    rw [CollectionRule.ofField_descriptor htype rfl]
    simp only [Value.asFields, CollectionRule.ofField]
    rfl
  refine ⟨_, _, hcompiled, hcompiled', fun hsame => ?_⟩
  have hentry := (List.forall₂_cons.mp hsame).1.ofField_eq rfl rfl
  rw [hrule] at hentry
  simp only [CollectionRule.ofField, Value.fillRequired, CollectionRule.ofFields] at hentry
  cases hentry

end Roster

end Session

end StoreSchema
