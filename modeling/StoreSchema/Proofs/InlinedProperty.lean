import StoreSchema.Proofs.Blocks
import StoreSchema.Proofs.InlinedScalar

/-!
Documents in which a reference to a scalar definition is replaced by the body of the definition.

Main statement of this module: a document without extension blocks that compiles does so after the
replacement, and collections check alike what it compiles to. An array of the definition may be
written out only if the definition lists no values, since these are not carried into the array.
-/

set_option autoImplicit false

namespace StoreSchema

variable {pointer scalar : String} {body : Entries Data} {key : String}

def pointing (pointer : String) : Data := .map [(.text "$ref", .text pointer)]

/-- A property that refers to a definition, or an array of such, and the same with the body of the
definition in the place of the reference. The array refers to nothing else and lists no values of
its own, and neither does the definition. -/
inductive WrittenOut (pointer : String) (body : Entries Data) : Data → Data → Prop
  | one : WrittenOut pointer body (pointing pointer) (.map body)
  | array {es : Entries Data} (htype : Entries.value es "type" = .text "array")
      (hitems : Entries.get? es (.text "items") = some (pointing pointer))
      (hreference : Entries.value es "$ref" = .null)
      (hcomposition : (Entries.value es "allOf").isTruthy = false)
      (hown : Shape.choicesOf es = none) (hlisted : Shape.choicesOf body = none) :
      WrittenOut pointer body (.map es) (.map (Entries.put es (.text "items") (.map body)))

/-- Properties of which the second is what the first is with the definition inlined. -/
abbrev Inlined (scalar : String) (body : Entries Data) (key : String) (d d' : Data) : Prop :=
  Shape.Inlines (.ofBody scalar body) (Shape.ofProperty key d) (Shape.ofProperty key d')

section Shapes

private theorem inlines_ownDefaultOf {s : ScalarDefinition} {shape shape' : Shape}
    (h : Shape.Inlines s shape shape') (entries : Entries Data) :
    Shape.Inlines s shape (Shape.withDefaultOf entries shape') := by
  unfold Shape.withDefaultOf
  split
  · exact h.ownDefault _
  · exact h

private theorem inlines_withDefaultOf {s : ScalarDefinition} {shape shape' : Shape}
    {es es' : Entries Data} (h : Shape.Inlines s shape shape')
    (hdefault : Entries.get? es (.text "default") = Entries.get? es' (.text "default")) :
    Shape.Inlines s (Shape.withDefaultOf es shape) (Shape.withDefaultOf es' shape') := by
  unfold Shape.withDefaultOf
  rw [← hdefault]
  split
  · exact h.withDefault _
  · exact h

private theorem key_ne_of_unblocked {entries : Entries Data} {word : String}
    (hblock : Data.Unblocked key entries) (hword : (Entries.value entries word).isTruthy = true) :
    key ≠ word := by
  rintro rfl
  exact absurd (hword.symm.trans hblock) (by decide)

private theorem isTruthy_pointer (hpointer : Pointer.target (.text pointer) = .ok scalar) :
    (Data.text pointer).isTruthy = true := by
  have hne : pointer ≠ "" := by
    rintro rfl
    cases hpointer
  simpa [Data.isTruthy, Scalar.isTruthy] using hne

variable {es item : Entries Data} (htype : Entries.value es "type" = .text "array")
  (hitems : Entries.value es "items" = .map item)
  (hreference : Entries.value es "$ref" = .null)
  (hblock : Data.Unblocked key es) (hblock' : Data.Unblocked key item)

include htype hitems hreference hblock hblock'

private theorem form_of_arrayOfPointers {target : String}
    (hitem : Entries.value item "$ref" = .text pointer)
    (hpointer : Pointer.target (.text pointer) = .ok target) :
    Form.ofEntries key es = .reference target true := by
  have hread : Form.referenceOf es = .text pointer := by
    simp only [Form.referenceOf, htype, hitems, hreference, Data.value, hitem]
    rfl
  unfold Data.Unblocked at hblock hblock'
  simp only [Form.ofEntries, hread, hitems, Data.value, hblock, hblock', hpointer,
    Bool.false_eq_true, if_false]
  rfl

private theorem form_of_array (hitem : Entries.value item "$ref" = .null)
    (hcomposition : (Entries.value es "allOf").isTruthy = false) :
    Form.ofEntries key es = .array := by
  have hread : Form.referenceOf es = .null := by
    simp only [Form.referenceOf, htype, hitems, hreference, Data.value, hitem]
    rfl
  unfold Data.Unblocked at hblock hblock'
  simp only [Form.ofEntries, hread, hitems, htype, hcomposition, Data.value, hblock, hblock',
    Bool.false_eq_true, if_false]
  rfl

end Shapes

theorem WrittenOut.inlined {d d' : Data} (h : WrittenOut pointer body d d')
    (hbody : IsScalarBody key body) (hpointer : Pointer.target (.text pointer) = .ok scalar)
    (hd : d.Throughout (Data.Unblocked key)) (hd' : d'.Throughout (Data.Unblocked key)) :
    Inlined scalar body key d d' := by
  cases h with
  | one =>
    have hkey : key ≠ "$ref" := key_ne_of_unblocked hd.1 (isTruthy_pointer hpointer)
    unfold Inlined
    rw [pointing, Shape.ofProperty_pointer hkey hpointer, hbody.ofProperty_eq hd']
    exact inlines_ownDefaultOf .one body
  | @array es htype hitems hreference hcomposition hown hlisted =>
    have hkept : ∀ word, word ≠ "items" →
        Entries.value (Entries.put es (.text "items") (.map body)) word = Entries.value es word :=
      fun word hword => Entries.value_put_other hword _ _
    have hdeclared : Entries.value es "items" = pointing pointer := by
      rw [Entries.value, hitems]
      rfl
    have hput := Entries.get?_put_same es (.text "items") (.map body)
    have hdeclared' : Entries.value (Entries.put es (.text "items") (.map body)) "items" =
        .map body := by
      rw [Entries.value, hput]
      rfl
    have hitem : Data.Unblocked key [(.text "$ref", .text pointer)] := by
      have hitem := Data.throughout_value hd.values "items"
      rw [hdeclared] at hitem
      exact hitem.1
    have hitem' : Data.Unblocked key body := by
      have hitem := Data.throughout_value hd'.values "items"
      rw [hdeclared'] at hitem
      exact hitem.1
    have htype' := (hkept "type" (by decide)).trans htype
    have hform := form_of_arrayOfPointers htype hdeclared hreference hd.1 hitem rfl hpointer
    have hform' := form_of_array htype' hdeclared' ((hkept _ (by decide)).trans hreference) hd'.1
      hitem' hbody.reference (by rw [hkept _ (by decide), hcomposition])
    have hchoices : Shape.choicesOf (Entries.put es (.text "items") (.map body)) = none := by
      rw [← hown, Shape.choicesOf, Shape.choicesOf, hkept _ (by decide)]
    unfold Inlined
    rw [Shape.ofProperty_map, Shape.ofProperty_map, hform, hform']
    refine inlines_withDefaultOf ?_ ?_
    · dsimp only [Shape.ofForm]
      rw [hchoices, FieldType.ofEntries_of_array htype' hput]
      exact .array hlisted
    · exact (Entries.get?_put_other _ _ (by decide)).symm

section Throughout

variable {P Q : Data → Data → Prop} {kind : Entries Data → Prop} {es es' : Entries Data}
  (himp : ∀ d d', P d d' → d.Throughout kind → d'.Throughout kind → Q d d')

include himp

private theorem OwnReplaced.imp_throughout (h : OwnReplaced P es es')
    (hes : (Data.map es).Throughout kind) (hes' : (Data.map es').Throughout kind) :
    OwnReplaced Q es es' := by
  cases h with
  | @intro before after name d d' h hread =>
    have hall := Data.throughout_value hes.values "properties"
    have hall' := Data.throughout_value hes'.values "properties"
    rw [Entries.value, hread] at hall
    rw [Entries.value, Entries.get?_put_same] at hall'
    exact .intro (himp d d' h hall.entry hall'.entry) hread

theorem DefinitionReplaced.imp_throughout (h : DefinitionReplaced P es es')
    (hes : (Data.map es).Throughout kind) (hes' : (Data.map es').Throughout kind) :
    DefinitionReplaced Q es es' := by
  cases h with
  | own h => exact .own (h.imp_throughout himp hes hes')
  | @fragment before after part part' h hread =>
    have hall := Data.throughout_value hes.values "allOf"
    have hall' := Data.throughout_value hes'.values "allOf"
    rw [Entries.value, hread] at hall
    rw [Entries.value, Entries.get?_put_same] at hall'
    exact .fragment (h.imp_throughout himp hall.item hall'.item) hread

end Throughout

namespace Context

open Value (SameRule SameRuleIfAny SameFields)

variable {ctx : Context} (hraw : ctx.rawDefinition (.text scalar) = .ok (.map body))
  (hbody : IsScalarBody ctx.extensionKey body)

include hraw hbody

private theorem normalForm_scalar : ctx.normalForm (.text scalar) = .ok (.map body) := by
  have hplain : Composition.isComposed (.map body) = false := hbody.composition
  rw [normalForm_eq, readDefinition_of_raw hraw, hplain]
  rfl

private theorem fieldsMeaning_scalar {name : Scalar} (hname : name.same (.text scalar) = true)
    (stack : List Scalar) :
    ctx.fieldsMeaning stack name = ctx.compileNode (ctx.meaning (stack ++ [name])) name
      (.typed (FieldType.ofEntries body) none) := by
  have hnode : ctx.normalForm name = .ok (.map body) :=
    normalForm_same (Scalar.same_symm hname) (normalForm_scalar hraw hbody)
  rw [fieldsMeaning_map hnode, hbody.ofNode_eq]

variable (hblocks : (Data.map body).Throughout (Data.Unblocked ctx.extensionKey))

include hblocks

private theorem embedAt_succ_ruledBy (depth : Nat) (stack : List Scalar) {field : Scalar}
    (hfield : ctx.isReserved field = false) (many : Bool) :
    BothYield ((ScalarDefinition.ofBody scalar body).RuledBy many)
      (ctx.embedAt (depth + 1) stack field scalar many)
      (ScalarDefinition.ofBody scalar body).type := by
  simp only [embedAt, normalForm_scalar hraw hbody, ok_bind]
  exact hbody.compileTarget_ruledBy hblocks scalar hfield many

omit hblocks in
private theorem resolution_scalar (embed : Embed (Except Fault)) {stack : List Scalar}
    (hstack : ∀ name ∈ stack, ¬ name.same (.text scalar) = true) {owner : Scalar}
    (howner : ¬ owner.same (.text scalar) = true) (field : Scalar) (many : Bool) :
    ctx.resolution embed stack owner field scalar many = embed field scalar many := by
  have hself : ctx.isSelfReference owner scalar stack = false := by
    have hany : (stack.any fun name => name.same (.text scalar)) = false := by
      simpa using hstack
    rw [isSelfReference, Bool.eq_false_iff.mpr howner, hany, Bool.and_false]
    rfl
  have hfound : ctx.requireDefinition (.text scalar) = .ok (.text scalar) :=
    requireDefinition_of_normalForm (normalForm_scalar hraw hbody)
  simp only [resolution, ofExcept_eq, hfound, ok_bind, hself, Bool.false_eq_true, if_false]

private theorem suits_inlined (depth : Nat) {stack : List Scalar}
    (hstack : ∀ name ∈ stack, ¬ name.same (.text scalar) = true) {owner : Scalar}
    (howner : ¬ owner.same (.text scalar) = true) (resolve' : Resolve (Except Fault)) :
    ctx.Suits (Inlined scalar body ctx.extensionKey)
      (ctx.resolution (ctx.embedAt depth stack) stack) resolve' owner := by
  refine fun _ _ hinlined => compilesAlike_of_inlines (fun field many hfield => ?_) hinlined
  have hfollowed := resolution_scalar hraw hbody (ctx.embedAt depth stack) hstack howner field many
  refine hfollowed ▸ ?_
  cases depth with
  | zero => exact .fault _ _
  | succ depth =>
    exact .of_bothYield (embedAt_succ_ruledBy hraw hbody hblocks depth stack hfield many)

omit hraw hbody hblocks in
private theorem type_normalForm
    (htypes : ∀ e ∈ ctx.definitions,
      e.2.value "type" = .null ∨ (e.2.value "type").isTruthy = true)
    {name : Scalar} {entries : Entries Data} (hnode : ctx.normalForm name = .ok (.map entries)) :
    Entries.value entries "type" = .null ∨ (Entries.value entries "type").isTruthy = true := by
  obtain ⟨raw, hraw⟩ : ∃ raw, ctx.rawDefinition name = .ok raw := by
    cases hraw : ctx.rawDefinition name with
    | ok raw => exact ⟨raw, rfl⟩
    | error fault =>
      rw [normalForm_of_unregistered hraw] at hnode
      cases hnode
  obtain ⟨_, hmem, -⟩ := exists_key_of_rawDefinition hraw
  have hsame : Entries.value entries "type" = raw.value "type" :=
    value_normalForm hraw hnode (by decide)
  rw [hsame]
  exact htypes _ hmem

theorem replaces_inlined {definitions' : Entries Data}
    (hraw' : (ctx.redefined definitions').rawDefinition (.text scalar) = .ok (.map body))
    (hdefinitions : List.Forall₂
      (fun e e' => e.1 = e'.1 ∧
        DefinitionLinked (Inlined scalar body ctx.extensionKey) False e.2 e'.2)
      ctx.definitions definitions')
    (hproperties : ctx.extensionKey ≠ "properties")
    (htypes : ∀ e ∈ ctx.definitions,
      e.2.value "type" = .null ∨ (e.2.value "type").isTruthy = true) :
    Replaces (Inlined scalar body ctx.extensionKey) False
      (fun name => name.same (.text scalar) = true) ctx definitions' where
  definitions := hdefinitions
  key := ⟨hbody.key_ne_type hblocks.1, hproperties⟩
  owned := Or.inr ⟨not_false, fun _ _ => type_normalForm htypes⟩
  suits depth stack owner hstack howner :=
    suits_inlined hraw hbody hblocks depth hstack howner _
  embedded target htarget depth stack field many hfield := by
    obtain rfl : target = scalar := by simpa using Scalar.same_text.mp htarget
    cases depth with
    | zero => exact .fault _ _
    | succ depth =>
      have hruled := embedAt_succ_ruledBy hraw hbody hblocks depth stack hfield many
      have hruled' := @embedAt_succ_ruledBy _ body (ctx.redefined definitions') hraw' hbody hblocks
        depth stack field hfield many
      exact ScalarDefinition.carries_of_ruledBy _ hruled hruled'
  fields name hname := by
    have hfields := fieldsMeaning_scalar hraw hbody hname []
    have hfields' := @fieldsMeaning_scalar _ body (ctx.redefined definitions') hraw' hbody _ hname
      []
    rw [hfields, hfields']
    exact compileNode_typed_alike name _ none

end Context

section Replaced

variable {P : Data → Data → Prop} {es es' : Entries Data}

private theorem DefinitionReplaced.key_ne_properties (h : DefinitionReplaced P es es')
    (hes : (Data.map es).Throughout (Data.Unblocked key)) : key ≠ "properties" := by
  have hown : ∀ {es es' : Entries Data}, OwnReplaced P es es' → Data.Unblocked key es →
      key ≠ "properties" := by
    rintro es es' ⟨-, hread⟩ hblock
    refine key_ne_of_unblocked hblock ?_
    rw [Entries.value, hread]
    simp [Data.isTruthy]
  cases h with
  | own h => exact hown h hes.1
  | fragment h hread =>
    have hall := Data.throughout_value hes.values "allOf"
    rw [Entries.value, hread] at hall
    exact hown h hall.item.1

private theorem IsScalarBody.not_replaced (hbody : IsScalarBody key body) :
    ¬ DefinitionReplaced P body es' := by
  rintro (⟨-, hread⟩ | ⟨-, hread⟩)
  · have hnone := hbody.properties
    rw [Entries.value, hread] at hnone
    cases hnone
  · have hplain := hbody.composition
    rw [Entries.value, hread] at hplain
    simp [Data.isTruthy] at hplain

private theorem IsScalarBody.get?_replaced (hbody : IsScalarBody key body)
    (h : DefinitionReplaced P es es') {before after : Entries Data} {name : Scalar}
    (hscalar : Entries.get? (before ++ (name, .map es) :: after) (.text scalar) =
      some (.map body)) :
    Entries.get? (before ++ (name, .map es') :: after) (.text scalar) = some (.map body) := by
  let Kept (e e' : Scalar × Data) : Prop := e.1 = e'.1 ∧
    (e.2 = e'.2 ∨ ∃ es es', e.2 = .map es ∧ DefinitionReplaced P es es')
  have hall : List.Forall₂ Kept (before ++ (name, .map es) :: after)
      (before ++ (name, .map es') :: after) :=
    forall₂_replaced (fun _ => ⟨rfl, Or.inl rfl⟩) ⟨rfl, Or.inr ⟨es, es', rfl, h⟩⟩ _ _
  rcases Entries.get?_of_forall₂ (fun _ _ => And.left) hall (.text scalar) with
    ⟨hnone, -⟩ | ⟨_, raw, raw', -, ⟨-, hkept⟩, hraw, hraw'⟩
  · rw [hscalar] at hnone
    cases hnone
  · rw [hscalar] at hraw
    obtain rfl := Option.some.inj hraw
    rcases hkept with rfl | ⟨_, _, hmap, hreplaced⟩
    · exact hraw'
    · obtain rfl := Data.map.inj hmap
      exact absurd hreplaced hbody.not_replaced

end Replaced

namespace Session

variable {session : Session} {source source' : Source} {document document' : Entries Data}
  {name : Scalar} {before after entries entries' : Entries Data}

/-- A document without extension blocks that compiles does so if a reference to a scalar definition
in a property of a definition, or in the items of one, is replaced by the body of the scalar
definition; and collections check alike what both compile to.

What `htypes` excludes is a definition with a type that is empty but not null, such as `""`. Where
it is referred to, such a definition is read as a property, and the field that refers to it, which
may have the name of the scalar definition, is the owner of its fields. For the same reason the
property is one under `properties`: definitions that list their fields directly are left out here,
and are covered for blocks of facets. -/
theorem compileDefinitions_inlined (hdecode : Document.decode source = .ok document)
    (hdecode' : Document.decode source' = .ok document')
    (hshares : ∀ sharing, source.sharing = some sharing → Document.Shares key document sharing)
    (hshares' : ∀ sharing, source'.sharing = some sharing → Document.Shares key document' sharing)
    (hkey : ∀ found, session.extensionKeyOf document = .ok found → found = key)
    (hdefinitions : Entries.value document "definitions" =
      .map (before ++ (name, .map entries) :: after))
    (hdefinitions' : Entries.value document' "definitions" =
      .map (before ++ (name, .map entries') :: after))
    (hrest : ∀ word, word ≠ "definitions" →
      Entries.value document' word = Entries.value document word)
    (hblocks : (Data.map document).Blockless key) (hblocks' : (Data.map document').Blockless key)
    (hscalar : Entries.get? (before ++ (name, .map entries) :: after) (.text scalar) =
      some (.map body))
    (hbody : IsScalarBody key body) (hpointer : Pointer.target (.text pointer) = .ok scalar)
    (hreplaced : DefinitionReplaced (WrittenOut pointer body) entries entries')
    (htypes : ∀ e ∈ before ++ (name, .map entries) :: after,
      e.2.value "type" = .null ∨ (e.2.value "type").isTruthy = true) :
    Carries (List.Forall₂ Compiled.CheckedAlike)
      (session.compileDefinitions source .absent).outcome
      (session.compileDefinitions source' .absent).outcome := by
  rw [Data.blockless_iff_throughout] at hblocks hblocks'
  have hdeclared : (Data.map (before ++ (name, .map entries) :: after)).Throughout
      (Data.Unblocked key) := hdefinitions ▸ Data.throughout_value hblocks.values "definitions"
  have hdeclared' : (Data.map (before ++ (name, .map entries') :: after)).Throughout
      (Data.Unblocked key) := hdefinitions' ▸ Data.throughout_value hblocks'.values "definitions"
  have hne : key ≠ "definitions" := by
    refine key_ne_of_unblocked hblocks.1 ?_
    rw [hdefinitions]
    simp [Data.isTruthy]
  have hproperties : key ≠ "properties" := hreplaced.key_ne_properties hdeclared.entry
  have hown : Data.value (.map entries) key = Data.value (.map entries') key :=
    hreplaced.value_eq hproperties fun _ => hdeclared.entry.1
  have hlinked : DefinitionReplaced (Inlined scalar body key) entries entries' :=
    hreplaced.imp_throughout (fun _ _ h => h.inlined hbody hpointer) hdeclared.entry
      hdeclared'.entry
  have hinside : (Data.map body).Throughout (Data.Unblocked key) := by
    obtain ⟨_, hmem, -⟩ := Entries.exists_mem_of_get? hscalar
    exact hdeclared.values _ hmem
  have hreplaces : ∀ ctx, session.contextOf source .absent = .ok ctx → ctx.extensionKey = key →
      ctx.definitions = before ++ (name, .map entries) :: after →
      ctx.Replaces (Inlined scalar body key) False (fun name => name.same (.text scalar) = true)
        (before ++ (name, .map entries') :: after) := by
    rintro ctx - rfl hsame
    refine Context.replaces_inlined ?_ hbody hinside ?_ ?_ hproperties (hsame ▸ htypes)
    · rw [Context.rawDefinition, hsame, hscalar]
    · rw [Context.rawDefinition, Context.redefined, hbody.get?_replaced hreplaced hscalar]
    · rw [hsame]
      exact forall₂_replaced (fun _ => ⟨rfl, .same _⟩) ⟨rfl, .raw hlinked.rawLinked⟩ _ _
  exact compileDefinitions_replaced hdecode hdecode' hshares hshares' hne hkey hdefinitions
    hdefinitions' hrest (forall₂_replaced (fun _ => ⟨rfl, rfl⟩) ⟨rfl, hown⟩ _ _) hreplaces

section Fleet

/-- A document with cars, each with paint as the property says. -/
def fleet (paint : Data) : Entries Data :=
  [(.text "definitions", .map [(.text "Color", .map fleet.color), (.text "Car", fleet.car paint)])]
where
  color : Entries Data := [(.text "type", .text "string"), (.text "enum", .list [.text "red"])]
  car (paint : Data) : Data := .map [(.text "properties", .map [(.text "paint", paint)])]

def colorsOf (items : Data) : Entries Data :=
  [(.text "type", .text "array"), (.text "items", items)]

private def fleetContext (paint : Data) : Context where
  definitions := [(.text "Color", .map fleet.color), (.text "Car", fleet.car paint)]

private theorem isScalarBody_color : IsScalarBody "_mongoose" fleet.color where
  type := ⟨"string", by decide, by decide, rfl⟩
  reference := rfl
  composition := rfl
  properties := rfl
  unread hkey := absurd hkey (by decide)

private theorem type_color : (ScalarDefinition.ofBody "Color" fleet.color).type =
    .ok (.scalar .text) := by
  have htype := FieldType.ofEntries_eq fleet.color
  exact htype

private theorem throughout_color :
    (Data.map fleet.color).Throughout (Data.Unblocked "_mongoose") :=
  ⟨rfl, trivial, ⟨trivial, trivial⟩, trivial⟩

private theorem exists_meaning_color (paint : Data) (many : Bool) :
    ∃ v, (fleetContext paint).meaning [.text "Car"] (.text "Car") (.text "paint") "Color" many =
        .ok (some v) ∧
      Value.SameRule v
        ((Context.typedDescriptor (.scalar .text) (some [.text "red"])).manyOf many) := by
  have hcar : ∀ name ∈ [Scalar.text "Car"], ¬ name.same (.text "Color") = true := by decide
  have hfollowed : (fleetContext paint).meaning [.text "Car"] (.text "Car") (.text "paint") "Color"
      many = (fleetContext paint).embedAt 9 [.text "Car"] (.text "paint") "Color" many :=
    @Context.resolution_scalar "Color" _ (fleetContext paint) rfl isScalarBody_color _ _ hcar
      (.text "Car") (by decide) (.text "paint") many
  have hruled := @Context.embedAt_succ_ruledBy "Color" _ (fleetContext paint) rfl
    isScalarBody_color throughout_color 8 [.text "Car"] (.text "paint") rfl many
  rw [type_color] at hruled
  rw [hfollowed]
  generalize (fleetContext paint).embedAt _ _ _ _ _ = found at hruled ⊢
  cases hruled with
  | value hruled =>
    cases hruled with
    | some hsame => exact ⟨_, rfl, hsame⟩

private theorem outcome_fleet {paint : Data} {shape : Shape} {v : Value}
    (hshape : Shape.ofProperty "_mongoose" paint = shape)
    (h : (fleetContext paint).compileShape ((fleetContext paint).meaning [.text "Car"])
      (.text "Car") (.text "paint") .null shape = .ok (some v)) :
    (({} : Session).compileDefinitions (.data (.map (fleet paint))) .absent).outcome =
      .ok [{ name := .text "Color", properties := Context.typedDescriptor (.scalar .text) none,
             options := [], index := none },
        { name := .text "Car", properties := .embedded [(.text "paint", v)],
          options := [], index := none }] := by
  have hctx : ({} : Session).contextOf (.data (.map (fleet paint))) .absent =
      .ok (fleetContext paint) := rfl
  have hcolor : (fleetContext paint).fieldsMeaning [] (.text "Color") =
      .ok (Context.typedDescriptor (.scalar .text) none) := by
    rw [@Context.fieldsMeaning_scalar "Color" _ (fleetContext paint) rfl isScalarBody_color _ rfl]
    simp only [Context.compileNode, ofExcept_eq]
    rw [show FieldType.ofEntries fleet.color = _ from type_color]
    rfl
  have hcar : (fleetContext paint).fieldsMeaning [] (.text "Car") =
      .ok (.embedded [(.text "paint", v)]) :=
    Context.fieldsMeaning_of_property rfl rfl rfl hshape h
  rw [outcome_compileDefinitions hctx]
  exact Context.compileAll_of_fields (fleetContext paint) rfl (.cons hcolor (.cons hcar .nil))

/-- The color of a car is inlined. -/
theorem fleet_inlined : ∃ compiled compiled',
    (({} : Session).compileDefinitions
      (.data (.map (fleet (pointing "#/definitions/Color")))) .absent).outcome = .ok compiled ∧
    (({} : Session).compileDefinitions
      (.data (.map (fleet (.map fleet.color)))) .absent).outcome = .ok compiled' ∧
    List.Forall₂ Compiled.CheckedAlike compiled compiled' := by
  have hkey : ∀ found, ({} : Session).extensionKeyOf (fleet (pointing "#/definitions/Color")) =
      .ok found → found = "_mongoose" := by
    intro found hfound
    cases hfound
    rfl
  have hrest : ∀ word, word ≠ "definitions" →
      Entries.value (fleet (.map fleet.color)) word =
        Entries.value (fleet (pointing "#/definitions/Color")) word := by
    intro word hword
    simp only [fleet, Entries.value, Entries.get?_cons, Scalar.same_text_of_ne hword.symm,
      Bool.false_eq_true, if_false]
  have hblocks : (Data.map (fleet (pointing "#/definitions/Color"))).Blockless "_mongoose" := by
    simp only [fleet, fleet.color, fleet.car, pointing, Data.Blockless, Data.BlocklessEntries,
      Data.BlocklessItems]
    decide
  have hblocks' : (Data.map (fleet (.map fleet.color))).Blockless "_mongoose" := by
    simp only [fleet, fleet.color, fleet.car, Data.Blockless, Data.BlocklessEntries,
      Data.BlocklessItems]
    decide
  have hreplaced : DefinitionReplaced (WrittenOut "#/definitions/Color" fleet.color)
      [(.text "properties", .map [(.text "paint", pointing "#/definitions/Color")])]
      [(.text "properties", .map [(.text "paint", .map fleet.color)])] :=
    .own (@OwnReplaced.intro _ _ [] [] _ _ _ .one rfl)
  have htypes : ∀ e ∈ [(.text "Color", .map fleet.color)] ++
      (Scalar.text "Car", fleet.car (pointing "#/definitions/Color")) :: [],
      e.2.value "type" = .null ∨ (e.2.value "type").isTruthy = true := by
    simp only [List.singleton_append, List.forall_mem_cons]
    exact ⟨Or.inr rfl, Or.inl rfl, fun _ hmem => absurd hmem List.not_mem_nil⟩
  have hpointer : Pointer.target (.text "#/definitions/Color") = .ok "Color" := rfl
  have hshape : Shape.ofProperty "_mongoose" (pointing "#/definitions/Color") =
      .reference "Color" false := Shape.ofProperty_pointer (by decide) hpointer
  obtain ⟨v, hv, -⟩ := exists_meaning_color (pointing "#/definitions/Color") false
  have hcompiled := outcome_fleet hshape (by
    simp only [Context.compileShape, hv]
    rfl)
  have hdefinitions : Entries.value (fleet (pointing "#/definitions/Color")) "definitions" =
      .map ([(.text "Color", .map fleet.color)] ++ (.text "Car", .map [(.text "properties",
        .map [(.text "paint", pointing "#/definitions/Color")])]) :: []) := rfl
  have hcarries : Carries (List.Forall₂ Compiled.CheckedAlike)
      (({} : Session).compileDefinitions
        (.data (.map (fleet (pointing "#/definitions/Color")))) .absent).outcome
      (({} : Session).compileDefinitions
        (.data (.map (fleet (.map fleet.color)))) .absent).outcome :=
    compileDefinitions_inlined rfl rfl (fun _ h => by cases h) (fun _ h => by cases h) hkey
      hdefinitions rfl hrest hblocks hblocks' rfl isScalarBody_color hpointer hreplaced htypes
  obtain ⟨compiled', hcompiled', hsame⟩ := hcarries _ hcompiled
  exact ⟨_, compiled', hcompiled, hcompiled', hsame⟩

/-- Colors lose their values when they are written out in an array. -/
theorem colors_not_inlined : ∃ compiled compiled',
    (({} : Session).compileDefinitions
      (.data (.map (fleet (.map (colorsOf (pointing "#/definitions/Color")))))) .absent).outcome =
        .ok compiled ∧
    (({} : Session).compileDefinitions
      (.data (.map (fleet (.map (colorsOf (.map fleet.color)))))) .absent).outcome =
        .ok compiled' ∧
    ¬ List.Forall₂ Compiled.CheckedAlike compiled compiled' := by
  have hshape : Shape.ofProperty "_mongoose" (.map (colorsOf (pointing "#/definitions/Color"))) =
      .reference "Color" true := by
    have hown : Data.Unblocked "_mongoose" (colorsOf (pointing "#/definitions/Color")) := rfl
    have hitem : Data.Unblocked "_mongoose" [(.text "$ref", .text "#/definitions/Color")] := rfl
    rw [Shape.ofProperty_map, form_of_arrayOfPointers rfl rfl rfl hown hitem rfl rfl]
    rfl
  have hshape' : Shape.ofProperty "_mongoose" (.map (colorsOf (.map fleet.color))) =
      .typed (.ok (.listOf (.scalar .text))) none := by
    have htype : FieldType.ofEntries (colorsOf (.map fleet.color)) =
        .ok (.listOf (.scalar .text)) := by
      rw [FieldType.ofEntries_of_array rfl (by rfl : _ = some (Data.map fleet.color)),
        show FieldType.ofEntries fleet.color = _ from type_color]
      rfl
    have hown : Data.Unblocked "_mongoose" (colorsOf (.map fleet.color)) := rfl
    rw [Shape.ofProperty_map, form_of_array rfl rfl rfl hown throughout_color.1 rfl rfl, ← htype]
    rfl
  obtain ⟨v, hv, hrule⟩ :=
    exists_meaning_color (.map (colorsOf (pointing "#/definitions/Color"))) true
  have hcompiled := outcome_fleet hshape (by
    simp only [Context.compileShape, hv]
    rfl)
  have hcompiled' := outcome_fleet hshape' (by
    simp only [Context.compileShape]
    rfl)
  refine ⟨_, _, hcompiled, hcompiled', fun hsame => ?_⟩
  have hcars := (List.forall₂_cons.mp (List.forall₂_cons.mp hsame).2).1
  have hpaint := hrule.rule.symm.trans (hcars.ofField_eq rfl rfl)
  have hlisted : CollectionRule.ofField
      (Context.typedDescriptor (.scalar .text) (some [.text "red"])) =
        .storedAs .text (some [.scalar (.text "red")]) := by
    rw [Context.typedDescriptor, CollectionRule.ofField_descriptor rfl rfl]
    simp only [FieldType.toValue, Value.asFields, CollectionRule.ofField, Value.ofItems]
    rfl
  have hplain : CollectionRule.ofField (Context.typedDescriptor (.listOf (.scalar .text)) none) =
      .arrayOf (some (.storedAs .text none)) none := by
    rw [Context.typedDescriptor, CollectionRule.ofField_descriptor rfl rfl]
    simp only [FieldType.toValue, Value.asFields, CollectionRule.ofField,
      CollectionRule.ofItems]
    rfl
  simp only [Value.manyOf, if_true, CollectionRule.ofField, CollectionRule.ofItems, hlisted]
    at hpaint
  have hlost := hpaint.trans hplain
  injection hlost with hitem _
  injection hitem with hitem
  injection hitem with _ hchoices
  cases hchoices

end Fleet

end Session

end StoreSchema
