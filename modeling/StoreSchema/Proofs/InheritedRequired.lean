import StoreSchema.Proofs.Fields
import StoreSchema.Proofs.Normalization

/-!
From the properties of a node, its own or inherited, to the rule of a collection.

Main statements of this module: the fields that a node without extension blocks compiles to are its
properties in order, but for the reserved ones and the compositions, and the rule made of them
names these fields and requires those that the node requires; a field of a composed definition is
required exactly if a fragment lists it, or if no fragment lists any field and the definition itself
requires it. A fragment that requires all of its properties by a flag lists none.
-/

set_option autoImplicit false

namespace StoreSchema

namespace CollectionRule

theorem keys_fieldRules (fields : Entries Value) :
    Entries.keys (fieldRules fields) = Entries.keys fields := by
  induction fields with
  | nil => simp only [fieldRules]; rfl
  | cons e rest ih =>
    obtain ⟨name, v⟩ := e
    rw [fieldRules, Entries.keys, List.map_cons, ← Entries.keys, ih]
    rfl

theorem keys_fieldValues (rules : Entries CollectionRule) :
    Entries.keys (fieldValues rules) = Entries.keys rules := by
  induction rules with
  | nil => rfl
  | cons e rest ih =>
    obtain ⟨name, rule⟩ := e
    rw [fieldValues, Entries.keys, List.map_cons, ← Entries.keys, ih]
    rfl

/-- The rule of fields each of which is required or not: it names the fields in order, and lists
those that are required if there are any. -/
theorem toValue_ofFields {fields : Entries Value} {required : Scalar → Bool}
    (h : ∀ e ∈ fields, isRequired e.2 = required e.1) :
    ∃ rules, (ofFields fields).toValue = .map ((.text "bsonType", .text "object") ::
        (.text "properties", .map rules) ::
        if ((Entries.keys fields).filter required).isEmpty then []
        else [(.text "required",
          .list (((Entries.keys fields).filter required).map .scalar))]) ∧
      Entries.keys rules = Entries.keys fields := by
  have hrequired : (fields.filter fun e => isRequired e.2).map Prod.fst =
      (Entries.keys fields).filter required := by
    rw [Entries.keys, List.filter_map, List.filter_congr h]
    rfl
  refine ⟨fieldValues (fieldRules fields), ?_, ?_⟩
  · rw [ofFields, hrequired, toValue]
    exact congrArg (fun rest => Value.map (_ :: _ :: rest)) (List.append_nil _)
  · rw [keys_fieldValues, keys_fieldRules]

end CollectionRule

namespace Context

variable {ctx : Context}

/-- The names of the properties that are neither reserved nor compositions. -/
def compiledNames (ctx : Context) (properties : Entries Data) : List Scalar :=
  (properties.filter fun e => !ctx.isReserved e.1 && !e.2.isComposition).map Prod.fst

/-- No extension block is read in a node, nor in a definition that its references lead to, directly
or through others. -/
def UnextendedFrom (ctx : Context) (node : Entries Data) : Prop :=
  ∃ reached : String → Prop, (Shape.ofNode ctx.extensionKey node).Plain reached ∧
    ∀ target, reached target → ctx.PlainAt reached (.text target)

/-- Compiling a node that declares properties and neither a composition nor an extension block,
which its references do not lead to either: the fields are its properties in order but for the
reserved ones and the compositions, and the rule made of them has these names and requires exactly
those that the node requires. -/
theorem fields_of_compileSet {p : Progress} (hmem : ctx.Remembers p) {owner : Scalar}
    {node properties : Entries Data}
    (hproperties : Entries.value node "properties" = .map properties)
    (hcomposed : (Entries.value node "allOf").isTruthy = false)
    (hblocks : ctx.UnextendedFrom node) {v : Value}
    (h : (ctx.compileSet owner (.map node)).outcome p = .ok v) :
    ∃ fields, v = .embedded fields ∧ Entries.keys fields = ctx.compiledNames properties ∧
      ∃ rules, (CollectionRule.ofFields fields).toValue =
          .map ((.text "bsonType", .text "object") :: (.text "properties", .map rules) ::
            let required := (Entries.keys fields).filter (Entries.value node "required").requires
            if required.isEmpty then []
            else [(.text "required", .list (required.map .scalar))]) ∧
        Entries.keys rules = Entries.keys fields := by
  obtain ⟨reached, hnode, hreached⟩ := hblocks
  have hresolve : ctx.ResolvesTo True reached (ctx.meaning p.resolving) :=
    resolvesTo_meaning hreached (fun _ _ _ => trivial) p.resolving
  have hset : ctx.compileSetWith ctx.normalForm (ctx.meaning p.resolving) owner (.map node) =
      .ok v := by
    rw [← h]
    exact (compileSet_yields p.resolving owner (.map node) p rfl hmem).1.symm
  rw [compileSetWith_map hcomposed, Shape.ofNode_of_properties _ hproperties] at hset
  rw [Shape.ofNode_of_properties _ hproperties] at hnode
  obtain ⟨fields, hfields, hset⟩ := exists_of_bind_eq_ok hset
  cases hset
  obtain ⟨hall, hkeys⟩ := isCompiled_compileMembers hresolve _ _ hnode hfields
  refine ⟨fields, rfl, ?_, CollectionRule.toValue_ofFields fun e he => (hall e he).required⟩
  have hmembers := Shape.plainMembers_iff.mp hnode
  rw [hkeys, Shape.members_all, List.filter_map, List.map_map, compiledNames]
  rw [Shape.members_all] at hmembers
  congr 1
  apply List.filter_congr
  intro e he
  have hshape := hmembers _ (List.mem_map.mpr ⟨e, he, rfl⟩)
  simp only [Function.comp_apply, Shape.isOmitted_ofProperty hshape]

section Acquainted

/-- A definition with a reserved field, a field, a reference back to it that is required, and a
composition. -/
def acquainted : Context where
  definitions := [(.text "Person", .map person)]
where
  traits : Data := .map [(.text "allOf", .list [.map []])]
  properties : Entries Data :=
    [(.text "_id", .map [(.text "type", .text "string")]),
      (.text "name", .map [(.text "type", .text "string")]),
      (.text "friend", .map [(.text "$ref", .text "#/definitions/Person")]),
      (.text "traits", traits)]
  person : Entries Data :=
    [(.text "properties", .map properties), (.text "required", .list [.text "friend"])]

private theorem ofNode_person :
    Shape.ofNode "_mongoose" acquainted.person = .fields (.list [.text "friend"])
      [(.text "_id", .typed (.ok (.scalar .text)) none),
        (.text "name", .typed (.ok (.scalar .text)) none),
        (.text "friend", .reference "Person" false), (.text "traits", .composed)] := by
  have hfriend : Shape.ofProperty "_mongoose"
      (.map [(.text "$ref", .text "#/definitions/Person")]) = .reference "Person" false :=
    Shape.ofProperty_pointer (by decide) rfl
  have htraits : Shape.ofProperty "_mongoose" acquainted.traits = .composed := by
    have hform : Form.ofEntries "_mongoose" [(.text "allOf", .list [.map []])] = .composed := rfl
    rw [acquainted.traits, Shape.ofProperty_map, hform]
    rfl
  rw [@Shape.ofNode_of_properties "_mongoose" acquainted.person acquainted.properties rfl,
    Shape.members_all, acquainted.properties]
  have hstring := @Shape.ofProperty_string "_mongoose" (by decide)
  simp only [List.map_cons, List.map_nil, hstring, hfriend, htraits]
  rfl

private theorem unextendedFrom_person : acquainted.UnextendedFrom acquainted.person := by
  have hnode : (Shape.ofNode "_mongoose" acquainted.person).Plain (· = "Person") := by
    rw [ofNode_person]
    exact ⟨trivial, trivial, rfl, trivial, trivial⟩
  refine ⟨(· = "Person"), hnode, ?_⟩
  rintro target rfl node entries hform hentries
  have hperson : acquainted.normalForm (.text "Person") = .ok (.map acquainted.person) := rfl
  rw [hperson] at hform
  cases hform
  cases hentries
  have hkey : acquainted.extensionKey = "_mongoose" := rfl
  have hitems : Entries.value acquainted.person "items" = .null := rfl
  have herase : Entries.erase acquainted.person (.text "_mongoose") = acquainted.person := rfl
  have hembedded : Form.ofEntries "_mongoose" acquainted.person = .embedded := rfl
  rw [hkey, hitems, herase]
  refine ⟨hnode, ?_, ?_⟩
  · simp only [Shape.ofProperty, Shape.Plain]
  · rw [Shape.ofProperty_map, Shape.plain_withDefaultOf, hembedded]
    exact hnode

private theorem compileSet_person :
    (acquainted.compileSet (.text "Person") (.map acquainted.person)).outcome {} =
      .ok (.embedded
        [(.text "name", .map [(.text "type", .type .text)]),
          (.text "friend", .map [(.text "type", .type .identifier), (.text "ref", .text "Person"),
            (.text "required", .bool true)])]) := by
  have hkey : acquainted.extensionKey = "_mongoose" := rfl
  rw [(compileSet_yields [] _ _ {} rfl (remembers_start [])).1, compileSetWith_map rfl, hkey,
    ofNode_person]
  rfl

/-- Of the four properties the two that are neither reserved nor compositions are fields, and the
rule requires the one that is listed. -/
theorem person_fields :
    ∃ fields rules,
      (acquainted.compileSet (.text "Person") (.map acquainted.person)).outcome {} =
        .ok (.embedded fields) ∧
      Entries.keys fields = [.text "name", .text "friend"] ∧
      (CollectionRule.ofFields fields).toValue =
        .map [(.text "bsonType", .text "object"), (.text "properties", .map rules),
          (.text "required", .list [.text "friend"])] ∧
      Entries.keys rules = [.text "name", .text "friend"] := by
  have hproperties : Entries.value acquainted.person "properties" =
      .map acquainted.properties := rfl
  obtain ⟨fields, hfields, hkeys, rules, hrule, hrules⟩ :=
    fields_of_compileSet (remembers_start []) hproperties rfl unextendedFrom_person
      compileSet_person
  have hnames : acquainted.compiledNames acquainted.properties = [.text "name", .text "friend"] :=
    rfl
  rw [hnames] at hkeys
  rw [hkeys] at hrule hrules
  exact ⟨fields, rules, hfields ▸ compileSet_person, hkeys, hrule, hrules⟩

end Acquainted

end Context

namespace Composition

open Gathered (addRequired)

/-- A node that a fragment of a definition stands for. -/
def HasPart (lookup : Scalar → Except Fault Data) (own part : Entries Data) : Prop :=
  ∃ fragment ∈ listedFragments own, StandsFor lookup fragment part

variable {lookup : Scalar → Except Fault Data} {own node part other : Entries Data}
  {parts : List (Entries Data)}

theorem StandsFor.unique {fragment : Data} (h : StandsFor lookup fragment part)
    (h' : StandsFor lookup fragment other) : part = other := by
  cases h with
  | itself hplain =>
    cases h' with
    | itself _ => rfl
    | named hreference _ _ =>
      rw [hplain] at hreference
      cases hreference
  | named hreference htarget hnode =>
    cases h' with
    | itself hplain =>
      rw [hplain] at hreference
      cases hreference
    | named _ htarget' hnode' =>
      rw [htarget] at htarget'
      cases htarget'
      rw [hnode] at hnode'
      cases hnode'
      rfl

theorem mem_iff_of_standsFor {fragments : List Data}
    (h : List.Forall₂ (StandsFor lookup) fragments parts) :
    part ∈ parts ↔ ∃ fragment ∈ fragments, StandsFor lookup fragment part := by
  induction h with
  | nil => simp
  | @cons fragment first fragments parts hstands _ ih =>
    rw [List.mem_cons, ih]
    constructor
    · rintro (rfl | ⟨found, hmem, hfound⟩)
      · exact ⟨fragment, List.mem_cons_self, hstands⟩
      · exact ⟨found, List.mem_cons_of_mem _ hmem, hfound⟩
    · rintro ⟨found, hmem, hfound⟩
      rcases List.mem_cons.mp hmem with rfl | hmem
      · exact Or.inl (hfound.unique hstands)
      · exact Or.inr ⟨found, hmem, hfound⟩

private theorem any_foldl_addRequired (names start : List Scalar) (field : Scalar) :
    (names.foldl addRequired start).any (·.same field) =
      (start.any (·.same field) || names.any (·.same field)) := by
  induction names generalizing start with
  | nil => simp
  | cons name rest ih =>
    rw [List.foldl_cons, ih, addRequired, List.any_cons, ← Bool.or_assoc]
    congr 1
    split
    · next hseen =>
      -- A name that is there already is found there if it is the one looked for.
      obtain ⟨found, hmem, hfound⟩ := List.any_eq_true.mp hseen
      cases hname : name.same field with
      | false => rw [Bool.or_false]
      | true =>
        rw [Bool.or_true]
        exact List.any_eq_true.mpr ⟨found, hmem, Scalar.same_trans hfound hname⟩
    · rw [List.any_append, List.any_cons, List.any_nil, Bool.or_false]

/-- A merged node requires what its parts list, or else what its own declaration requires. -/
theorem IsMerged.requires_iff (h : IsMerged own parts node) (field : Scalar) :
    (Entries.value node "required").requires field = true ↔
      (∃ part ∈ parts, ∃ name ∈ listedNames part, name.same field = true) ∨
        (∀ part ∈ parts, listedNames part = []) ∧
          (Entries.value own "required").requires field = true := by
  by_cases hnone : parts.flatMap listedNames = []
  · have hvalue : Entries.value node "required" = Entries.value own "required" := by
      rw [Entries.value, h.required_own hnone]
      rfl
    have hparts : ∀ part ∈ parts, listedNames part = [] := List.flatMap_eq_nil_iff.mp hnone
    rw [hvalue]
    constructor
    · exact fun hown => Or.inr ⟨hparts, hown⟩
    · rintro (⟨part, hpart, name, hname, -⟩ | ⟨-, hown⟩)
      · rw [hparts part hpart] at hname
        cases hname
      · exact hown
  · have hvalue : Entries.value node "required" =
        .list (((parts.flatMap listedNames).eraseDupsBy Scalar.same).map .scalar) := by
      rw [Entries.value, h.required hnone]
      rfl
    have hlisted : (Entries.value node "required").requires field =
        (parts.flatMap listedNames).any (·.same field) := by
      rw [hvalue, ← Gathered.foldl_addRequired_nil, Data.requires, List.any_map]
      exact any_foldl_addRequired _ [] field
    rw [hlisted, List.any_eq_true]
    constructor
    · rintro ⟨name, hmem, hname⟩
      obtain ⟨part, hpart, hmem⟩ := List.mem_flatMap.mp hmem
      exact Or.inl ⟨part, hpart, name, hmem, hname⟩
    · rintro (⟨part, hpart, name, hmem, hname⟩ | ⟨hparts, -⟩)
      · exact ⟨name, List.mem_flatMap.mpr ⟨part, hpart, hmem⟩, hname⟩
      · exact absurd (List.flatMap_eq_nil_iff.mpr hparts) hnone

end Composition

namespace Context

open StoreSchema.Composition

variable {ctx : Context}

theorem isRequired_of_compileDefinition {name : Scalar} {node : Entries Data}
    (hnode : ctx.normalForm name = .ok (.map node)) (hblocks : ctx.UnextendedFrom node)
    (hadded : ctx.extensions.additionalFor name = []) {p : Progress} (hmem : ctx.Remembers p)
    {c : Compiled} (h : (ctx.compileDefinition name).outcome p = .ok (some c))
    {fields : Entries Value} (hfields : c.properties = .embedded fields) :
    ∀ e ∈ fields, CollectionRule.isRequired e.2 = (Entries.value node "required").requires e.1 := by
  obtain ⟨reached, hplain, hreached⟩ := hblocks
  rw [(compileDefinition_yields p.resolving name p rfl hmem).1] at h
  obtain ⟨rfl, v, added, hassembles⟩ := exists_of_definitionMeaning h
  have hadditional := hassembles.additional
  rw [hadded] at hadditional
  cases hadditional
  have hset := hassembles.own
  rw [fieldsMeaning_map hnode] at hset
  have hv : v = .embedded fields := by
    have hlaid := hassembles.properties
    rw [hfields] at hlaid
    cases v with
    | embedded own =>
      injection hlaid with hlaid
      exact congrArg Value.embedded hlaid.symm
    | _ => cases hlaid
  subst hv
  rcases Shape.ofNode_cases ctx.extensionKey node with
    ⟨members, hshape⟩ | ⟨type, hshape⟩ | hshape | hshape
  · rw [hshape] at hset hplain
    obtain ⟨compiled, hcompiled, hset⟩ := exists_of_bind_eq_ok hset
    cases hset
    have hresolve : ctx.ResolvesTo True reached (ctx.meaning (p.resolving ++ [c.name])) :=
      resolvesTo_meaning hreached (fun _ _ _ => trivial) _
    have hall := (isCompiled_compileMembers hresolve _ members hplain hcompiled).1
    exact fun e he => (hall e he).required
  · rw [hshape] at hset
    obtain ⟨type, -, hset⟩ := exists_of_bind_eq_ok hset
    cases hset
  · rw [hshape] at hset
    cases hset
  · rw [hshape] at hset
    cases hset

/-- Over well-formed compositions without cycles and without extension blocks: a field of a
definition is required exactly if one of the nodes that the fragments stand for lists it, or if none
of them lists any field and the definition itself requires it. -/
theorem isRequired_iff_of_composed (hwell : ctx.WellComposed) (hacyclic : ctx.AcyclicComposition)
    {name : Scalar} {own node : Entries Data} (hraw : ctx.rawDefinition name = .ok (.map own))
    (hnode : ctx.normalForm name = .ok (.map node)) (hblocks : ctx.UnextendedFrom node)
    (hadded : ctx.extensions.additionalFor name = []) {p : Progress} (hmem : ctx.Remembers p)
    {c : Compiled} (h : (ctx.compileDefinition name).outcome p = .ok (some c))
    {fields : Entries Value} (hfields : c.properties = .embedded fields) :
    ∀ e ∈ fields, CollectionRule.isRequired e.2 = true ↔
      (∃ part, HasPart ctx.normalForm own part ∧
          ∃ listed ∈ listedNames part, listed.same e.1 = true) ∨
        (∀ part, HasPart ctx.normalForm own part → listedNames part = []) ∧
          (Entries.value own "required").requires e.1 = true := by
  obtain ⟨own', node', parts, hown, hmerges⟩ := hwell.merges hacyclic name _ hraw
  cases hown
  have hnode' := hmerges.normal
  rw [hnode] at hnode'
  cases hnode'
  have hparts : ∀ part, part ∈ parts ↔ HasPart ctx.normalForm own part :=
    fun part => mem_iff_of_standsFor hmerges.stands
  intro e he
  rw [isRequired_of_compileDefinition hnode hblocks hadded hmem h hfields e he,
    hmerges.merged.requires_iff]
  simp only [hparts]

section Blanket

/-- A definition that requires all of its properties, one composed of it, and one composed of it and
of a fragment that lists a name. -/
def blanket : Context where
  definitions := [(.text "Base", .map base), (.text "Top", .map top), (.text "Side", .map side)]
where
  properties : Entries Data := [(.text "id", .map [(.text "type", .text "string")])]
  base : Entries Data := [(.text "properties", .map properties), (.text "required", .bool true)]
  pointer : Data := .map [(.text "$ref", .text "#/definitions/Base")]
  top : Entries Data := [(.text "allOf", .list [pointer])]
  /-- What the second definition is given as. -/
  merged : Entries Data := [(.text "properties", .map properties)]
  listing : Entries Data :=
    [(.text "properties", .map [(.text "name", .map [(.text "type", .text "string")])]),
      (.text "required", .list [.text "name"])]
  side : Entries Data := [(.text "allOf", .list [.map listing, pointer])]
  /-- What the third definition is given as. -/
  sideMerged : Entries Data :=
    [(.text "properties",
        .map ((.text "name", .map [(.text "type", .text "string")]) :: properties)),
      (.text "required", .list [.text "name"])]

private theorem source_pointer : source blanket.pointer = .ok (.named "Base") := rfl

private theorem wellComposed_blanket : blanket.WellComposed := by
  intro e he
  rcases List.mem_cons.mp he with rfl | he
  · exact ⟨blanket.base, rfl,
      { properties := Or.inr ⟨_, rfl⟩, required := Or.inr (Or.inl ⟨true, rfl⟩) }, Or.inl rfl⟩
  have hpointer : blanket.IsFragment blanket.pointer :=
    .named rfl (show Pointer.target (.text "#/definitions/Base") = .ok "Base" from rfl) rfl
  rcases List.mem_cons.mp he with rfl | he
  · refine ⟨blanket.top, rfl, { properties := Or.inl rfl, required := Or.inl rfl },
      Or.inr ⟨_, rfl, fun fragment hfragment => ?_⟩⟩
    rw [List.mem_singleton.mp hfragment]
    exact hpointer
  · rw [List.mem_singleton.mp he]
    refine ⟨blanket.side, rfl, { properties := Or.inl rfl, required := Or.inl rfl },
      Or.inr ⟨_, rfl, fun fragment hfragment => ?_⟩⟩
    rcases List.mem_cons.mp hfragment with rfl | hfragment
    · exact .itself rfl
        { properties := Or.inr ⟨_, rfl⟩, required := Or.inr (Or.inr ⟨["name"], rfl⟩) }
    · rw [List.mem_singleton.mp hfragment]
      exact hpointer

private theorem source_listing :
    source (.map blanket.listing) = .ok (.inline (.map blanket.listing)) := rfl

private theorem acyclic_blanket : blanket.AcyclicComposition := by
  refine acyclicComposition_of_rank (fun name => if name = .text "Base" then 0 else 1) ?_
  rintro name other ⟨entries, fragments, fragment, target, hraw, hlist, hmem, hsource, rfl⟩
  obtain ⟨key, hkey, hsame⟩ := exists_key_of_rawDefinition hraw
  rcases List.mem_cons.mp hkey with h | hkey
  · cases h
    cases hlist
  rcases List.mem_cons.mp hkey with h | hkey
  · cases h
    cases hlist
    rw [List.mem_singleton.mp hmem, source_pointer] at hsource
    rw [Scalar.same_text.mp (Scalar.same_symm hsame)]
    cases hsource
    decide
  · cases List.mem_singleton.mp hkey
    cases hlist
    rw [Scalar.same_text.mp (Scalar.same_symm hsame)]
    rcases List.mem_cons.mp hmem with rfl | hmem
    · rw [source_listing] at hsource
      cases hsource
    · rw [List.mem_singleton.mp hmem, source_pointer] at hsource
      cases hsource
      decide

private theorem ofNode_merged :
    Shape.ofNode blanket.extensionKey blanket.merged =
      .fields .null [(.text "id", .typed (.ok (.scalar .text)) none)] := by
  have hkey : blanket.extensionKey = "_mongoose" := rfl
  rw [hkey]
  exact Shape.ofNode_of_property rfl (Shape.ofProperty_string (by decide))

private theorem normalForm_top :
    blanket.normalForm (.text "Top") = .ok (.map blanket.merged) := rfl

private theorem compileDefinition_top :
    (blanket.compileDefinition (.text "Top")).outcome {} = .ok (some
      { name := .text "Top"
        properties := .embedded [(.text "id", .map [(.text "type", .type .text)])]
        options := []
        index := none }) := by
  rw [(compileDefinition_yields [] (.text "Top") {} rfl (remembers_start [])).1, definitionMeaning,
    fieldsMeaning_map normalForm_top, ofNode_merged]
  rfl

private theorem ofNode_sideMerged :
    Shape.ofNode blanket.extensionKey blanket.sideMerged =
      .fields (.list [.text "name"]) [(.text "name", .typed (.ok (.scalar .text)) none),
        (.text "id", .typed (.ok (.scalar .text)) none)] := by
  have hkey : blanket.extensionKey = "_mongoose" := rfl
  have htext : Shape.ofProperty "_mongoose" (.map [(.text "type", .text "string")]) =
      .typed (.ok (.scalar .text)) none := Shape.ofProperty_string (by decide)
  rw [hkey, @Shape.ofNode_of_properties _ blanket.sideMerged _ rfl, Shape.members_all]
  simp only [blanket.properties, List.map_cons, List.map_nil, htext]
  rfl

private theorem normalForm_side :
    blanket.normalForm (.text "Side") = .ok (.map blanket.sideMerged) := rfl

private theorem compileDefinition_side :
    (blanket.compileDefinition (.text "Side")).outcome {} = .ok (some
      { name := .text "Side"
        properties := .embedded
          [(.text "name", .map [(.text "type", .type .text), (.text "required", .bool true)]),
            (.text "id", .map [(.text "type", .type .text)])]
        options := []
        index := none }) := by
  rw [(compileDefinition_yields [] (.text "Side") {} rfl (remembers_start [])).1, definitionMeaning,
    fieldsMeaning_map normalForm_side, ofNode_sideMerged]
  rfl

private theorem hasPart_base : HasPart blanket.normalForm blanket.top blanket.base := by
  refine ⟨blanket.pointer, List.mem_singleton_self _, ?_⟩
  exact .named rfl (show Pointer.target (.text "#/definitions/Base") = .ok "Base" from rfl) rfl

/-- The first definition requires its field by a flag, and the second has that field without it
being required. -/
theorem flag_is_lost :
    HasPart blanket.normalForm blanket.top blanket.base ∧
      (Entries.value blanket.base "required").requires (.text "id") = true ∧
      ∃ c v, (blanket.compileDefinition (.text "Top")).outcome {} = .ok (some c) ∧
        c.properties = .embedded [(.text "id", v)] ∧ CollectionRule.isRequired v = false :=
  ⟨hasPart_base, rfl, _, _, compileDefinition_top, rfl, rfl⟩

/-- The one field of the second definition is not required, for the first lists none and the second
says nothing. Of the third one the field that a fragment lists is required, and the other is not. -/
theorem top_required :
    (∃ c fields, (blanket.compileDefinition (.text "Top")).outcome {} = .ok (some c) ∧
      c.properties = .embedded fields ∧ Entries.keys fields = [.text "id"] ∧
      ∀ e ∈ fields, CollectionRule.isRequired e.2 = true ↔
        (∃ part, HasPart blanket.normalForm blanket.top part ∧
            ∃ listed ∈ listedNames part, listed.same e.1 = true) ∨
          (∀ part, HasPart blanket.normalForm blanket.top part → listedNames part = []) ∧
            (Entries.value blanket.top "required").requires e.1 = true) ∧
    ∃ c fields, (blanket.compileDefinition (.text "Side")).outcome {} = .ok (some c) ∧
      c.properties = .embedded fields ∧
      fields.map (fun e => (e.1, CollectionRule.isRequired e.2)) =
        [(.text "name", true), (.text "id", false)] ∧
      ∀ e ∈ fields, CollectionRule.isRequired e.2 = true ↔
        (∃ part, HasPart blanket.normalForm blanket.side part ∧
            ∃ listed ∈ listedNames part, listed.same e.1 = true) ∨
          (∀ part, HasPart blanket.normalForm blanket.side part → listedNames part = []) ∧
            (Entries.value blanket.side "required").requires e.1 = true := by
  have htop : blanket.UnextendedFrom blanket.merged := by
    refine ⟨fun _ => False, ?_, fun target htarget => htarget.elim⟩
    rw [ofNode_merged]
    exact ⟨trivial, trivial⟩
  have hside : blanket.UnextendedFrom blanket.sideMerged := by
    refine ⟨fun _ => False, ?_, fun target htarget => htarget.elim⟩
    rw [ofNode_sideMerged]
    exact ⟨trivial, trivial, trivial⟩
  constructor
  · exact ⟨_, _, compileDefinition_top, rfl, rfl,
      isRequired_iff_of_composed wellComposed_blanket acyclic_blanket rfl normalForm_top htop rfl
        (remembers_start []) compileDefinition_top rfl⟩
  · exact ⟨_, _, compileDefinition_side, rfl, rfl,
      isRequired_iff_of_composed wellComposed_blanket acyclic_blanket rfl normalForm_side hside rfl
        (remembers_start []) compileDefinition_side rfl⟩

end Blanket

end Context

end StoreSchema
