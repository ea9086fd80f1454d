import StoreSchema.Proofs.Fields
import StoreSchema.Proofs.Heredity

set_option autoImplicit false

namespace StoreSchema

namespace Value

variable {good : Data → Prop} {v : Value}

/-- The values that are put together from data with a property, storage types and validators, by
arrays of one item and mappings. -/
inductive Assembled (good : Data → Prop) : Value → Prop
  | data {d : Data} (hgood : good d) : Assembled good (ofData d)
  | type (storage : StorageType) : Assembled good (.type storage)
  | validator (name : String) : Assembled good (.validator name)
  | array {item : Value} (hitem : Assembled good item) : Assembled good (.list [item])
  | map {entries : List (Scalar × Value)} (hkeys : ∀ e ∈ entries, good (.scalar e.1))
      (hentries : ∀ e ∈ entries, Assembled good e.2) : Assembled good (.map entries)
  | embedded {fields : List (Scalar × Value)} (hkeys : ∀ e ∈ fields, good (.scalar e.1))
      (hfields : ∀ e ∈ fields, Assembled good e.2) : Assembled good (.embedded fields)

def AreAssembled (good : Data → Prop) (entries : Entries Value) : Prop :=
  ∀ e ∈ entries, good (.scalar e.1) ∧ e.2.Assembled good

theorem AreAssembled.map {entries : Entries Value} (h : AreAssembled good entries) :
    (Value.map entries).Assembled good :=
  .map (fun e he => (h e he).1) fun e he => (h e he).2

theorem AreAssembled.embedded {fields : Entries Value} (h : AreAssembled good fields) :
    (Value.embedded fields).Assembled good :=
  .embedded (fun e he => (h e he).1) fun e he => (h e he).2

theorem areAssembled_ofEntries (h : Data.Hereditary good) {entries : Entries Data}
    (hentries : good (.map entries)) : AreAssembled good (ofEntries entries) := by
  induction entries with
  | nil => exact fun e he => by cases he
  | cons e rest ih =>
    obtain ⟨hfirst, hrest⟩ := List.forall_mem_cons.mp (h.map.mp hentries)
    exact List.forall_mem_cons.mpr ⟨⟨hfirst.1, .data hfirst.2⟩, ih (h.map.mpr hrest)⟩

theorem assembled_map_iff (h : Data.Hereditary good) {entries : Entries Value} :
    (Value.map entries).Assembled good ↔ AreAssembled good entries := by
  constructor
  · intro hentries
    generalize hv : Value.map entries = v at hentries
    cases hentries with
    | @data d hgood =>
      cases d with
      | map declared =>
        cases hv
        exact areAssembled_ofEntries h hgood
      | _ => cases hv
    | map hkeys hentries =>
      cases hv
      exact fun e he => ⟨hkeys e he, hentries e he⟩
    | _ => cases hv
  · exact AreAssembled.map

theorem areAssembled_of_embedded {fields : Entries Value}
    (hfields : (Value.embedded fields).Assembled good) : AreAssembled good fields := by
  generalize hv : Value.embedded fields = v at hfields
  cases hfields with
  | @data d hgood => cases d <;> cases hv
  | embedded hkeys hentries =>
    cases hv
    exact fun e he => ⟨hkeys e he, hentries e he⟩
  | _ => cases hv

theorem AreAssembled.put {entries : Entries Value} (hentries : AreAssembled good entries)
    {key : Scalar} (hkey : good (.scalar key)) (hv : v.Assembled good) :
    AreAssembled good (Entries.put entries key v) := by
  induction entries with
  | nil => exact List.forall_mem_cons.mpr ⟨⟨hkey, hv⟩, fun e he => by cases he⟩
  | cons entry rest ih =>
    obtain ⟨k, w⟩ := entry
    obtain ⟨hfirst, hrest⟩ := List.forall_mem_cons.mp hentries
    rw [Entries.put]
    split
    · exact List.forall_mem_cons.mpr ⟨⟨hfirst.1, hv⟩, hrest⟩
    · exact List.forall_mem_cons.mpr ⟨hfirst, ih hrest⟩

theorem AreAssembled.overlay {entries upper : Entries Value} (hentries : AreAssembled good entries)
    (hupper : AreAssembled good upper) : AreAssembled good (Entries.overlay entries upper) := by
  induction upper generalizing entries with
  | nil => exact hentries
  | cons entry rest ih =>
    obtain ⟨hfirst, hrest⟩ := List.forall_mem_cons.mp hupper
    exact ih (hentries.put hfirst.1 hfirst.2) hrest

theorem AreAssembled.erase {entries : Entries Value} (hentries : AreAssembled good entries)
    (key : Scalar) : AreAssembled good (Entries.erase entries key) :=
  fun e he => hentries e (List.mem_filter.mp he).1

theorem assembled_toValue (type : FieldType) : type.toValue.Assembled good := by
  induction type with
  | scalar storage => exact .type storage
  | listOf item ih => exact .array ih

theorem Assembled.manyOf (hv : v.Assembled good) (many : Bool) :
    (v.manyOf many).Assembled good := by
  cases many with
  | true => exact .array hv
  | false => exact hv

theorem Assembled.withFacet (h : Data.Hereditary good) (hv : v.Assembled good) {name : String}
    {facet : Value} (hfacet : facet.Assembled good) :
    (v.withFacets [(.text name, facet)]).Assembled good := by
  have hfacets : AreAssembled good [(.text name, facet)] :=
    List.forall_mem_cons.mpr ⟨⟨h.text name, hfacet⟩, fun e he => by cases he⟩
  have hwrapped : (Value.map (Entries.overlay [(.text "type", v)] [(.text name, facet)])).Assembled
      good := by
    have htype : AreAssembled good [(.text "type", v)] :=
      List.forall_mem_cons.mpr ⟨⟨h.text _, hv⟩, fun e he => by cases he⟩
    exact (htype.overlay hfacets).map
  unfold withFacets
  split
  · next entries =>
    split
    · exact (((assembled_map_iff h).mp hv).overlay hfacets).map
    · exact hwrapped
  · exact hwrapped

theorem Assembled.withRequired (h : Data.Hereditary good) (hv : v.Assembled good) (flag : Bool) :
    (v.withRequired flag).Assembled good :=
  hv.withFacet h (.data (h.bool flag))

theorem Assembled.fillRequired (h : Data.Hereditary good) (hv : v.Assembled good) (field : Scalar)
    (required : Data) : (v.fillRequired field required).Assembled good := by
  rcases fillRequired_cases field required with ⟨-, hfill⟩ | hfill
  · rw [hfill]
    exact hv
  · rw [hfill]
    exact hv.withRequired h _

theorem assembled_referenceTo (h : Data.Hereditary good) (target : String) (includeRef : Bool) :
    (Value.referenceTo target includeRef).Assembled good := by
  have htype : good (.text "type") ∧ (Value.type .identifier).Assembled good :=
    ⟨h.text _, .type _⟩
  have href : AreAssembled good (if includeRef then [(.text "ref", .text target)] else []) := by
    intro e he
    cases includeRef with
    | true =>
      rw [List.mem_singleton.mp he]
      exact ⟨h.text _, .data (h.text target)⟩
    | false => cases he
  exact AreAssembled.map (List.forall_mem_cons.mpr ⟨htype, href⟩)

theorem assembled_typedDescriptor (h : Data.Hereditary good) (type : FieldType)
    {choices : Option (List Data)}
    (hchoices : ∀ values, choices = some values → ∀ d ∈ values, good d) :
    (Context.typedDescriptor type choices).Assembled good := by
  have htype : good (.text "type") ∧ type.toValue.Assembled good :=
    ⟨h.text _, assembled_toValue type⟩
  cases choices with
  | none => exact AreAssembled.map (List.forall_mem_cons.mpr ⟨htype, fun e he => by cases he⟩)
  | some values =>
    have hlisted : (ofData (.list values)).Assembled good :=
      .data (h.list.mpr (hchoices values rfl))
    have henum : AreAssembled good [(.text "enum", .list (ofItems values))] := by
      intro e he
      rw [List.mem_singleton.mp he]
      exact ⟨h.text _, hlisted⟩
    exact AreAssembled.map (List.forall_mem_cons.mpr ⟨htype, henum⟩)

end Value

namespace Context

variable {ctx : Context} {good : Data → Prop} {v : Value}

private theorem areAssembled_mapSimple (h : Data.Hereditary good) {described : Entries Data}
    {entries mapped : Entries Value} (hentries : Value.AreAssembled good entries)
    (hmapped : mapSimple described entries = .ok mapped) : Value.AreAssembled good mapped := by
  unfold mapSimple at hmapped
  split at hmapped
  · obtain ⟨type, -, hmapped⟩ := exists_of_bind_eq_ok hmapped
    cases hmapped
    have hput := hentries.put (h.text "type") (Value.assembled_toValue type)
    exact (hput.erase _).erase _
  · cases hmapped
    exact hentries

theorem assembled_override (h : Data.Hereditary good) {extension base : Data} {many : Bool}
    (hextension : good extension) (hbase : good base)
    (hv : ctx.override extension base many = .ok v) : v.Assembled good := by
  unfold override at hv
  obtain ⟨own, hown, hv⟩ := exists_of_bind_eq_ok hv
  obtain ⟨block, hblock, hv⟩ := exists_of_bind_eq_ok hv
  have hown := h.members hbase (eq_ok_of_orMisuse hown)
  have hblock := h.members hextension (eq_ok_of_orMisuse hblock)
  have hstripped := h.erase hown (.text ctx.extensionKey)
  split at hv
  · obtain ⟨target, -, hv⟩ := exists_of_bind_eq_ok hv
    obtain ⟨name, -, hv⟩ := exists_of_bind_eq_ok hv
    cases hv
    exact (Value.assembled_referenceTo h target _).manyOf many
  · dsimp only at hv
    split at hv
    · obtain ⟨function, -, hv⟩ := exists_of_bind_eq_ok hv
      obtain ⟨mapped, hmapped, hv⟩ := exists_of_bind_eq_ok hv
      cases hv
      have hput := (Value.areAssembled_ofEntries h hstripped).put (h.text "validate")
        (.validator function)
      exact (areAssembled_mapSimple h hput hmapped).map.manyOf many
    · obtain ⟨mapped, hmapped, hv⟩ := exists_of_bind_eq_ok hv
      cases hv
      have hmerged := Value.areAssembled_ofEntries h (h.overlay hstripped hblock)
      exact (areAssembled_mapSimple h hmerged hmapped).map.manyOf many

def ResolvesAssembled (good : Data → Prop) (resolve : Resolve (Except Fault)) : Prop :=
  ∀ owner field target many v, resolve owner field target many = .ok (some v) → v.Assembled good

section Shapes

variable {resolve : Resolve (Except Fault)}

mutual
theorem assembled_compileShape (h : Data.Hereditary good)
    (hresolve : ResolvesAssembled good resolve) (owner field : Scalar) (required : Data)
    (shape : Shape) (hshape : shape.Holds good) {v : Value}
    (hv : ctx.compileShape resolve owner field required shape = .ok (some v)) :
    v.Assembled good := by
  match shape, compiledAs_of_compileShape hv with
  | _, .override hfound =>
    exact (assembled_override h hshape.1 hshape.2 hfound).fillRequired h field required
  | _, .reference hfound =>
    exact (hresolve owner field _ _ _ hfound).fillRequired h field required
  | _, .typed _ => exact (Value.assembled_typedDescriptor h _ hshape).fillRequired h field required
  | .fields inner members, .fields hfields =>
    have hall := areAssembled_compileMembers h hresolve field inner members hshape hfields
    exact hall.embedded.fillRequired h field required
  | .withDefault shape default, .withDefault hfound =>
    have hw := assembled_compileShape h hresolve owner field required shape hshape.1 hfound
    exact hw.withFacet h (.data hshape.2)

theorem areAssembled_compileMembers (h : Data.Hereditary good)
    (hresolve : ResolvesAssembled good resolve) (owner : Scalar) (required : Data)
    (members : List (Scalar × Shape)) (hmembers : Shape.HoldsMembers good members)
    {fields : Entries Value}
    (hfields : ctx.compileMembers resolve owner required members = .ok fields) :
    Value.AreAssembled good fields := by
  match members with
  | [] =>
    simp only [compileMembers] at hfields
    cases hfields
    exact fun e he => by cases he
  | (name, shape) :: rest =>
    obtain ⟨hname, hshape, hmore⟩ := hmembers
    obtain ⟨more, hcompiled, hcases⟩ := compileMembers_cons_cases hfields
    have hrest := areAssembled_compileMembers h hresolve owner required rest hmore hcompiled
    obtain ⟨-, rfl⟩ | ⟨-, -, rfl⟩ | ⟨v, -, hv, rfl⟩ := hcases
    · exact hrest
    · exact hrest
    · have hassembled := assembled_compileShape h hresolve owner name required shape hshape hv
      exact List.forall_mem_cons.mpr ⟨⟨hname, hassembled⟩, hrest⟩
end

variable (h : Data.Hereditary good) (hresolve : ResolvesAssembled good resolve)

include h hresolve

theorem assembled_compilePropertyWith {property : Data} {field : Scalar} {required : Data}
    {owner : Scalar} (hproperty : good property)
    (hv : ctx.compilePropertyWith resolve property field required owner = .ok (some v)) :
    v.Assembled good := by
  unfold compilePropertyWith at hv
  split at hv
  · cases hv
  · exact assembled_compileShape h hresolve owner field required _
      (Shape.holds_ofProperty h ctx.extensionKey property hproperty) hv

theorem assembled_compileNode {owner : Scalar} {shape : Shape} (hshape : shape.Holds good)
    (hv : ctx.compileNode resolve owner shape = .ok v) : v.Assembled good := by
  cases shape with
  | fields required members =>
    obtain ⟨fields, hfields, hv⟩ := exists_of_bind_eq_ok hv
    cases hv
    exact (areAssembled_compileMembers h hresolve owner required members hshape hfields).embedded
  | typed type choices =>
    obtain ⟨type, -, hv⟩ := exists_of_bind_eq_ok hv
    cases hv
    exact Value.assembled_typedDescriptor h type fun values hvalues => by cases hvalues
  | _ => cases hv

theorem areAssembled_compileAdditional {name : Scalar} {properties : Entries Data}
    (hproperties : good (.map properties)) {fields : Entries Value}
    (hfields : ctx.compileAdditional resolve name properties = .ok fields) :
    Value.AreAssembled good fields := by
  induction properties generalizing fields with
  | nil =>
    cases hfields
    exact fun e he => by cases he
  | cons e rest ih =>
    obtain ⟨field, property⟩ := e
    obtain ⟨hfirst, hrest⟩ := List.forall_mem_cons.mp (h.map.mp hproperties)
    obtain ⟨entries, -, hfields⟩ := exists_of_bind_eq_ok hfields
    obtain ⟨found, hfound, hfields⟩ := exists_of_bind_eq_ok hfields
    obtain ⟨more, hmore, hfields⟩ := exists_of_bind_eq_ok hfields
    have hadded := ih (h.map.mpr hrest) hmore
    cases found with
    | none =>
      cases hfields
      exact hadded
    | some w =>
      cases hfields
      have hwrapped : good (.map [(.text ctx.extensionKey, property)]) :=
        h.map.mpr (List.forall_mem_cons.mpr ⟨⟨h.text _, hfirst.2⟩, fun e he => by cases he⟩)
      have hw := assembled_compilePropertyWith h hresolve hwrapped hfound
      exact List.forall_mem_cons.mpr ⟨⟨hfirst.1, hw⟩, hadded⟩

end Shapes

theorem assembled_addFields (h : Data.Hereditary good) (hv : v.Assembled good)
    {fields : Entries Value} (hfields : Value.AreAssembled good fields) :
    (addFields v fields).Assembled good := by
  cases v with
  | map entries => exact (((Value.assembled_map_iff h).mp hv).overlay hfields).map
  | embedded entries => exact ((Value.areAssembled_of_embedded hv).overlay hfields).embedded
  | _ => exact hv

private theorem assembled_getD {found : Option Value} (h : Data.Hereditary good)
    (hfound : ∀ w, found = some w → w.Assembled good) :
    (Value.list [found.getD (.scalar .null)]).Assembled good := by
  cases found with
  | none => exact .array (.data h.null)
  | some w => exact .array (hfound w rfl)

section Nodes

variable {resolve : Resolve (Except Fault)} (h : Data.Hereditary good) (hctx : ctx.Holds good)
  (hresolve : ResolvesAssembled good resolve)

include h hctx hresolve

theorem assembled_compileSetWith {owner : Scalar} {node : Data} (hnode : good node)
    (hv : ctx.compileSetWith ctx.normalForm resolve owner node = .ok v) : v.Assembled good := by
  obtain ⟨entries, hentries, hv⟩ := exists_of_bind_eq_ok hv
  have hgood : good (.map entries) := by
    split at hentries
    · exact holds_merge h (fun name node hfound => hctx.normalForm h hfound) hnode hentries
    · rw [ofExcept_eq] at hentries
      exact h.members hnode (eq_ok_of_orMisuse hentries)
  exact assembled_compileNode h hresolve (Shape.holds_ofNode h ctx.extensionKey entries hgood) hv

theorem assembled_compileTarget {name field : Scalar} {many : Bool} {node : Data}
    (hnode : good node)
    (hv : ctx.compileTarget ctx.normalForm resolve name field many node = .ok (some v)) :
    v.Assembled good := by
  obtain ⟨entries, hentries, hembedded⟩ := embeddedAs_of_compileTarget hv
  replace hentries := h.members hnode hentries
  cases hembedded with
  | items _ _ hfound hr =>
    cases hr
    have hitems : good (if (Entries.value entries "items").isTruthy then
        Entries.value entries "items" else .map []) := by
      split
      · exact h.value hentries "items"
      · exact h.nil
    refine assembled_getD h fun w hw => ?_
    rw [hw] at hfound
    exact assembled_compilePropertyWith h hresolve hitems hfound
  | fields _ _ hfields hr =>
    cases hr
    exact (assembled_compileSetWith h hctx hresolve hnode hfields).manyOf many
  | @property found _ hfound hr =>
    have hall : ∀ w, found = some w → w.Assembled good := by
      intro w hw
      rw [hw] at hfound
      exact assembled_compilePropertyWith h hresolve (h.erase hentries _) hfound
    split at hr
    · cases hr
      exact assembled_getD h hall
    · exact hall v hr.symm

end Nodes

section Definitions

variable (h : Data.Hereditary good) (hctx : ctx.Holds good)

include h

private theorem resolvesAssembled_resolution {embed : Embed (Except Fault)}
    (hembed : ∀ field target many v, embed field target many = .ok (some v) → v.Assembled good)
    (stack : List Scalar) : ResolvesAssembled good (ctx.resolution embed stack) := by
  intro owner field target many v hv
  unfold resolution at hv
  obtain ⟨name, -, hv⟩ := exists_of_bind_eq_ok hv
  split at hv
  · cases hv
    exact (Value.assembled_referenceTo h target true).manyOf many
  · exact hembed field target many v hv

include hctx

theorem assembled_embedAt (depth : Nat) : ∀ (stack : List Scalar) (field : Scalar)
    (target : String) (many : Bool) (v : Value),
    ctx.embedAt depth stack field target many = .ok (some v) → v.Assembled good := by
  induction depth with
  | zero =>
    intro stack field target many v hv
    cases hv
  | succ depth ih =>
    intro stack field target many v hv
    obtain ⟨node, hnode, hv⟩ := exists_of_bind_eq_ok hv
    exact assembled_compileTarget h hctx (resolvesAssembled_resolution h (ih _) _)
      (hctx.normalForm h hnode) hv

theorem resolvesAssembled_meaning (stack : List Scalar) :
    ResolvesAssembled good (ctx.meaning stack) :=
  resolvesAssembled_resolution h (assembled_embedAt h hctx _ stack) stack

theorem assembled_definitionMeaning {stack : List Scalar} {name : Scalar} {compiled : Compiled}
    (hcompiled : ctx.definitionMeaning stack name = .ok (some compiled)) :
    compiled.properties.Assembled good := by
  obtain ⟨-, fields, added, hassembles⟩ := exists_of_definitionMeaning hcompiled
  obtain ⟨node, hnode, hproperties⟩ := exists_of_bind_eq_ok hassembles.own
  have hown := assembled_compileSetWith h hctx (resolvesAssembled_meaning h hctx _)
    (hctx.normalForm h hnode) hproperties
  have hadded := areAssembled_compileAdditional h (resolvesAssembled_meaning h hctx stack)
    (hctx.additional _) hassembles.additional
  rw [hassembles.properties]
  exact assembled_addFields h hown hadded

/-- Whatever holds of the definitions of a context holds of all data in what it compiles to. -/
theorem assembled_compileAll {compiled : List Compiled}
    (hcompiled : ctx.compileAll = .ok compiled) : ∀ c ∈ compiled, c.properties.Assembled good := by
  intro c hc
  rw [compileAll_eq] at hcompiled
  obtain ⟨name, -, hname⟩ := exists_of_mem_compileEach hcompiled hc
  exact assembled_definitionMeaning h hctx hname

end Definitions

end Context

namespace Session

variable {session : Session} {source extra : Source} {compiled : List Compiled}

/-- What a document compiles to is put together from data, storage types and validators, by arrays
of one item and mappings. -/
theorem assembled_compileDefinitions
    (h : (session.compileDefinitions source extra).outcome = .ok compiled) :
    ∀ c ∈ compiled, c.properties.Assembled fun _ => True := by
  obtain ⟨ctx, -, hall⟩ := exists_contextOf h
  exact Context.assembled_compileAll Data.hereditary_true
    ⟨fun _ _ _ => trivial, fun _ => trivial⟩ hall

end Session

end StoreSchema
