import StoreSchema.Proofs.Fields
import StoreSchema.Proofs.Intake
import StoreSchema.Proofs.Meaning
import StoreSchema.Proofs.Shapes

/-!
Compiled definitions keep to the registry.

References come from extension blocks, from references that are cut off, and from nowhere else; the
fields of embedded maps come from properties and from additional properties. Main statement of this
module: in whatever a document compiles to, at any depth, no embedded map has a reserved field and
every identifier that names a definition names a registered one.
-/

set_option autoImplicit false

namespace StoreSchema

namespace Value

mutual
/-- Every plain mapping inside the value is of one kind and every embedded map of another, at any
depth. -/
def Throughout (plain embedded : Entries Value → Prop) : Value → Prop
  | .list items => ThroughoutItems plain embedded items
  | .map entries => plain entries ∧ ThroughoutEntries plain embedded entries
  | .embedded fields => embedded fields ∧ ThroughoutEntries plain embedded fields
  | _ => True

def ThroughoutItems (plain embedded : Entries Value → Prop) : List Value → Prop
  | [] => True
  | item :: rest => Throughout plain embedded item ∧ ThroughoutItems plain embedded rest

def ThroughoutEntries (plain embedded : Entries Value → Prop) : List (Scalar × Value) → Prop
  | [] => True
  | (_, v) :: rest => Throughout plain embedded v ∧ ThroughoutEntries plain embedded rest
end

theorem throughoutEntries_iff {plain embedded : Entries Value → Prop} {entries : Entries Value} :
    ThroughoutEntries plain embedded entries ↔ ∀ e ∈ entries, e.2.Throughout plain embedded := by
  induction entries with
  | nil => simp [ThroughoutEntries]
  | cons e rest ih =>
    obtain ⟨name, v⟩ := e
    simp [ThroughoutEntries, ih]

/-- An identifier that names a definition by its `ref` names a registered one. -/
def NamesRegistered (registered : String → Prop) (entries : Entries Value) : Prop :=
  Entries.get? entries (.text "type") = some (.type .identifier) →
    ∀ v, Entries.get? entries (.text "ref") = some v →
      ∃ target, v = .text target ∧ registered target

/-- At any depth, no embedded map of the value has a reserved field, and every identifier that names
a definition names a registered one. -/
def Respects (reserved : Scalar → Prop) (registered : String → Prop) : Value → Prop :=
  Throughout (NamesRegistered registered) fun fields =>
    NamesRegistered registered fields ∧ ∀ e ∈ fields, ¬ reserved e.1

section Sound

variable {reserved : Scalar → Prop} {registered : String → Prop} {v : Value}

theorem respects_map {entries : Entries Value} :
    (Value.map entries).Respects reserved registered ↔
      NamesRegistered registered entries ∧ ∀ e ∈ entries, e.2.Respects reserved registered := by
  rw [Respects, Throughout, throughoutEntries_iff]

theorem respects_embedded {fields : Entries Value} :
    (Value.embedded fields).Respects reserved registered ↔
      (NamesRegistered registered fields ∧ ∀ e ∈ fields, ¬ reserved e.1) ∧
        ∀ e ∈ fields, e.2.Respects reserved registered := by
  rw [Respects, Throughout, throughoutEntries_iff]

theorem namesRegistered_of_not_bare {entries : Entries Value}
    (h : ∀ v, Entries.get? entries (.text "type") = some v → v.isBare = false) :
    NamesRegistered registered entries := by
  intro htype
  have hbare := h _ htype
  cases hbare

theorem namesRegistered_of_no_ref {entries : Entries Value}
    (h : Entries.get? entries (.text "ref") = none) : NamesRegistered registered entries := by
  intro _ v hv
  rw [h] at hv
  cases hv

private theorem isBare_ofData (d : Data) : (ofData d).isBare = false := by
  cases d <;> simp only [ofData, isBare]

private theorem exists_of_get?_ofEntries {entries : Entries Data} {key : Scalar}
    (h : Entries.get? (ofEntries entries) key = some v) : ∃ d, v = ofData d := by
  induction entries with
  | nil => cases h
  | cons e rest ih =>
    obtain ⟨k, d⟩ := e
    rw [ofEntries, Entries.get?_cons] at h
    split at h
    · cases h
      exact ⟨d, rfl⟩
    · exact ih h

private theorem namesRegistered_ofEntries (entries : Entries Data) :
    NamesRegistered registered (ofEntries entries) := by
  refine namesRegistered_of_not_bare fun v hv => ?_
  obtain ⟨d, rfl⟩ := exists_of_get?_ofEntries hv
  exact isBare_ofData d

mutual
theorem respects_ofData (d : Data) : (ofData d).Respects reserved registered := by
  match d with
  | .list items =>
    rw [ofData, Respects, Throughout]
    exact throughoutItems_ofItems items
  | .map entries =>
    rw [ofData, respects_map]
    exact ⟨namesRegistered_ofEntries entries, respects_ofEntries entries⟩
  | .scalar _ | .pair _ _ _ | .set _ _ | .recurrence _ =>
    simp only [ofData, Respects, Throughout]

private theorem throughoutItems_ofItems (items : List Data) :
    ThroughoutItems (NamesRegistered registered) (fun fields =>
      NamesRegistered registered fields ∧ ∀ e ∈ fields, ¬ reserved e.1) (ofItems items) := by
  match items with
  | [] => trivial
  | item :: rest => exact ⟨respects_ofData item, throughoutItems_ofItems rest⟩

theorem respects_ofEntries (entries : List (Scalar × Data)) :
    ∀ e ∈ ofEntries entries, e.2.Respects reserved registered := by
  match entries with
  | [] => exact fun e he => by cases he
  | (_, d) :: rest =>
    exact List.forall_mem_cons.mpr ⟨respects_ofData d, respects_ofEntries rest⟩
end

theorem respects_toValue (type : FieldType) : type.toValue.Respects reserved registered := by
  induction type with
  | scalar storage => trivial
  | listOf item ih => exact ⟨ih, trivial⟩

/-- What stands as the value of a field: it keeps to the registry and is no bare storage type. -/
structure IsSound (reserved : Scalar → Prop) (registered : String → Prop) (v : Value) : Prop where
  respects : v.Respects reserved registered
  bare : v.isBare = false

def IsFacetName (name : String) : Prop := name ≠ "type" ∧ name ≠ "ref"

private theorem get?_put_facet {name word : String} (hname : name ≠ word) (entries : Entries Value)
    (facet : Value) : Entries.get? (Entries.put entries (.text name) facet) (.text word) =
      Entries.get? entries (.text word) := by
  apply Entries.get?_put_other
  rw [Bool.eq_false_iff, Ne, Scalar.same_text]
  intro h
  injection h with h
  exact hname h

private theorem respects_put {entries : Entries Value} {name : String} {facet : Value}
    (hname : IsFacetName name) (h : (Value.map entries).Respects reserved registered)
    (hfacet : facet.Respects reserved registered) :
    (Value.map (Entries.put entries (.text name) facet)).Respects reserved registered := by
  obtain ⟨hnames, hentries⟩ := respects_map.mp h
  refine respects_map.mpr ⟨?_, ?_⟩
  · unfold NamesRegistered
    rw [get?_put_facet hname.1, get?_put_facet hname.2]
    exact hnames
  · exact Entries.forall_put (fun _ (v : Value) => v.Respects reserved registered)
      (fun _ h => h) hentries hfacet

theorem IsSound.put {entries : Entries Value} (h : (Value.map entries).IsSound reserved registered)
    {name : String} {facet : Value} (hname : IsFacetName name)
    (hfacet : facet.Respects reserved registered) :
    (Value.map (Entries.put entries (.text name) facet)).IsSound reserved registered :=
  ⟨respects_put hname h.respects hfacet, rfl⟩

theorem IsSound.withFacet (h : v.IsSound reserved registered) {name : String} {facet : Value}
    (hname : IsFacetName name) (hfacet : facet.Respects reserved registered) :
    (v.withFacets [(.text name, facet)]).IsSound reserved registered := by
  have hwrapped : (Value.map (Entries.overlay [(.text "type", v)] [(.text name, facet)])).IsSound
      reserved registered := by
    refine ⟨respects_put hname (respects_map.mpr ⟨?_, ?_⟩) hfacet, rfl⟩
    · refine namesRegistered_of_not_bare fun w hw => ?_
      rw [Entries.get?_cons, if_pos (Scalar.same_refl _)] at hw
      cases hw
      exact h.bare
    · exact List.forall_mem_cons.mpr ⟨h.respects, fun e he => by cases he⟩
  unfold withFacets
  split
  · next entries =>
    split
    · exact ⟨respects_put hname h.respects hfacet, rfl⟩
    · exact hwrapped
  · exact hwrapped

theorem IsSound.withRequired (h : v.IsSound reserved registered) (flag : Bool) :
    (v.withRequired flag).IsSound reserved registered :=
  h.withFacet ⟨by decide, by decide⟩ trivial

theorem IsSound.withDefault (h : v.IsSound reserved registered) (d : Data) :
    (v.withDefault d).IsSound reserved registered :=
  h.withFacet ⟨by decide, by decide⟩ (respects_ofData d)

theorem IsSound.fillRequired (h : v.IsSound reserved registered) (field : Scalar)
    (required : Data) : (v.fillRequired field required).IsSound reserved registered := by
  rcases Value.fillRequired_cases field required with ⟨-, hfill⟩ | hfill
  · rw [hfill]
    exact h
  · rw [hfill]
    exact h.withRequired _

theorem IsSound.list (h : v.Respects reserved registered) :
    (Value.list [v]).IsSound reserved registered :=
  ⟨⟨h, trivial⟩, rfl⟩

theorem IsSound.manyOf (h : v.IsSound reserved registered) (many : Bool) :
    (v.manyOf many).IsSound reserved registered := by
  cases many with
  | true => exact .list h.respects
  | false => exact h

theorem isSound_referenceTo {target : String} (h : registered target) (includeRef : Bool) :
    (Value.referenceTo target includeRef).IsSound reserved registered := by
  refine ⟨respects_map.mpr ?_, rfl⟩
  cases includeRef with
  | true =>
    refine ⟨fun _ v hv => ⟨target, ?_, h⟩, ?_⟩
    · cases hv
      rfl
    · simp [Respects, Throughout]
  | false =>
    refine ⟨namesRegistered_of_no_ref rfl, ?_⟩
    simp [Respects, Throughout]

def AreSound (reserved : Scalar → Prop) (registered : String → Prop) (fields : Entries Value) :
    Prop :=
  ∀ e ∈ fields, ¬ reserved e.1 ∧ e.2.IsSound reserved registered

theorem AreSound.embedded {fields : Entries Value} (h : AreSound reserved registered fields) :
    (Value.embedded fields).IsSound reserved registered := by
  refine ⟨respects_embedded.mpr ⟨⟨?_, fun e he => (h e he).1⟩, fun e he => ?_⟩, rfl⟩
  · refine namesRegistered_of_not_bare fun v hv => ?_
    obtain ⟨k, hmem, -⟩ := Entries.exists_mem_of_get? hv
    exact (h _ hmem).2.bare
  · exact (h e he).2.respects

end Sound

end Value

/-- What a definition compiles to keeps to the registry, its index included. -/
structure Compiled.Respects (reserved : Scalar → Prop) (registered : String → Prop)
    (compiled : Compiled) : Prop where
  properties : compiled.properties.Respects reserved registered
  index : ∀ index ∈ compiled.index, (Value.map index.fields).Respects reserved registered

namespace FieldType

private theorem scalarType?_ne_identifier (name : String) :
    scalarType? name ≠ some .identifier := by
  have hall : ∀ types : List (String × StorageType), (∀ e ∈ types, e.2 ≠ .identifier) →
      types.lookup name ≠ some .identifier := by
    intro types htypes
    induction types with
    | nil => exact fun h => by cases h
    | cons e rest ih =>
      obtain ⟨hfirst, hrest⟩ := List.forall_mem_cons.mp htypes
      rw [List.lookup_cons]
      split
      · exact fun h => hfirst (Option.some.inj h)
      · exact ih hrest
  exact hall scalarTypes (by decide)

theorem ne_identifier_of_ofEntries {entries : Entries Data} {type : FieldType}
    (h : ofEntries entries = .ok type) : type.toValue ≠ .type .identifier := by
  rw [ofEntries] at h
  split at h
  · next name hname =>
    split at h
    · dsimp only at h
      split at h
      · cases h
        exact fun h => by cases h
      · cases h
    split at h
    · split at h
      · cases hitem : ofEntries _ with
        | error fault =>
          rw [hitem] at h
          cases h
        | ok item =>
          rw [hitem] at h
          cases h
          exact fun h => by cases h
      · cases h
      · cases h
    · split at h
      · next storage hstorage =>
        cases h
        intro htype
        rw [toValue] at htype
        injection htype with htype
        exact scalarType?_ne_identifier name (htype ▸ hstorage)
      · cases h
  · cases h

end FieldType

namespace Context

variable {ctx : Context} {v : Value}

/-- A value keeps to the registry of a context. -/
abbrev IsSound (ctx : Context) : Value → Prop :=
  Value.IsSound (fun field => ctx.isReserved field = true)
    fun target => ctx.hasDefinition (.text target) = true

abbrev AreSound (ctx : Context) : Entries Value → Prop :=
  Value.AreSound (fun field => ctx.isReserved field = true)
    fun target => ctx.hasDefinition (.text target) = true

theorem isSound_typedDescriptor (type : FieldType) (choices : Option (List Data)) :
    ctx.IsSound (typedDescriptor type choices) := by
  refine ⟨Value.respects_map.mpr ?_, rfl⟩
  cases choices with
  | none =>
    refine ⟨Value.namesRegistered_of_no_ref rfl, ?_⟩
    exact List.forall_mem_cons.mpr ⟨Value.respects_toValue type, fun e he => by cases he⟩
  | some values =>
    refine ⟨Value.namesRegistered_of_no_ref rfl, ?_⟩
    refine List.forall_mem_cons.mpr ⟨Value.respects_toValue type, ?_⟩
    refine List.forall_mem_cons.mpr ⟨?_, fun e he => by cases he⟩
    simpa only [Value.ofData] using Value.respects_ofData (.list values)

private theorem isSound_mapSimple {described : Entries Data} {entries mapped : Entries Value}
    (hentries : ctx.IsSound (.map entries)) (h : mapSimple described entries = .ok mapped) :
    ctx.IsSound (.map mapped) := by
  unfold mapSimple at h
  split at h
  · obtain ⟨type, htype, h⟩ := exists_of_bind_eq_ok h
    cases h
    have hne := FieldType.ne_identifier_of_ofEntries htype
    refine ⟨Value.respects_map.mpr ⟨fun hfound => ?_, fun e he => ?_⟩, rfl⟩
    · rw [Entries.get?_erase_other (by decide), Entries.get?_erase_other (by decide),
        Entries.get?_put_same] at hfound
      exact absurd (Option.some.inj hfound) hne
    · have hmem := (List.mem_filter.mp (List.mem_filter.mp he).1).1
      exact Entries.forall_put (fun _ (v : Value) => v.Respects _ _) (fun _ h => h)
        (Value.respects_map.mp hentries.respects).2 (Value.respects_toValue type) e hmem
  · cases h
    exact hentries

theorem isSound_override {extension base : Data} {many : Bool}
    (h : ctx.override extension base many = .ok v) : ctx.IsSound v := by
  unfold override at h
  obtain ⟨base, -, h⟩ := exists_of_bind_eq_ok h
  obtain ⟨extension, -, h⟩ := exists_of_bind_eq_ok h
  split at h
  · obtain ⟨target, -, h⟩ := exists_of_bind_eq_ok h
    obtain ⟨name, hname, h⟩ := exists_of_bind_eq_ok h
    cases h
    exact (Value.isSound_referenceTo (hasDefinition_of_requireDefinition hname) _).manyOf many
  · dsimp only at h
    have hplain : ∀ entries, ctx.IsSound (.map (Value.ofEntries entries)) := fun entries =>
      ⟨by simpa only [Value.ofData] using Value.respects_ofData (.map entries), rfl⟩
    split at h
    · obtain ⟨function, -, h⟩ := exists_of_bind_eq_ok h
      obtain ⟨mapped, hmapped, h⟩ := exists_of_bind_eq_ok h
      cases h
      have hput : ctx.IsSound (.map (Entries.put (Value.ofEntries (Entries.erase base
          (.text ctx.extensionKey))) (.text "validate") (.validator function))) :=
        (hplain _).put ⟨by decide, by decide⟩ trivial
      exact (isSound_mapSimple hput hmapped).manyOf many
    · obtain ⟨mapped, hmapped, h⟩ := exists_of_bind_eq_ok h
      cases h
      exact (isSound_mapSimple (hplain _) hmapped).manyOf many

theorem isReserved_same {field field' : Scalar} (h : field.same field' = true) :
    ctx.isReserved field = ctx.isReserved field' := by
  unfold isReserved
  congr 1
  funext name
  rw [Scalar.same_comm, Scalar.same_congr h, Scalar.same_comm]

def ResolvesSoundly (ctx : Context) (resolve : Resolve (Except Fault)) : Prop :=
  ∀ owner field target many v, resolve owner field target many = .ok (some v) → ctx.IsSound v

section Shapes

variable {resolve : Resolve (Except Fault)}

mutual
theorem isSound_compileShape (hresolve : ctx.ResolvesSoundly resolve) (owner field : Scalar)
    (required : Data) (shape : Shape) {v : Value}
    (h : ctx.compileShape resolve owner field required shape = .ok (some v)) : ctx.IsSound v := by
  match shape, compiledAs_of_compileShape h with
  | _, .override hv => exact (isSound_override hv).fillRequired field required
  | _, .reference hv => exact (hresolve owner field _ _ _ hv).fillRequired field required
  | _, .typed _ => exact (isSound_typedDescriptor _ _).fillRequired field required
  | .fields inner members, .fields hfields =>
    have hall := areSound_compileMembers hresolve field inner members hfields
    exact hall.embedded.fillRequired field required
  | .withDefault shape default, .withDefault hv =>
    exact (isSound_compileShape hresolve owner field required shape hv).withDefault default

/-- The fields of a set are sound, and none is reserved. -/
theorem areSound_compileMembers (hresolve : ctx.ResolvesSoundly resolve) (owner : Scalar)
    (required : Data) (members : List (Scalar × Shape)) {fields : Entries Value}
    (h : ctx.compileMembers resolve owner required members = .ok fields) :
    ctx.AreSound fields := by
  match members with
  | [] =>
    simp only [compileMembers] at h
    cases h
    exact fun e he => by cases he
  | (name, shape) :: rest =>
    obtain ⟨more, hmore, hcases⟩ := compileMembers_cons_cases h
    have hrest := areSound_compileMembers hresolve owner required rest hmore
    obtain ⟨-, rfl⟩ | ⟨-, -, rfl⟩ | ⟨v, hname, hv, rfl⟩ := hcases
    · exact hrest
    · exact hrest
    · have hsound := isSound_compileShape hresolve owner name required shape hv
      exact List.forall_mem_cons.mpr ⟨⟨Bool.eq_false_iff.mp hname, hsound⟩, hrest⟩
end

variable (hresolve : ctx.ResolvesSoundly resolve)

include hresolve

theorem isSound_compilePropertyWith {property : Data} {field : Scalar} {required : Data}
    {owner : Scalar} {v : Value}
    (h : ctx.compilePropertyWith resolve property field required owner = .ok (some v)) :
    ¬ ctx.isReserved field = true ∧ ctx.IsSound v := by
  unfold compilePropertyWith at h
  split at h
  · cases h
  · next hfield => exact ⟨hfield, isSound_compileShape hresolve owner field required _ h⟩

end Shapes

/-- What a set of fields compiles to: an embedded map, or the descriptor of a type that is no
identifier. -/
inductive IsSet (ctx : Context) : Value → Prop
  | embedded {fields : Entries Value} (h : ctx.AreSound fields) : IsSet ctx (.embedded fields)
  | typed {type : FieldType} (h : type.toValue ≠ .type .identifier) :
      IsSet ctx (typedDescriptor type none)

theorem IsSet.isSound (h : ctx.IsSet v) : ctx.IsSound v := by
  cases h with
  | embedded hfields => exact hfields.embedded
  | typed _ => exact isSound_typedDescriptor _ none

theorem IsSet.addFields (h : ctx.IsSet v) {fields : Entries Value} (hfields : ctx.AreSound fields) :
    ctx.IsSound (addFields v fields) := by
  cases h with
  | embedded hown =>
    have hall : ctx.AreSound (Entries.overlay _ fields) :=
      Entries.forall_overlay (fun name (v : Value) => ¬ ctx.isReserved name = true ∧ ctx.IsSound v)
        (fun hsame hold => ⟨by rw [isReserved_same hsame]; exact hold.1, hold.2⟩) hown hfields
    exact hall.embedded
  | @typed type hne =>
    let Fits := fun (name : Scalar) (v : Value) =>
      v.Respects (fun field => ctx.isReserved field = true)
        (fun target => ctx.hasDefinition (.text target) = true) ∧
      (name = .text "type" → v ≠ .type .identifier)
    have hall : ∀ e ∈ Entries.overlay [(.text "type", type.toValue)] fields, Fits e.1 e.2 := by
      refine Entries.forall_overlay Fits ?_ ?_ ?_
      · intro k k' v hsame hold
        refine ⟨hold.1, fun hk => hold.2 ?_⟩
        rw [hk] at hsame
        exact Scalar.same_text.mp (Scalar.same_symm hsame)
      · exact List.forall_mem_cons.mpr
          ⟨⟨Value.respects_toValue type, fun _ => hne⟩, fun e he => by cases he⟩
      · intro e he
        refine ⟨(hfields e he).2.respects, fun _ heq => ?_⟩
        have hbare := (hfields e he).2.bare
        rw [heq] at hbare
        cases hbare
    refine ⟨Value.respects_map.mpr ⟨fun htype => ?_, fun e he => (hall e he).1⟩, rfl⟩
    obtain ⟨k, hmem, hk⟩ := Entries.exists_mem_of_get? htype
    exact absurd rfl ((hall _ hmem).2 (Scalar.same_text.mp hk))

private theorem isSound_getD {found : Option Value} (h : ∀ w, found = some w → ctx.IsSound w) :
    ctx.IsSound (.list [found.getD (.scalar .null)]) := by
  cases found with
  | none => exact ⟨⟨trivial, trivial⟩, rfl⟩
  | some w => exact .list (h w rfl).respects

section Nodes

variable {resolve : Resolve (Except Fault)} {lookup : Scalar → Except Fault Data}
  (hresolve : ctx.ResolvesSoundly resolve)

include hresolve

theorem isSet_compileSetWith {owner : Scalar} {node : Data}
    (h : ctx.compileSetWith lookup resolve owner node = .ok v) : ctx.IsSet v := by
  obtain ⟨entries, -, h⟩ := exists_of_bind_eq_ok h
  rw [Shape.ofNode] at h
  have hfields : ∀ required members, ctx.compileNode resolve owner (.fields required members) =
      .ok v → ctx.IsSet v := by
    intro required members h
    obtain ⟨fields, hfound, h⟩ := exists_of_bind_eq_ok h
    cases h
    exact .embedded (areSound_compileMembers hresolve owner required members hfound)
  split at h
  · exact hfields _ _ h
  · split at h
    · exact hfields _ _ h
    · split at h
      · exact hfields _ _ h
      · obtain ⟨type, htype, h⟩ := exists_of_bind_eq_ok h
        cases h
        rw [ofExcept_eq] at htype
        exact .typed (FieldType.ne_identifier_of_ofEntries htype)
  · cases h
  · cases h

theorem isSound_compileTarget {name field : Scalar} {many : Bool} {node : Data}
    (h : ctx.compileTarget lookup resolve name field many node = .ok (some v)) :
    ctx.IsSound v := by
  obtain ⟨entries, -, hembedded⟩ := embeddedAs_of_compileTarget h
  cases hembedded with
  | items _ _ hfound hr =>
    cases hr
    refine isSound_getD fun w hw => ?_
    rw [hw] at hfound
    exact (isSound_compilePropertyWith hresolve hfound).2
  | fields _ _ hfields hr =>
    cases hr
    exact (isSet_compileSetWith hresolve hfields).isSound.manyOf many
  | @property found _ hfound hr =>
    have hsound : ∀ w, found = some w → ctx.IsSound w := by
      intro w hw
      rw [hw] at hfound
      exact (isSound_compilePropertyWith hresolve hfound).2
    split at hr
    · cases hr
      exact isSound_getD hsound
    · exact hsound v hr.symm

theorem areSound_compileAdditional {name : Scalar} {properties : Entries Data}
    {fields : Entries Value} (h : ctx.compileAdditional resolve name properties = .ok fields) :
    ctx.AreSound fields := by
  induction properties generalizing fields with
  | nil =>
    cases h
    exact fun e he => by cases he
  | cons e rest ih =>
    obtain ⟨field, property⟩ := e
    obtain ⟨entries, -, h⟩ := exists_of_bind_eq_ok h
    obtain ⟨found, hfound, h⟩ := exists_of_bind_eq_ok h
    obtain ⟨more, hmore, h⟩ := exists_of_bind_eq_ok h
    cases found with
    | none =>
      cases h
      exact ih hmore
    | some w =>
      cases h
      exact List.forall_mem_cons.mpr ⟨isSound_compilePropertyWith hresolve hfound, ih hmore⟩

end Nodes

private theorem resolvesSoundly_resolution {embed : Embed (Except Fault)}
    (hembed : ∀ field target many v, embed field target many = .ok (some v) → ctx.IsSound v)
    (stack : List Scalar) : ctx.ResolvesSoundly (ctx.resolution embed stack) := by
  intro owner field target many v h
  unfold resolution at h
  rw [ofExcept_eq] at h
  obtain ⟨name, hname, h⟩ := exists_of_bind_eq_ok h
  split at h
  · cases h
    exact (Value.isSound_referenceTo (hasDefinition_of_requireDefinition hname) true).manyOf many
  · exact hembed field target many v h

theorem isSound_embedAt (depth : Nat) : ∀ (stack : List Scalar) (field : Scalar) (target : String)
    (many : Bool) (v : Value), ctx.embedAt depth stack field target many = .ok (some v) →
      ctx.IsSound v := by
  induction depth with
  | zero =>
    intro stack field target many v h
    cases h
  | succ depth ih =>
    intro stack field target many v h
    obtain ⟨node, -, h⟩ := exists_of_bind_eq_ok h
    exact isSound_compileTarget (resolvesSoundly_resolution (ih _) _) h

theorem resolvesSoundly_meaning (stack : List Scalar) : ctx.ResolvesSoundly (ctx.meaning stack) :=
  resolvesSoundly_resolution (isSound_embedAt _ stack) stack

private theorem respects_indexFor {name : Scalar} {index : Index}
    (h : ctx.extensions.indexFor name = .ok (some index)) :
    (Value.map index.fields).Respects (fun field => ctx.isReserved field = true)
      fun target => ctx.hasDefinition (.text target) = true := by
  unfold Extensions.indexFor at h
  dsimp only at h
  split at h
  · cases h
  · unfold Index.make at h
    split at h
    · split at h
      · cases h
      · cases h
        simpa only [Value.ofData] using Value.respects_ofData (.map _)
    · cases h

theorem respects_definitionMeaning {stack : List Scalar} {name : Scalar} {compiled : Compiled}
    (h : ctx.definitionMeaning stack name = .ok (some compiled)) :
    compiled.Respects (fun field => ctx.isReserved field = true)
      fun target => ctx.hasDefinition (.text target) = true := by
  obtain ⟨-, fields, added, hassembles⟩ := exists_of_definitionMeaning h
  obtain ⟨node, -, hproperties⟩ := exists_of_bind_eq_ok hassembles.own
  have hset := isSet_compileSetWith (resolvesSoundly_meaning _) hproperties
  have hadded := areSound_compileAdditional (resolvesSoundly_meaning stack) hassembles.additional
  refine ⟨?_, fun index hindex => ?_⟩
  · rw [hassembles.properties]
    exact (hset.addFields hadded).respects
  · have hmade := hassembles.index
    rw [hindex] at hmade
    exact respects_indexFor hmade

/-- What a context compiles to keeps to its registry. -/
theorem respects_compileAll {compiled : List Compiled} (h : ctx.compileAll = .ok compiled) :
    ∀ c ∈ compiled, c.Respects (fun field => ctx.isReserved field = true)
      fun target => ctx.hasDefinition (.text target) = true := by
  intro c hc
  rw [compileAll_eq] at h
  obtain ⟨name, -, hname⟩ := exists_of_mem_compileEach h hc
  exact respects_definitionMeaning hname

end Context

namespace Session

variable {session : Session} {source extra : Source} {compiled : List Compiled} {ctx : Context}

theorem keys_of_contextOf {document : Entries Data}
    (hdecode : Document.decode source = .ok document)
    (hsharing : source.sharing = none) (hctx : session.contextOf source extra = .ok ctx) :
    ∃ declared, Document.definitionsOf document = .ok declared ∧
      Entries.keys ctx.definitions = Entries.keys declared := by
  cases hextra : Document.decodeExtra extra with
  | error fault =>
    rw [contextOf_eq, hdecode, hextra] at hctx
    cases hctx
  | ok blocks =>
    have hbuilds := (contextOf_eq_ok_iff_buildsWith hdecode hsharing hextra).mp hctx
    obtain ⟨declared, hdeclared, hlaid⟩ := hbuilds.definitions
    exact ⟨declared, hdeclared, Document.keys_layExtra hlaid⟩

/-- Whatever a document compiles to, with whatever extension blocks and settings: no embedded map in
it has a reserved field, and every identifier in it that names a definition names a registered
one. -/
theorem respects_compileDefinitions
    (h : (session.compileDefinitions source extra).outcome = .ok compiled) :
    ∃ ctx, session.contextOf source extra = .ok ctx ∧
      (∀ document, Document.decode source = .ok document → source.sharing = none →
        ∃ declared, Document.definitionsOf document = .ok declared ∧
          Entries.keys ctx.definitions = Entries.keys declared) ∧
      ∀ c ∈ compiled, c.Respects
        (fun field => ∃ name ∈ session.settings.compiler.reservedFields, field = .text name)
        fun target => Entries.has ctx.definitions (.text target) = true := by
  obtain ⟨ctx, hctx, hall⟩ := exists_contextOf h
  refine ⟨ctx, hctx, fun document hdecode hsharing => keys_of_contextOf hdecode hsharing hctx, ?_⟩
  intro c hc
  have hrespects := Context.respects_compileAll hall c hc
  have hreserved : (fun field => ctx.isReserved field = true) = fun field =>
      ∃ name ∈ session.settings.compiler.reservedFields, field = .text name := by
    funext field
    rw [Context.isReserved, settings_contextOf hctx, List.any_eq_true]
    simp only [Scalar.same_text]
  rw [← hreserved]
  exact hrespects

end Session

section Bazaar

/-- A definition that refers to itself, by a property and by an additional property beside a
reserved one. -/
def bazaar : Context where
  definitions := [(.text "Stall", .map stall)]
  version := Number.Binary64.ofInt? 2
  extensions := { additional := [(.text "Stall", added)] }
where
  added : Entries Data :=
    [(.text "owner", .map [(.text "$ref", .text "#/definitions/Stall")]),
      (.text "_id", .map [(.text "$ref", .text "#/definitions/Stall")])]
  stall : Entries Data :=
    [(.text "properties", .map
      [(.text "next", .map [(.text "$ref", .text "#/definitions/Stall")])]),
      (.text "x-swagger-mongoose", .map [(.text "additional-properties", .map added)])]

def bazaarDocument : Source :=
  .data (.map [(.text "swagger", .int 2), (.text "definitions", .map bazaar.definitions)])

private theorem contextOf_bazaar : ({} : Session).contextOf bazaarDocument .absent = .ok bazaar :=
  rfl

private theorem fieldsMeaning_bazaar :
    bazaar.fieldsMeaning [] (.text "Stall") =
      .ok (.embedded [(.text "next", .referenceTo "Stall" true)]) := by
  have hkey : bazaar.extensionKey = "x-swagger-mongoose" := rfl
  have hnode : bazaar.normalForm (.text "Stall") = .ok (.map bazaar.stall) := rfl
  have hnext : Shape.ofProperty "x-swagger-mongoose"
      (.map [(.text "$ref", .text "#/definitions/Stall")]) = .reference "Stall" false :=
    Shape.ofProperty_pointer (by decide) rfl
  have hself : bazaar.meaning [.text "Stall"] (.text "Stall") (.text "next") "Stall" false =
      .ok (some (.referenceTo "Stall" true)) := rfl
  have hname : bazaar.isReserved (.text "next") = false := rfl
  rw [Context.fieldsMeaning_map hnode, hkey, @Shape.ofNode_of_properties _ bazaar.stall _ rfl,
    Shape.members_all]
  simp only [List.map_cons, List.map_nil, List.nil_append, hnext, Context.compileNode,
    Context.compileMembers, Context.compileShape, hname, Bool.false_eq_true, if_false, hself,
    ok_bind]
  rfl

private theorem compileAdditional_bazaar :
    bazaar.compileAdditional (bazaar.meaning []) (.text "Stall") bazaar.added =
      .ok [(.text "owner", .referenceTo "Stall" true)] := by
  have hkey : bazaar.extensionKey = "x-swagger-mongoose" := rfl
  have howner : Shape.ofProperty "x-swagger-mongoose" (.map [(.text "x-swagger-mongoose",
      .map [(.text "$ref", .text "#/definitions/Stall")])]) =
      .override (.map [(.text "$ref", .text "#/definitions/Stall")]) (.map
        [(.text "x-swagger-mongoose", .map [(.text "$ref", .text "#/definitions/Stall")])])
        false := by
    rw [Shape.ofProperty_map]
    rfl
  have hnames : bazaar.isReserved (.text "owner") = false ∧
      bazaar.isReserved (.text "_id") = true := ⟨rfl, rfl⟩
  simp only [bazaar.added, Context.compileAdditional, Context.compilePropertyWith, hkey, howner,
    hnames.1, hnames.2, Bool.false_eq_true, if_false, if_true, Context.compileShape]
  rfl

private theorem compileDefinitions_bazaar :
    (({} : Session).compileDefinitions bazaarDocument .absent).outcome = .ok
      [{ name := .text "Stall",
         properties := .embedded [(.text "next", .referenceTo "Stall" true),
           (.text "owner", .referenceTo "Stall" true)],
         options := [], index := none }] := by
  have hkeys : Entries.keys bazaar.definitions = [.text "Stall"] := rfl
  have hadded : bazaar.extensions.additionalFor (.text "Stall") = bazaar.added := rfl
  rw [Session.outcome_compileDefinitions contextOf_bazaar, Context.compileAll_eq]
  simp only [hkeys, Context.compileEach, Context.definitionMeaning, Context.compileDefinitionWith,
    fieldsMeaning_bazaar, hadded, compileAdditional_bazaar]
  rfl

/-- The references of the stall name a registered definition, and its reserved field is left
out. -/
theorem bazaar_respects :
    ∃ compiled, (({} : Session).compileDefinitions bazaarDocument .absent).outcome = .ok compiled ∧
      ∃ ctx, ({} : Session).contextOf bazaarDocument .absent = .ok ctx ∧
        (∀ document, Document.decode bazaarDocument = .ok document →
          bazaarDocument.sharing = none →
            ∃ declared, Document.definitionsOf document = .ok declared ∧
              Entries.keys ctx.definitions = Entries.keys declared) ∧
        ∀ c ∈ compiled, c.Respects
          (fun field => ∃ name ∈ ["_id", "__v"], field = .text name)
          fun target => Entries.has ctx.definitions (.text target) = true :=
  ⟨_, compileDefinitions_bazaar, Session.respects_compileDefinitions compileDefinitions_bazaar⟩

end Bazaar

end StoreSchema
