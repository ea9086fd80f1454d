import StoreSchema.Proofs.Overrides

/-!
What additional properties compile to.

An additional property is compiled as the block of a property that is otherwise empty. Main
statement of this module: an additional property with a type compiles to a descriptor of that type
with the facets of the property; where it names a validator, the validator is all that is left of
it.
-/

set_option autoImplicit false

namespace StoreSchema

theorem Data.isText_iff {d : Data} {s : String} : d.isText s = true ↔ d = .text s := by
  unfold isText
  split <;> simp_all

theorem FieldType.isText_objectId_of_ok {entries : Entries Data} {t : FieldType}
    (h : ofEntries entries = .ok t) :
    (Entries.value entries "type").isText "objectId" = false := by
  have hsimple := isSimple_of_ok h
  rw [isSimple] at hsimple
  rw [Bool.eq_false_iff]
  intro hobject
  rw [Data.isText_iff.mp hobject] at hsimple
  exact absurd hsimple (by decide)

namespace Context

variable {ctx : Context} {name field : Scalar} {property : Entries Data} {t : FieldType}

/-- The property that an additional property is the block of. -/
def wrapping (ctx : Context) (property : Entries Data) : Entries Data :=
  [(.text ctx.extensionKey, .map property)]

/-- A property that requires itself by a flag, if at all. -/
def FlagsRequired (property : Entries Data) : Prop :=
  Entries.get? property (.text "required") = none ∨
    ∃ flag, Entries.get? property (.text "required") = some (.bool flag)

private theorem value_wrapping : Entries.value (ctx.wrapping property) ctx.extensionKey =
    .map property := by
  rw [Entries.value, wrapping, Entries.get?_cons, if_pos (Scalar.same_refl _)]
  rfl

private theorem erase_wrapping :
    Entries.erase (ctx.wrapping property) (.text ctx.extensionKey) = [] := by
  simp [Entries.erase, wrapping]

private theorem laidOver_wrapping (hkeys : Entries.DistinctKeys property) :
    ctx.laidOver (ctx.wrapping property) property = property := by
  rw [laidOver, erase_wrapping, Entries.overlay_nil hkeys]

section Typed

variable (hname : FieldType.ofEntries property = .ok t)

include hname

private theorem overrideReference_wrapping
    (hreference : (Entries.value property "$ref").isTruthy = false) :
    ctx.overrideReference property (ctx.wrapping property) = none := by
  have htype := FieldType.isText_objectId_of_ok hname
  unfold overrideReference
  simp only [htype, hreference, Bool.and_false, Bool.false_eq_true, if_false, ite_self]

private theorem ne_nil_of_typed : property ≠ [] := by
  rintro rfl
  rw [FieldType.ofEntries_eq] at hname
  cases hname

private theorem override_wrapping (hkeys : Entries.DistinctKeys property)
    (hreference : (Entries.value property "$ref").isTruthy = false)
    (hvalidator : (Entries.value property "validator").isTruthy = false) :
    ctx.override (.map property) (.map (ctx.wrapping property)) false =
      .ok (.map (Value.retyped t property)) := by
  have hlaid := @laidOver_wrapping ctx property hkeys
  rw [override_of_typed (overrideReference_wrapping hname hreference) hvalidator
    (hlaid.symm ▸ hname), hlaid]
  rfl

private theorem override_validated {function : String}
    (hreference : (Entries.value property "$ref").isTruthy = false)
    (hvalidator : (Entries.value property "validator").isTruthy = true)
    (hfunction : ctx.validator (Entries.value property "validator") = .ok function) :
    ctx.override (.map property) (.map (ctx.wrapping property)) false =
      .ok (.map [(.text "validate", .validator function)]) := by
  have hempty : FieldType.isSimple (.map []) = false := rfl
  simp only [override, Data.members, orMisuse_ok, ok_bind, hvalidator, hfunction, mapSimple,
    overrideReference_wrapping hname hreference, erase_wrapping, hempty, if_true,
    Bool.false_eq_true, if_false]
  rfl

omit hname in
private theorem exists_describes_filled (t : FieldType) (hflags : FlagsRequired property)
    (field : Scalar) :
    ∃ compiled, (Value.map (Value.retyped t property)).fillRequired field
        (Entries.value property "required") = .map compiled ∧
      Value.Describes t (Entries.get? property) compiled := by
  have hdescribes := Value.describes_retyped t property
  rcases hflags with hnone | ⟨flag, hflag⟩
  · refine ⟨_, ?_, hdescribes⟩
    rw [Entries.value, hnone]
    rfl
  · have hput := hdescribes.put (by decide : "required" ≠ "type") (by decide) (.bool flag)
    refine ⟨_, ?_, hput.congr fun key => ?_⟩
    · rw [Entries.value, hflag]
      exact hdescribes.withFacets_put "required" _
    · split
      · next hkey => rw [← Entries.get?_same hkey, hflag]
      · rfl

omit hname in
private theorem withOwnFacets_wrapping (hkey : ctx.extensionKey ≠ "default") (v : Value)
    (field : Scalar) (required : Data) :
    v.withOwnFacets (ctx.wrapping property) field required = v.fillRequired field required := by
  have hnone : Entries.get? (ctx.wrapping property) (.text "default") = none := by
    rw [wrapping, Entries.get?_cons, Scalar.same_text_of_ne hkey, if_neg Bool.false_ne_true,
      Entries.get?_nil]
  rw [Value.withOwnFacets, hnone]

end Typed

section Added

variable {p : Progress} {resolve : Resolve Compile} {properties : Entries Data}
  {fields : Entries Value}

private theorem keys_compileAdditional
    (h : (ctx.compileAdditional resolve name properties).outcome p = .ok fields) :
    (Entries.keys fields).Sublist (Entries.keys properties) := by
  induction properties generalizing p fields with
  | nil =>
    cases h
    exact List.Sublist.refl _
  | cons e rest ih =>
    obtain ⟨other, d⟩ := e
    simp only [compileAdditional, Compile.outcome_bind] at h
    obtain ⟨entries, -, h⟩ := exists_of_bind_eq_ok h
    obtain ⟨v, -, h⟩ := exists_of_bind_eq_ok h
    obtain ⟨more, hmore, h⟩ := exists_of_bind_eq_ok h
    cases v with
    | none =>
      cases h
      exact (ih hmore).cons _
    | some v =>
      cases h
      exact (ih hmore).cons_cons _

private theorem mem_compileAdditional {v : Value} (hmem : (field, Data.map property) ∈ properties)
    (hproperty : ctx.compilePropertyWith resolve (.map (ctx.wrapping property)) field
      (Entries.value property "required") name = pure (some v))
    (h : (ctx.compileAdditional resolve name properties).outcome p = .ok fields) :
    (field, v) ∈ fields := by
  induction properties generalizing p fields with
  | nil => cases hmem
  | cons e rest ih =>
    obtain ⟨other, d⟩ := e
    simp only [compileAdditional, Compile.outcome_bind] at h
    obtain ⟨entries, hentries, h⟩ := exists_of_bind_eq_ok h
    obtain ⟨first, hfirst, h⟩ := exists_of_bind_eq_ok h
    obtain ⟨more, hmore, h⟩ := exists_of_bind_eq_ok h
    rcases List.mem_cons.mp hmem with heq | hmem
    · cases heq
      cases hentries
      have hsome : first = some v := by
        unfold wrapping at hproperty
        rw [hproperty] at hfirst
        exact (Except.ok.inj hfirst).symm
      rw [hsome] at h
      cases h
      exact List.mem_cons_self
    · cases first with
      | none =>
        cases h
        exact ih hmem hmore
      | some w =>
        cases h
        exact List.mem_cons_of_mem _ (ih hmem hmore)

private theorem exists_entries_compileSetWith {lookup : Scalar → Compile Data} {owner : Scalar}
    {node : Data} {v : Value}
    (h : (ctx.compileSetWith lookup resolve owner node).outcome p = .ok v) :
    ∃ own, v.entries? = some own := by
  rw [compileSetWith, Compile.outcome_bind] at h
  obtain ⟨entries, -, h⟩ := exists_of_bind_eq_ok h
  generalize Shape.ofNode ctx.extensionKey entries = shape at h
  cases shape with
  | fields required members =>
    rw [compileNode, Compile.outcome_bind] at h
    obtain ⟨compiled, -, h⟩ := exists_of_bind_eq_ok h
    cases h
    exact ⟨compiled, rfl⟩
  | typed type choices =>
    rw [compileNode, Compile.outcome_bind] at h
    obtain ⟨found, -, h⟩ := exists_of_bind_eq_ok h
    cases h
    exact ⟨_, rfl⟩
  | _ => cases h

private theorem exists_field_of_additional {c : Compiled} {v : Value}
    (hcompiled : (ctx.compileDefinition name).outcome p = .ok (some c))
    (hdistinct : Entries.DistinctKeys (ctx.extensions.additionalFor name))
    (hmem : (field, .map property) ∈ ctx.extensions.additionalFor name)
    (hproperty : ctx.compilePropertyWith (ctx.resolveInRun Compile.within)
      (.map (ctx.wrapping property)) field (Entries.value property "required") name =
        pure (some v)) :
    ∃ fields, c.properties.entries? = some fields ∧ Entries.get? fields field = some v := by
  rw [compileDefinition, compileDefinitionBy, compileDefinitionWith] at hcompiled
  split at hcompiled
  · cases hcompiled
  rw [Compile.outcome_bind] at hcompiled
  obtain ⟨properties, hproperties, hcompiled⟩ := exists_of_bind_eq_ok hcompiled
  rw [Compile.outcome_bind] at hcompiled
  obtain ⟨added, hadded, hcompiled⟩ := exists_of_bind_eq_ok hcompiled
  rw [Compile.outcome_bind] at hcompiled
  obtain ⟨index, -, hcompiled⟩ := exists_of_bind_eq_ok hcompiled
  cases hcompiled
  -- The additional fields are laid on those that the definition has of its own.
  rw [Compile.outcome_bind] at hproperties
  obtain ⟨node, -, hproperties⟩ := exists_of_bind_eq_ok hproperties
  rw [Compile.outcome_within] at hproperties
  obtain ⟨own, hown⟩ := exists_entries_compileSetWith hproperties
  have hlaid : (addFields properties added).entries? = some (Entries.overlay own added) := by
    cases properties with
    | map entries => cases hown; rfl
    | embedded entries => cases hown; rfl
    | _ => cases hown
  have hkeys : Entries.DistinctKeys added := hdistinct.sublist (keys_compileAdditional hadded)
  have hfound : Entries.get? added field = some v :=
    Entries.get?_of_mem hkeys (mem_compileAdditional hmem hproperty hadded)
  refine ⟨_, hlaid, ?_⟩
  rw [Entries.get?_overlay_of_distinct hkeys, hfound]
  rfl

end Added

/-- An additional property with a type and no reference is a field of every compiled definition that
it is in force for. Without a validator the field is a descriptor of the type with the facets of the
property. With one, the field has nothing but the validator and the flag, and neither the type nor
any other facet. -/
theorem compileDefinition_additional {p : Progress} {c : Compiled}
    (hcompiled : (ctx.compileDefinition name).outcome p = .ok (some c))
    (hdistinct : Entries.DistinctKeys (ctx.extensions.additionalFor name))
    (hmem : (field, .map property) ∈ ctx.extensions.additionalFor name)
    (hfield : ctx.isReserved field = false) (hkey : ctx.extensionKey ≠ "default")
    (hkeys : Entries.DistinctKeys property) (htype : FieldType.ofEntries property = .ok t)
    (hflags : FlagsRequired property)
    (hreference : (Entries.value property "$ref").isTruthy = false) :
    ((Entries.value property "validator").isTruthy = false →
      ∃ fields compiled, c.properties.entries? = some fields ∧
        Entries.get? fields field = some (.map compiled) ∧
        (Value.map compiled).isDescriptor = true ∧
        Value.Describes t (Entries.get? property) compiled) ∧
    ((Entries.value property "validator").isTruthy = true →
      ∀ function, ctx.validator (Entries.value property "validator") = .ok function →
        ∃ fields, c.properties.entries? = some fields ∧
          Entries.get? fields field =
            some ((Value.map [(.text "validate", .validator function)]).fillRequired field
              (Entries.value property "required"))) := by
  have hne := ne_nil_of_typed htype
  constructor
  · intro hvalidator
    obtain ⟨compiled, hfilled, hdescribes⟩ := exists_describes_filled t hflags field
    have hproperty := compilePropertyWith_of_override value_wrapping hne
      (override_wrapping htype hkeys hreference hvalidator) (ctx.resolveInRun Compile.within)
      hfield (Entries.value property "required") name
    rw [withOwnFacets_wrapping hkey, hfilled] at hproperty
    obtain ⟨fields, hfields, hfound⟩ :=
      exists_field_of_additional hcompiled hdistinct hmem hproperty
    exact ⟨fields, compiled, hfields, hfound, hdescribes.isDescriptor, hdescribes⟩
  · intro hvalidator function hfunction
    have hproperty := compilePropertyWith_of_override value_wrapping hne
      (override_validated htype hreference hvalidator hfunction)
      (ctx.resolveInRun Compile.within) hfield (Entries.value property "required") name
    rw [withOwnFacets_wrapping hkey] at hproperty
    exact exists_field_of_additional hcompiled hdistinct hmem hproperty

section Clerks

/-- A definition without fields of its own and with one additional property. -/
def clerks (nick : Entries Data) : Context where
  definitions := [(.text "Clerk", .map [(.text "properties", .map [])])]
  version := Number.Binary64.ofInt? 2
  extensions := { additional := [(.text "Clerk", [(.text "nick", .map nick)])] }
  validators := [("isNick", "isNick")]

private theorem compileDefinition_clerks {nick : Entries Data} {v : Value}
    (h : (clerks nick).compilePropertyWith ((clerks nick).meaning [])
      (.map ((clerks nick).wrapping nick)) (.text "nick") (Entries.value nick "required")
      (.text "Clerk") = .ok (some v)) :
    ((clerks nick).compileDefinition (.text "Clerk")).outcome {} =
      .ok (some { name := .text "Clerk", properties := .embedded [(.text "nick", v)],
                  options := [], index := none }) := by
  have hmeaning := (@compileDefinition_yields (clerks nick) [] (.text "Clerk") {} rfl
    (remembers_start [])).1
  have hfields : (clerks nick).fieldsMeaning [] (.text "Clerk") = .ok (.embedded []) := by
    have hnode : (clerks nick).normalForm (.text "Clerk") =
        .ok (.map [(.text "properties", .map [])]) := rfl
    rw [fieldsMeaning_map hnode,
      Shape.ofNode_of_properties _ (by rfl : Entries.value _ "properties" = .map []),
      Shape.members_all]
    simp only [List.map_nil, compileNode, compileMembers]
    rfl
  have hadded : (clerks nick).extensions.additionalFor (.text "Clerk") =
      [(.text "nick", .map nick)] := rfl
  unfold wrapping at h
  rw [hmeaning]
  simp only [definitionMeaning, compileDefinitionWith, hfields, hadded, compileAdditional,
    Data.members, orMisuse_ok, ofExcept_eq, ok_bind, h]
  rfl

def nickname : Entries Data :=
  [(.text "type", .text "string"), (.text "required", .bool true),
    (.text "enum", .list [.text "al", .text "bo"]), (.text "default", .text "al")]

private theorem ofEntries_nickname : FieldType.ofEntries nickname = .ok (.scalar .text) := by
  rw [FieldType.ofEntries_eq]
  rfl

/-- The nickname of a clerk is stored as it is declared. -/
theorem clerks_nickname : ∃ c fields compiled,
    ((clerks nickname).compileDefinition (.text "Clerk")).outcome {} = .ok (some c) ∧
      c.properties.entries? = some fields ∧
      Entries.get? fields (.text "nick") = some (.map compiled) ∧
      Entries.get? compiled (.text "type") = some (.type .text) ∧
      Entries.get? compiled (.text "required") = some (.bool true) ∧
      Entries.get? compiled (.text "enum") = some (.list [.text "al", .text "bo"]) ∧
      Entries.get? compiled (.text "default") = some (.text "al") := by
  have hproperty := compilePropertyWith_of_override value_wrapping (List.cons_ne_nil _ _)
    (@override_wrapping (clerks nickname) nickname _ ofEntries_nickname (by decide) (by rfl)
      (by rfl))
    ((clerks nickname).meaning []) (by rfl : (clerks nickname).isReserved (.text "nick") = false)
    (Entries.value nickname "required") (.text "Clerk")
  have hcompiled := compileDefinition_clerks hproperty
  obtain ⟨fields, compiled, hfields, hfound, -, hdescribes⟩ :=
    (compileDefinition_additional hcompiled (by decide) (List.mem_singleton.mpr (by rfl))
      (by rfl : (clerks nickname).isReserved (.text "nick") = false) (by decide) (by decide)
      ofEntries_nickname (Or.inr ⟨true, by rfl⟩) (by rfl)).1 (by rfl)
  refine ⟨_, fields, compiled, hcompiled, hfields, hfound, hdescribes.type, ?_, ?_, ?_⟩
  all_goals
    rw [hdescribes.get?_eq _ (by decide) (by decide)]
    rfl

/-- The type of an additional property that names a validator is lost. -/
theorem clerks_validated : ∃ c fields compiled,
    ((clerks [(.text "type", .text "string"),
      (.text "validator", .text "isNick")]).compileDefinition (.text "Clerk")).outcome {} =
        .ok (some c) ∧
      c.properties.entries? = some fields ∧
      Entries.get? fields (.text "nick") = some (.map compiled) ∧
      (Value.map compiled).isDescriptor = false ∧
      Entries.get? compiled (.text "type") = none := by
  let nick : Entries Data := [(.text "type", .text "string"), (.text "validator", .text "isNick")]
  have htype : FieldType.ofEntries nick = .ok (.scalar .text) := by
    rw [FieldType.ofEntries_eq]
    rfl
  have hproperty := compilePropertyWith_of_override value_wrapping (List.cons_ne_nil _ _)
    (@override_validated (clerks nick) nick _ htype "isNick" (by rfl) (by rfl) (by rfl))
    ((clerks nick).meaning []) (by rfl : (clerks nick).isReserved (.text "nick") = false)
    (Entries.value nick "required") (.text "Clerk")
  exact ⟨_, _, _, compileDefinition_clerks hproperty, rfl, rfl, rfl, rfl⟩

end Clerks

end Context

end StoreSchema
