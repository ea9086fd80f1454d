import StoreSchema.Compile.Definition
import StoreSchema.Proofs.Keys
import StoreSchema.Proofs.Outcome

set_option autoImplicit false

namespace StoreSchema

namespace FieldType

theorem ofEntries_of_array {entries items : Entries Data}
    (htype : Entries.value entries "type" = .text "array")
    (hitems : Entries.get? entries (.text "items") = some (.map items)) :
    ofEntries entries = (ofEntries items).map .listOf := by
  rw [ofEntries, htype]
  simp only [String.reduceEq, if_false, if_true]
  split
  · next h =>
    rw [hitems] at h
    cases h
    rfl
  · next h =>
    rw [hitems] at h
    cases h
  · next h _ => exact absurd hitems (h _)

end FieldType

namespace Shape

def ofForm (entries : Entries Data) : Form → Shape
  | .override extension base many => .override extension base many
  | .malformed pointer => .malformed pointer
  | .reference target many => .reference target many
  | .composed => .composed
  | .embedded | .array | .scalar =>
    .typed (FieldType.ofEntries entries) (choicesOf entries)

def withDefaultOf (entries : Entries Data) (shape : Shape) : Shape :=
  match Entries.get? entries (.text "default") with
  | some default => .withDefault shape default
  | none => shape

/-- The shape of a property is that of its form or of the object that it is. -/
theorem ofProperty_map (key : String) (entries : Entries Data) :
    ofProperty key (.map entries) = withDefaultOf entries
      (match Form.ofEntries key entries with
        | .embedded => ofNode key entries
        | form => ofForm entries form) := by
  rw [ofProperty]
  cases Form.ofEntries key entries <;> rfl

theorem ofProperty_of_form {key : String} {entries : Entries Data}
    (h : Form.ofEntries key entries ≠ .embedded) :
    ofProperty key (.map entries) =
      withDefaultOf entries (ofForm entries (Form.ofEntries key entries)) := by
  rw [ofProperty_map]
  split
  · next hform => exact absurd hform h
  · rfl

theorem ofProperty_of_typed {key : String} {es : Entries Data}
    (h : Form.ofEntries key es = .array ∨ Form.ofEntries key es = .scalar) :
    ofProperty key (.map es) =
      withDefaultOf es (.typed (FieldType.ofEntries es) (choicesOf es)) := by
  rw [ofProperty_map]
  rcases h with harray | hscalar
  · rw [harray]
    rfl
  · rw [hscalar]
    rfl

theorem members_all (key : String) (properties : Entries Data) :
    members key false properties = properties.map fun e => (e.1, ofProperty key e.2) := by
  induction properties with
  | nil => simp only [members, List.map_nil]
  | cons e rest ih =>
    obtain ⟨name, d⟩ := e
    simp only [members, Bool.false_and, Bool.false_eq_true, if_false, ih, List.map_cons]

theorem ofNode_of_properties (key : String) {entries properties : Entries Data}
    (hprops : Entries.value entries "properties" = .map properties) :
    ofNode key entries =
      .fields (Entries.value entries "required") (members key false properties) := by
  rw [ofNode]
  split
  · next h =>
    rw [hprops] at h
    cases h
    rfl
  · next h => rw [hprops] at h; cases h
  · next h => rw [hprops] at h; cases h
  · next h _ _ => exact absurd hprops (h _)

theorem ofNode_of_property {key : String} {entries : Entries Data} {field : Scalar}
    {property : Data} {shape : Shape}
    (hprops : Entries.value entries "properties" = .map [(field, property)])
    (hshape : ofProperty key property = shape) :
    ofNode key entries = .fields (Entries.value entries "required") [(field, shape)] := by
  rw [ofNode_of_properties key hprops, members_all, List.map_cons, List.map_nil, hshape]

theorem ofNode_of_direct (key : String) {entries : Entries Data}
    (hprops : Entries.value entries "properties" = .null)
    (htype : Entries.value entries "type" = .null) :
    ofNode key entries =
      .fields (Entries.value entries "required") (members key true entries) := by
  rw [ofNode]
  split
  · next h => rw [hprops] at h; cases h
  · rw [htype]
  · next h => rw [hprops] at h; cases h
  · next h _ => exact absurd hprops h

theorem ofNode_of_typed (key : String) {entries : Entries Data}
    (hprops : Entries.value entries "properties" = .null)
    (htype : (Entries.value entries "type").isTruthy = true)
    (hobject : (Entries.value entries "type").isText "object" = false) :
    ofNode key entries = .typed (FieldType.ofEntries entries) none := by
  rw [ofNode]
  split
  · next h => rw [hprops] at h; cases h
  · split
    · next h => rw [h] at htype; cases htype
    · rw [hobject]
      rfl
  · next h => rw [hprops] at h; cases h
  · next hnull _ => exact absurd hprops hnull

theorem ofNode_cases (key : String) (entries : Entries Data) :
    (∃ members, ofNode key entries = .fields (Entries.value entries "required") members) ∨
      (∃ type, ofNode key entries = .typed type none) ∨
      ofNode key entries = .endless ∨ ofNode key entries = .noFields := by
  rw [ofNode]
  split
  · exact Or.inl ⟨_, rfl⟩
  · split
    · exact Or.inl ⟨_, rfl⟩
    · split
      · exact Or.inl ⟨_, rfl⟩
      · exact Or.inr (Or.inl ⟨_, rfl⟩)
  · exact Or.inr (Or.inr (Or.inl rfl))
  · exact Or.inr (Or.inr (Or.inr rfl))

end Shape

namespace Form

theorem ofEntries_ne_embedded (key : String) {entries : Entries Data}
    (htype : (Entries.value entries "type").isTruthy = true)
    (hobject : (Entries.value entries "type").isText "object" = false) :
    ofEntries key entries ≠ .embedded := by
  simp only [ofEntries, htype, hobject, Bool.not_true, Bool.or_self, Bool.false_eq_true, if_false]
  intro h
  repeat' split at h
  all_goals cases h

end Form

theorem Shape.ofProperty_empty (key : String) : ofProperty key (.map []) = .fields .null [] := by
  have hform : Form.ofEntries key [] = .embedded := rfl
  rw [ofProperty_map, hform, @ofNode_of_direct key [] rfl rfl]
  simp only [members]
  rfl

theorem Shape.ofProperty_pointer {key pointer target : String} (hkey : key ≠ "$ref")
    (h : Pointer.target (.text pointer) = .ok target) :
    ofProperty key (.map [(.text "$ref", .text pointer)]) = .reference target false := by
  have hown : Entries.value [(.text "$ref", .text pointer)] key = .null := by
    have hother : (Scalar.text "$ref").same (.text key) = false := by
      rw [Bool.eq_false_iff, Ne, Scalar.same_text]
      intro hsame
      injection hsame with hsame
      exact hkey hsame.symm
    simp only [Entries.value, Entries.get?_cons, hother]
    rfl
  have hreference : Form.referenceOf [(.text "$ref", .text pointer)] = .text pointer := rfl
  have hform : Form.ofEntries key [(.text "$ref", .text pointer)] = .reference target false := by
    simp only [Form.ofEntries, hown, hreference, h]
    rfl
  rw [ofProperty_map, hform]
  rfl

theorem Shape.ofProperty_string {key : String} (hkey : key ≠ "type") :
    ofProperty key (.map [(.text "type", .text "string")]) = .typed (.ok (.scalar .text)) none := by
  have hown : Entries.value [(.text "type", .text "string")] key = .null := by
    simp only [Entries.value, Entries.get?_cons, Scalar.same_text_of_ne hkey.symm]
    rfl
  have hreference : Form.referenceOf [(.text "type", .text "string")] = .null := rfl
  have hform : Form.ofEntries key [(.text "type", .text "string")] = .scalar := by
    simp only [Form.ofEntries, hown, hreference]
    rfl
  have htype : FieldType.ofEntries [(.text "type", .text "string")] = .ok (.scalar .text) := by
    rw [FieldType.ofEntries]
    rfl
  rw [ofProperty_map, hform, ← htype]
  rfl

namespace Context

variable {ctx : Context} {lookup : Scalar → Except Fault Data} {resolve : Resolve (Except Fault)}
  {entries : Entries Data}

theorem compileSetWith_map (hplain : Composition.isComposed (.map entries) = false)
    (owner : Scalar) :
    ctx.compileSetWith lookup resolve owner (.map entries) =
      ctx.compileNode resolve owner (Shape.ofNode ctx.extensionKey entries) := by
  unfold compileSetWith
  rw [hplain]
  rfl

theorem compileTarget_map (name field : Scalar) (many : Bool) :
    ctx.compileTarget lookup resolve name field many (.map entries) =
      if isContainer entries then
        if (Entries.value entries "type").isText "array" then do
          let declared := Entries.value entries "items"
          let items := if declared.isTruthy then declared else .map []
          let v ← ctx.compilePropertyWith resolve items name .null name
          pure (some (.list [v.getD (.scalar .null)]))
        else do
          let v ← ctx.compileSetWith lookup resolve name (.map entries)
          pure (some (v.manyOf many))
      else (do
        let stripped := Entries.erase entries (.text ctx.extensionKey)
        let v ← ctx.compilePropertyWith resolve (.map stripped) field .null name
        pure (if many then some (.list [v.getD (.scalar .null)]) else v)) :=
  rfl

/-- What a property of a shape compiles to unless it is left out, by the shape: a descriptor or a
set of fields, marked required if the owner says so. -/
inductive CompiledAs (ctx : Context) (resolve : Resolve (Except Fault)) (owner field : Scalar)
    (required : Data) : Shape → Value → Prop
  | override {extension base : Data} {many : Bool} {v : Value}
      (hv : ctx.override extension base many = .ok v) :
      CompiledAs ctx resolve owner field required (.override extension base many)
        (v.fillRequired field required)
  | reference {target : String} {many : Bool} {v : Value}
      (hv : resolve owner field target many = .ok (some v)) :
      CompiledAs ctx resolve owner field required (.reference target many)
        (v.fillRequired field required)
  | typed {described : Except Fault FieldType} {type : FieldType} {choices : Option (List Data)}
      (htype : described = .ok type) :
      CompiledAs ctx resolve owner field required (.typed described choices)
        ((typedDescriptor type choices).fillRequired field required)
  | fields {inner : Data} {members : List (Scalar × Shape)} {fields : Entries Value}
      (hfields : ctx.compileMembers resolve field inner members = .ok fields) :
      CompiledAs ctx resolve owner field required (.fields inner members)
        ((Value.embedded fields).fillRequired field required)
  | withDefault {shape : Shape} {default : Data} {v : Value}
      (hv : ctx.compileShape resolve owner field required shape = .ok (some v)) :
      CompiledAs ctx resolve owner field required (.withDefault shape default)
        (v.withDefault default)

theorem compiledAs_of_compileShape {owner field : Scalar} {required : Data} {shape : Shape}
    {v : Value} (h : ctx.compileShape resolve owner field required shape = .ok (some v)) :
    ctx.CompiledAs resolve owner field required shape v := by
  cases shape with
  | notMapping | endless | noFields | malformed | composed =>
    simp only [compileShape] at h
    cases h
  | override extension base many =>
    simp only [compileShape, ofExcept_eq] at h
    obtain ⟨found, hfound, h⟩ := exists_of_bind_eq_ok h
    cases h
    exact .override hfound
  | reference target many =>
    simp only [compileShape] at h
    obtain ⟨found, hfound, h⟩ := exists_of_bind_eq_ok h
    cases found with
    | none => cases h
    | some w =>
      cases h
      exact .reference hfound
  | typed described choices =>
    simp only [compileShape, ofExcept_eq] at h
    obtain ⟨type, htype, h⟩ := exists_of_bind_eq_ok h
    cases h
    exact .typed htype
  | fields inner members =>
    simp only [compileShape] at h
    obtain ⟨found, hfound, h⟩ := exists_of_bind_eq_ok h
    cases h
    exact .fields hfound
  | withDefault shape default =>
    simp only [compileShape] at h
    obtain ⟨found, hfound, h⟩ := exists_of_bind_eq_ok h
    cases found with
    | none => cases h
    | some w =>
      cases h
      exact .withDefault hfound

theorem exists_map_of_compileShape {owner field : Scalar} {required property : Data} {v : Value}
    (h : ctx.compileShape resolve owner field required
      (Shape.ofProperty ctx.extensionKey property) = .ok (some v)) :
    ∃ entries, property = .map entries := by
  cases property with
  | map entries => exact ⟨entries, rfl⟩
  | recurrence isMap =>
    cases isMap <;>
    · simp only [Shape.ofProperty, compileShape] at h
      cases h
  | _ =>
    simp only [Shape.ofProperty, compileShape] at h
    cases h

theorem compileMembers_cons_cases {owner name : Scalar} {required : Data} {shape : Shape}
    {rest : List (Scalar × Shape)} {fields : Entries Value}
    (h : ctx.compileMembers resolve owner required ((name, shape) :: rest) = .ok fields) :
    ∃ more, ctx.compileMembers resolve owner required rest = .ok more ∧
      ((ctx.isReserved name = true ∧ fields = more) ∨
        (ctx.isReserved name = false ∧
          ctx.compileShape resolve owner name required shape = .ok none ∧ fields = more) ∨
        ∃ v, ctx.isReserved name = false ∧
          ctx.compileShape resolve owner name required shape = .ok (some v) ∧
          fields = (name, v) :: more) := by
  simp only [compileMembers] at h
  obtain ⟨found, hfound, h⟩ := exists_of_bind_eq_ok h
  obtain ⟨more, hmore, h⟩ := exists_of_bind_eq_ok h
  refine ⟨more, hmore, ?_⟩
  split at hfound
  · next hname =>
    cases hfound
    exact .inl ⟨hname, (Except.ok.inj h).symm⟩
  · next hname =>
    replace hname := Bool.eq_false_iff.mpr hname
    cases found with
    | none => exact .inr (.inl ⟨hname, hfound, (Except.ok.inj h).symm⟩)
    | some v => exact .inr (.inr ⟨v, hname, hfound, (Except.ok.inj h).symm⟩)

/-- What a definition is embedded as for the field that refers to it: what its items compile to, if
it is an array; its fields, if it is another container; and else what it compiles to as a property
of the field. -/
inductive EmbeddedAs (ctx : Context) (lookup : Scalar → Except Fault Data)
    (resolve : Resolve (Except Fault)) (name field : Scalar) (many : Bool) (node : Data)
    (entries : Entries Data) (r : Option Value) : Prop
  | items {found : Option Value} (hcontainer : isContainer entries = true)
      (harray : (Entries.value entries "type").isText "array" = true)
      (hfound : ctx.compilePropertyWith resolve
        (if (Entries.value entries "items").isTruthy then Entries.value entries "items"
          else .map []) name .null name = .ok found)
      (hr : r = some (.list [found.getD (.scalar .null)])) :
      EmbeddedAs ctx lookup resolve name field many node entries r
  | fields {v : Value} (hcontainer : isContainer entries = true)
      (harray : (Entries.value entries "type").isText "array" = false)
      (hfields : ctx.compileSetWith lookup resolve name node = .ok v)
      (hr : r = some (v.manyOf many)) :
      EmbeddedAs ctx lookup resolve name field many node entries r
  | property {found : Option Value} (hcontainer : isContainer entries = false)
      (hfound : ctx.compilePropertyWith resolve
        (.map (Entries.erase entries (.text ctx.extensionKey))) field .null name = .ok found)
      (hr : r = if many then some (.list [found.getD (.scalar .null)]) else found) :
      EmbeddedAs ctx lookup resolve name field many node entries r

theorem embeddedAs_of_compileTarget {name field : Scalar} {many : Bool} {node : Data}
    {r : Option Value} (h : ctx.compileTarget lookup resolve name field many node = .ok r) :
    ∃ entries, node.members = .ok entries ∧
      ctx.EmbeddedAs lookup resolve name field many node entries r := by
  unfold compileTarget at h
  obtain ⟨entries, hentries, h⟩ := exists_of_bind_eq_ok h
  rw [ofExcept_eq] at hentries
  refine ⟨entries, eq_ok_of_orMisuse hentries, ?_⟩
  split at h
  · next hcontainer =>
    split at h
    · next harray =>
      obtain ⟨found, hfound, h⟩ := exists_of_bind_eq_ok h
      exact .items hcontainer harray hfound (Except.ok.inj h).symm
    · next harray =>
      obtain ⟨v, hv, h⟩ := exists_of_bind_eq_ok h
      exact .fields hcontainer (Bool.eq_false_iff.mpr harray) hv (Except.ok.inj h).symm
  · next hcontainer =>
    obtain ⟨found, hfound, h⟩ := exists_of_bind_eq_ok h
    exact .property (Bool.eq_false_iff.mpr hcontainer) hfound (Except.ok.inj h).symm

end Context

end StoreSchema
