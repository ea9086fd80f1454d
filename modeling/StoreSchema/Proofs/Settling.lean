import StoreSchema.Compile.Definition
import StoreSchema.Proofs.Keys
import StoreSchema.Proofs.Shapes

/-!
Outcomes that settle: a result, or a fault that the definitions are at.

Data are well-shaped if each entry of a mapping, at any depth, fits its key and nothing stands
inside itself. Main statement of this module: what is well-shaped compiles to an outcome that
settles wherever the references in it do.
-/

set_option autoImplicit false

namespace StoreSchema

namespace Data

def HoldsTexts : Data → Prop
  | .list names => ∀ name ∈ names, ∃ s, name = .text s
  | .pair first second _ => (∃ s, first = .text s) ∧ ∃ s, second = .text s
  | _ => True

/-- An extension block: a mapping whose validator, if it names one, is a text. -/
def IsBlock (d : Data) : Prop :=
  ∃ entries, d = .map entries ∧
    ((Entries.value entries "validator").isTruthy = true →
      ∃ s, Entries.value entries "validator" = .text s)

/-- A value that a node may declare under a name. -/
structure Declares (name : Scalar) (d : Data) : Prop where
  properties : name = .text "properties" → d = .null ∨ ∃ entries, d = .map entries
  required : name = .text "required" → d.HoldsTexts

/-- A value that may stand under a name, extension blocks being found under `key`. -/
structure Fits (key : String) (name : Scalar) (d : Data) : Prop extends Declares name d where
  extension : name = .text key → d.isTruthy = true → d.IsBlock

mutual
/-- Every entry at any depth fits its name, and nothing stands inside itself. -/
def WellShaped (key : String) : Data → Prop
  | .list items => WellShapedItems key items
  | .map entries => WellShapedEntries key entries
  | .recurrence _ => False
  | .scalar _ | .pair _ _ _ | .set _ _ => True

def WellShapedItems (key : String) : List Data → Prop
  | [] => True
  | item :: rest => WellShaped key item ∧ WellShapedItems key rest

def WellShapedEntries (key : String) : List (Scalar × Data) → Prop
  | [] => True
  | (name, d) :: rest => Fits key name d ∧ WellShaped key d ∧ WellShapedEntries key rest
end

/-- The entries of a node: well-shaped, and fitting but for what stands in the place of an extension
block of its own. -/
def NodeEntries (key : String) (entries : Entries Data) : Prop :=
  ∀ e ∈ entries, Declares e.1 e.2 ∧ WellShaped key e.2

/-- A definition: a well-shaped mapping whose composition, if it has one, lists mappings. -/
def IsDefinition (key : String) (d : Data) : Prop :=
  ∃ entries, d = .map entries ∧ WellShapedEntries key entries ∧
    ((Entries.value entries "allOf").isTruthy = true →
      ∃ fragments, Entries.value entries "allOf" = .list fragments ∧
        ∀ fragment ∈ fragments, ∃ own, fragment = .map own)

/-- An additional property: a well-shaped extension block. -/
structure IsAdditional (key : String) (d : Data) : Prop where
  isBlock : d.IsBlock
  wellShaped : d.WellShaped key

variable {key : String} {name : Scalar} {d : Data} {entries upper : Entries Data}

private theorem eq_text_of_same {other : Scalar} (hsame : other.same name = true) {s : String}
    (hother : other = .text s) : name = .text s := by
  subst hother
  exact Scalar.same_text.mp (Scalar.same_symm hsame)

theorem Declares.same {other : Scalar} (h : Declares name d) (hsame : other.same name = true) :
    Declares other d where
  properties hother := h.properties (eq_text_of_same hsame hother)
  required hother := h.required (eq_text_of_same hsame hother)

theorem Fits.same {other : Scalar} (h : Fits key name d) (hsame : other.same name = true) :
    Fits key other d where
  toDeclares := h.toDeclares.same hsame
  extension hother := h.extension (eq_text_of_same hsame hother)

theorem Fits.other {s : String} (d : Data) (hproperties : s ≠ "properties")
    (hrequired : s ≠ "required") (hkey : s ≠ key) : Fits key (.text s) d where
  properties h := by
    injection h with h
    exact absurd h hproperties
  required h := by
    injection h with h
    exact absurd h hrequired
  extension h := by
    injection h with h
    exact absurd h hkey

theorem wellShapedItems_iff {items : List Data} :
    WellShapedItems key items ↔ ∀ item ∈ items, WellShaped key item := by
  induction items with
  | nil => simp [WellShapedItems]
  | cons item rest ih => simp [WellShapedItems, ih]

theorem wellShapedEntries_iff :
    WellShapedEntries key entries ↔ ∀ e ∈ entries, Fits key e.1 e.2 ∧ WellShaped key e.2 := by
  induction entries with
  | nil => simp [WellShapedEntries]
  | cons e rest ih =>
    obtain ⟨name, d⟩ := e
    simp [WellShapedEntries, ih, and_assoc]

theorem WellShapedEntries.erase (h : WellShapedEntries key entries) (name : Scalar) :
    WellShapedEntries key (Entries.erase entries name) := by
  rw [wellShapedEntries_iff] at h ⊢
  exact fun e he => h e (List.mem_filter.mp he).1

theorem WellShapedEntries.overlay (h : WellShapedEntries key entries)
    (hupper : WellShapedEntries key upper) :
    WellShapedEntries key (Entries.overlay entries upper) := by
  rw [wellShapedEntries_iff] at h hupper ⊢
  exact Entries.forall_overlay (fun name d => Fits key name d ∧ WellShaped key d)
    (fun hsame ⟨hfits, hd⟩ => ⟨hfits.same hsame, hd⟩) h hupper

theorem WellShapedEntries.get? {s : String} (h : WellShapedEntries key entries)
    (hget : Entries.get? entries (.text s) = some d) : Fits key (.text s) d := by
  obtain ⟨k, hmem, hk⟩ := Entries.exists_mem_of_get? hget
  obtain ⟨hfits, -⟩ := wellShapedEntries_iff.mp h _ hmem
  exact hfits.same (Scalar.same_symm hk)

theorem WellShapedEntries.isBlock (h : WellShapedEntries key entries)
    (htruthy : (Entries.value entries key).isTruthy = true) :
    (Entries.value entries key).IsBlock := by
  unfold Entries.value at htruthy ⊢
  cases hget : Entries.get? entries (.text key) with
  | none =>
    rw [hget] at htruthy
    cases htruthy
  | some d =>
    rw [hget] at htruthy
    exact (h.get? hget).extension rfl htruthy

theorem WellShapedEntries.node (h : WellShapedEntries key entries) : NodeEntries key entries := by
  intro e he
  obtain ⟨hfits, hd⟩ := wellShapedEntries_iff.mp h e he
  exact ⟨hfits.toDeclares, hd⟩

namespace NodeEntries

theorem erase (h : NodeEntries key entries) (name : Scalar) :
    NodeEntries key (Entries.erase entries name) :=
  fun e he => h e (List.mem_filter.mp he).1

theorem put (h : NodeEntries key entries) (hname : Declares name d) (hd : WellShaped key d) :
    NodeEntries key (Entries.put entries name d) :=
  Entries.forall_put (fun name d => Declares name d ∧ WellShaped key d)
    (fun hsame ⟨hother, hd⟩ => ⟨hother.same hsame, hd⟩) h ⟨hname, hd⟩

theorem strip (h : NodeEntries key entries) :
    WellShapedEntries key (Entries.erase entries (.text key)) := by
  rw [wellShapedEntries_iff]
  intro e he
  obtain ⟨hmem, hother⟩ := List.mem_filter.mp he
  obtain ⟨hdeclares, hd⟩ := h e hmem
  refine ⟨{ toDeclares := hdeclares, extension := fun hkey => ?_ }, hd⟩
  rw [hkey, Scalar.same_refl] at hother
  cases hother

theorem get? {s : String} (h : NodeEntries key entries)
    (hget : Entries.get? entries (.text s) = some d) :
    Declares (.text s) d ∧ WellShaped key d := by
  obtain ⟨k, hmem, hk⟩ := Entries.exists_mem_of_get? hget
  obtain ⟨hdeclares, hd⟩ := h _ hmem
  exact ⟨hdeclares.same (Scalar.same_symm hk), hd⟩

theorem value (h : NodeEntries key entries) (s : String) :
    Entries.value entries s = .null ∨
      Declares (.text s) (Entries.value entries s) ∧ WellShaped key (Entries.value entries s) := by
  unfold Entries.value
  cases hget : Entries.get? entries (.text s) with
  | none => exact Or.inl rfl
  | some d => exact Or.inr (h.get? hget)

theorem wellShaped_value (h : NodeEntries key entries) (s : String) :
    WellShaped key (Entries.value entries s) := by
  rcases h.value s with hnull | ⟨-, hd⟩
  · rw [hnull]
    exact trivial
  · exact hd

theorem properties (h : NodeEntries key entries) :
    Entries.value entries "properties" = .null ∨
      ∃ properties, Entries.value entries "properties" = .map properties ∧
        WellShapedEntries key properties := by
  rcases h.value "properties" with hnull | ⟨hdeclares, hd⟩
  · exact Or.inl hnull
  · rcases hdeclares.properties rfl with hnull | ⟨properties, hmap⟩
    · exact Or.inl hnull
    · rw [hmap] at hd
      exact Or.inr ⟨properties, hmap, hd⟩

end NodeEntries

end Data

namespace Context

/-- The definitions, the additional properties and the indexes of a run are well-shaped. -/
structure WellShaped (ctx : Context) : Prop where
  definitions : ∀ e ∈ ctx.definitions, e.2.IsDefinition ctx.extensionKey
  globalAdditional : ∀ e ∈ ctx.extensions.globalAdditional, e.2.IsAdditional ctx.extensionKey
  additional : ∀ facet ∈ ctx.extensions.additional, ∀ e ∈ facet.2,
    e.2.IsAdditional ctx.extensionKey
  indexes : ∀ facet ∈ ctx.extensions.indexes, ∀ e ∈ facet.2, ∃ s, e.1 = .text s

end Context

/-- A fault of the definitions: of a property, a type, a format, a reference or a validator. -/
def Fault.isOfDefinitions : Fault → Bool
  | .propertyNotMapping _ _ _ | .unknownType _ | .noItems | .unknownFormat _
  | .malformedReference _ | .unresolvedReference _ | .validatorNotFound _ _ => true
  | _ => false

variable {α β : Type}

/-- The outcome is a result or a fault of the definitions. -/
def Settles (outcome : Except Fault α) : Prop :=
  ∀ fault, outcome = .error fault → fault.isOfDefinitions = true

theorem settles_ok (v : α) : Settles (.ok v : Except Fault α) := by
  intro fault h
  cases h

theorem settles_error {fault : Fault} (h : fault.isOfDefinitions = true) :
    Settles (.error fault : Except Fault α) := by
  intro fault' heq
  cases heq
  exact h

theorem Settles.bind {a : Except Fault α} {f : α → Except Fault β} (h : Settles a)
    (hf : ∀ v, a = .ok v → Settles (f v)) : Settles (a >>= f) := by
  cases a with
  | error fault => exact settles_error (h fault rfl)
  | ok v => exact hf v rfl

theorem Settles.map {a : Except Fault α} (h : Settles a) (f : α → β) : Settles (a.map f) := by
  cases a with
  | error fault => exact settles_error (h fault rfl)
  | ok v => exact settles_ok _

theorem Settles.ends {a : Except Fault α} (h : Settles a) : Ends a := by
  intro hstuck
  have := h _ hstuck
  cases this

theorem settles_target (reference : Data) : Settles (Pointer.target reference) := by
  unfold Pointer.target
  split
  · split
    · exact settles_ok _
    · exact settles_error rfl
  · exact settles_error rfl

theorem settles_fieldType {key : String} (entries : Entries Data)
    (h : Data.NodeEntries key entries) : Settles (FieldType.ofEntries entries) := by
  rw [FieldType.ofEntries]
  split
  · split
    · dsimp only
      split
      · exact settles_ok _
      · exact settles_error rfl
    · split
      · split
        · next items hitems =>
          have := Entries.sizeOf_lt_of_get? hitems
          have hnode : Data.WellShapedEntries key items := (h.get? hitems).2
          exact (settles_fieldType items hnode.node).map _
        · next hitems => exact absurd (h.get? hitems).2 id
        · exact settles_error rfl
      · split
        · exact settles_ok _
        · exact settles_error rfl
  · exact settles_error rfl
termination_by sizeOf entries
decreasing_by
  simp only [Data.map.sizeOf_spec] at this
  omega

namespace Context

variable {ctx : Context}

theorem settles_requireDefinition (name : Scalar) : Settles (ctx.requireDefinition name) := by
  unfold requireDefinition rawDefinition
  split
  · exact settles_ok _
  · exact settles_error rfl

private theorem settles_validator (name : String) : Settles (ctx.validator (.text name)) := by
  unfold validator
  cases hfound : ctx.validators.lookup name with
  | some function =>
    simp only [Data.key, orMisuse_ok, ok_bind, hfound]
    exact settles_ok _
  | none =>
    simp only [Data.key, orMisuse_ok, ok_bind, hfound]
    exact settles_error rfl

private theorem settles_mapSimple {key : String} {described : Entries Data}
    (h : Data.WellShapedEntries key described) (v : Entries Value) :
    Settles (mapSimple described v) := by
  unfold mapSimple
  split
  · exact (settles_fieldType described h.node).bind fun _ _ => settles_ok _
  · exact settles_ok _

theorem settles_override {extension base : Data} (hblock : extension.IsBlock)
    (hextension : extension.WellShaped ctx.extensionKey) {entries : Entries Data}
    (hbase : base = .map entries) (hentries : Data.WellShapedEntries ctx.extensionKey entries)
    (many : Bool) : Settles (ctx.override extension base many) := by
  obtain ⟨block, rfl, hvalidator⟩ := hblock
  subst hbase
  have hstripped := hentries.erase (.text ctx.extensionKey)
  simp only [override, Data.members, orMisuse_ok, ok_bind]
  split
  · exact (settles_target _).bind fun target _ =>
      (settles_requireDefinition _).bind fun _ _ => settles_ok _
  · split
    · next htruthy =>
      obtain ⟨name, hname⟩ := hvalidator htruthy
      rw [hname]
      exact (settles_validator name).bind fun function _ =>
        (settles_mapSimple hstripped _).bind fun _ _ => settles_ok _
    · exact (settles_mapSimple (hstripped.overlay hextension) _).bind fun _ _ => settles_ok _

mutual
/-- A shape that settles by itself: nothing in it is endless or lacks its fields, and its types and
overrides settle. -/
def Orderly (ctx : Context) : Shape → Prop
  | .notMapping _ | .malformed _ | .composed | .reference _ _ => True
  | .endless | .noFields => False
  | .override extension base many => Settles (ctx.override extension base many)
  | .typed type _ => Settles type
  | .fields _ members => OrderlyMembers ctx members
  | .withDefault shape _ => Orderly ctx shape

def OrderlyMembers (ctx : Context) : List (Scalar × Shape) → Prop
  | [] => True
  | (_, shape) :: rest => Orderly ctx shape ∧ OrderlyMembers ctx rest
end

inductive OrderlyNode (ctx : Context) : Shape → Prop
  | fields (required : Data) {members : List (Scalar × Shape)} (h : ctx.OrderlyMembers members) :
      OrderlyNode ctx (.fields required members)
  | typed {type : Except Fault FieldType} (h : Settles type) (choices : Option (List Data)) :
      OrderlyNode ctx (.typed type choices)

theorem OrderlyNode.orderly {shape : Shape} (h : ctx.OrderlyNode shape) : ctx.Orderly shape := by
  cases h with
  | fields required h => exact h
  | typed h choices => exact h

private theorem orderly_withDefaultOf {entries : Entries Data} {shape : Shape}
    (h : ctx.Orderly shape) : ctx.Orderly (Shape.withDefaultOf entries shape) := by
  unfold Shape.withDefaultOf
  split
  · exact h
  · exact h

theorem orderly_ofForm {entries : Entries Data}
    (h : Data.WellShapedEntries ctx.extensionKey entries) :
    ctx.Orderly (Shape.ofForm entries (Form.ofEntries ctx.extensionKey entries)) := by
  have htype : Settles (FieldType.ofEntries entries) := settles_fieldType entries h.node
  unfold Form.ofEntries
  dsimp only
  split
  · next hown =>
    exact settles_override (h.isBlock hown) (h.node.wellShaped_value _) rfl h false
  · split
    · next hitems =>
      have hbase := h.node.wellShaped_value "items"
      cases hvalue : Entries.value entries "items" with
      | map items =>
        rw [hvalue] at hitems hbase
        have hentries : Data.WellShapedEntries ctx.extensionKey items := hbase
        exact settles_override (hentries.isBlock hitems) (hentries.node.wellShaped_value _) rfl
          hentries true
      | _ => rw [hvalue] at hitems; cases hitems
    · split
      · split <;> trivial
      · split
        · trivial
        · split
          · exact htype
          · split <;> exact htype

mutual
theorem orderly_ofProperty (d : Data) (h : d.WellShaped ctx.extensionKey) :
    ctx.Orderly (Shape.ofProperty ctx.extensionKey d) := by
  match d with
  | .map entries =>
    have hentries : Data.WellShapedEntries ctx.extensionKey entries := h
    have hnode := orderly_ofNode entries hentries.node
    have hform := orderly_ofForm h
    rw [Shape.ofProperty_map]
    apply orderly_withDefaultOf
    split
    · exact hnode.orderly
    · exact hform
  | .scalar _ | .list _ | .pair _ _ _ | .set _ _ =>
    rw [Shape.ofProperty] <;> simp [Orderly]
  | .recurrence _ => exact absurd h id
termination_by 3 * sizeOf d

theorem orderly_ofNode (entries : List (Scalar × Data))
    (h : Data.NodeEntries ctx.extensionKey entries) :
    ctx.OrderlyNode (Shape.ofNode ctx.extensionKey entries) := by
  have hdirect := orderly_members true entries fun e he => (h e he).2
  have htype : Settles (FieldType.ofEntries entries) := settles_fieldType entries h
  rcases h.properties with hnull | ⟨properties, hmap, hproperties⟩
  · rw [Shape.ofNode]
    split
    · next hmap => rw [hnull] at hmap; cases hmap
    · split
      · exact .fields _ hdirect
      · split
        · exact .fields _ trivial
        · exact .typed htype none
    · next hmap => rw [hnull] at hmap; cases hmap
    · next hother _ => exact absurd hnull hother
  · have := Entries.sizeOf_lt_of_value hmap
    rw [Shape.ofNode_of_properties _ hmap]
    have hmembers := fun e he => (hproperties.node e he).2
    exact .fields _ (orderly_members false properties hmembers)
termination_by 3 * sizeOf entries + 1
decreasing_by
  all_goals try simp only [Data.map.sizeOf_spec] at this
  all_goals omega

theorem orderly_members (direct : Bool) (entries : List (Scalar × Data))
    (h : ∀ e ∈ entries, e.2.WellShaped ctx.extensionKey) :
    ctx.OrderlyMembers (Shape.members ctx.extensionKey direct entries) := by
  match entries with
  | [] =>
    rw [Shape.members]
    trivial
  | (name, d) :: rest =>
    obtain ⟨hd, hrest⟩ := List.forall_mem_cons.mp h
    have hmore := orderly_members direct rest hrest
    rw [Shape.members]
    split
    · exact hmore
    · exact ⟨orderly_ofProperty d hd, hmore⟩
termination_by 3 * sizeOf entries
end

section Compiling

variable {resolve : Resolve (Except Fault)} {lookup : Scalar → Except Fault Data}

def SettlesReferences (ctx : Context) (resolve : Resolve (Except Fault)) : Prop :=
  ∀ owner field target many, ctx.isReserved field = false →
    Settles (resolve owner field target many)

mutual
theorem settles_compileShape (hres : ctx.SettlesReferences resolve) (owner : Scalar)
    {field : Scalar} (hfield : ctx.isReserved field = false) (required : Data) (shape : Shape)
    (h : ctx.Orderly shape) : Settles (ctx.compileShape resolve owner field required shape) := by
  match shape with
  | .notMapping _ | .malformed _ =>
    simp only [compileShape]
    exact settles_error rfl
  | .composed =>
    simp only [compileShape]
    exact settles_ok _
  | .override _ _ _ | .typed _ _ =>
    simp only [compileShape, ofExcept_eq]
    exact Settles.bind h fun _ _ => settles_ok _
  | .reference target many =>
    simp only [compileShape]
    exact (hres owner field target many hfield).bind fun _ _ => settles_ok _
  | .fields inner members =>
    simp only [compileShape]
    exact (settles_compileMembers hres field inner members h).bind fun _ _ => settles_ok _
  | .withDefault shape _ =>
    simp only [compileShape]
    exact (settles_compileShape hres owner hfield required shape h).bind fun _ _ => settles_ok _

theorem settles_compileMembers (hres : ctx.SettlesReferences resolve) (owner : Scalar)
    (required : Data) (members : List (Scalar × Shape)) (h : ctx.OrderlyMembers members) :
    Settles (ctx.compileMembers resolve owner required members) := by
  match members with
  | [] =>
    simp only [compileMembers]
    exact settles_ok _
  | (name, shape) :: rest =>
    obtain ⟨hshape, hrest⟩ := h
    simp only [compileMembers]
    refine Settles.bind ?_ fun v _ =>
      (settles_compileMembers hres owner required rest hrest).bind fun more _ => ?_
    · cases hname : ctx.isReserved name with
      | true => exact settles_ok _
      | false => exact settles_compileShape hres owner hname required shape hshape
    · cases v with
      | none => exact settles_ok _
      | some v => exact settles_ok _
end

theorem settles_compilePropertyWith (hres : ctx.SettlesReferences resolve) {property : Data}
    (h : property.WellShaped ctx.extensionKey) (field : Scalar) (required : Data)
    (owner : Scalar) :
    Settles (ctx.compilePropertyWith resolve property field required owner) := by
  unfold compilePropertyWith
  cases hfield : ctx.isReserved field with
  | true => exact settles_ok _
  | false => exact settles_compileShape hres owner hfield required _ (orderly_ofProperty _ h)

theorem settles_compileNode (hres : ctx.SettlesReferences resolve) (owner : Scalar)
    {shape : Shape} (h : ctx.OrderlyNode shape) :
    Settles (ctx.compileNode resolve owner shape) := by
  cases h with
  | fields required h =>
    simp only [compileNode]
    exact (settles_compileMembers hres owner required _ h).bind fun _ _ => settles_ok _
  | typed h choices =>
    simp only [compileNode, ofExcept_eq]
    exact h.bind fun _ _ => settles_ok _

variable {entries : Entries Data}

theorem settles_compileSetWith (hres : ctx.SettlesReferences resolve)
    (h : Data.NodeEntries ctx.extensionKey entries)
    (hplain : Composition.isComposed (.map entries) = false) (owner : Scalar) :
    Settles (ctx.compileSetWith lookup resolve owner (.map entries)) := by
  rw [compileSetWith_map hplain]
  exact settles_compileNode hres owner (orderly_ofNode entries h)

theorem settles_compileTarget (hres : ctx.SettlesReferences resolve)
    (h : Data.NodeEntries ctx.extensionKey entries)
    (hplain : Composition.isComposed (.map entries) = false) (name field : Scalar) (many : Bool) :
    Settles (ctx.compileTarget lookup resolve name field many (.map entries)) := by
  rw [compileTarget_map]
  split
  · split
    · have hitems : Data.WellShaped ctx.extensionKey
          (if (Entries.value entries "items").isTruthy then Entries.value entries "items"
            else .map []) := by
        split
        · exact h.wellShaped_value "items"
        · exact trivial
      exact (settles_compilePropertyWith hres hitems name .null name).bind fun _ _ => settles_ok _
    · exact (settles_compileSetWith hres h hplain name).bind fun _ _ => settles_ok _
  · have hstripped : Data.WellShaped ctx.extensionKey
        (.map (Entries.erase entries (.text ctx.extensionKey))) := h.strip
    exact (settles_compilePropertyWith hres hstripped field .null name).bind
      fun _ _ => settles_ok _

/-- Additional properties settle: each is the extension block of a property of its own. -/
theorem settles_compileAdditional (hres : ctx.SettlesReferences resolve) (name : Scalar)
    {properties : Entries Data}
    (h : ∀ e ∈ properties, e.2.IsAdditional ctx.extensionKey) :
    Settles (ctx.compileAdditional resolve name properties) := by
  induction properties with
  | nil => exact settles_ok _
  | cons e rest ih =>
    obtain ⟨field, property⟩ := e
    obtain ⟨hblock, hshaped⟩ := h _ List.mem_cons_self
    have hrest := ih fun e he => h e (List.mem_cons_of_mem _ he)
    obtain ⟨block, rfl, -⟩ := id hblock
    have hwrapped : Data.WellShaped ctx.extensionKey
        (.map [(.text ctx.extensionKey, .map block)]) := by
      have hfits : Data.Fits ctx.extensionKey (.text ctx.extensionKey) (.map block) :=
        { properties := fun _ => Or.inr ⟨block, rfl⟩
          required := fun _ => trivial
          extension := fun _ _ => hblock }
      exact ⟨hfits, hshaped, trivial⟩
    simp only [compileAdditional, Data.members, orMisuse_ok, ofExcept_eq, ok_bind]
    refine (settles_compilePropertyWith hres hwrapped field _ name).bind fun v _ =>
      hrest.bind fun more _ => ?_
    cases v with
    | none => exact settles_ok _
    | some v => exact settles_ok _

private theorem keyFaults_texts {α : Type} (field : String) {fields : Entries α}
    (h : ∀ e ∈ fields, ∃ s, e.1 = .text s) : Index.keyFaults field fields = [] := by
  rw [Index.keyFaults, List.flatMap_eq_nil_iff]
  intro e he
  obtain ⟨s, hs⟩ := h e he
  rw [hs]
  rfl

private theorem ofEntries_texts {fields : Entries Data} (h : ∀ e ∈ fields, ∃ s, e.1 = .text s) :
    ∀ e ∈ Value.ofEntries fields, ∃ s, e.1 = .text s := by
  induction fields with
  | nil => exact fun e he => by cases he
  | cons field rest ih =>
    obtain ⟨key, d⟩ := field
    intro e he
    rcases List.mem_cons.mp he with rfl | he
    · exact h (key, d) List.mem_cons_self
    · exact ih (fun e he => h e (List.mem_cons_of_mem _ he)) e he

theorem settles_indexFor (hctx : ctx.WellShaped) (name : Scalar) :
    Settles (ctx.extensions.indexFor name) := by
  have hdeclared : ∀ e ∈ (Entries.get? ctx.extensions.indexes name).getD [],
      ∃ s, e.1 = .text s := by
    cases hget : Entries.get? ctx.extensions.indexes name with
    | none => exact fun e he => by cases he
    | some declared =>
      obtain ⟨key, hmem, -⟩ := Entries.exists_mem_of_get? hget
      exact hctx.indexes _ hmem
  unfold Extensions.indexFor
  dsimp only
  split
  · exact settles_ok _
  · next hfields =>
    have hfields' : ∀ e ∈ Entries.erase ((Entries.get? ctx.extensions.indexes name).getD [])
        (.text "unique"), ∃ s, e.1 = .text s :=
      fun e he => hdeclared e (List.mem_filter.mp he).1
    unfold Index.make
    rw [keyFaults_texts "fields" (ofEntries_texts hfields')]
    cases hleft : Entries.erase ((Entries.get? ctx.extensions.indexes name).getD [])
        (.text "unique") with
    | nil =>
      rw [hleft] at hfields
      exact absurd rfl hfields
    | cons field rest => exact settles_ok _

theorem settles_compileDefinitionWith (hctx : ctx.WellShaped)
    (hres : ctx.SettlesReferences resolve) {fields : Except Fault Value} (hfields : Settles fields)
    (name : Scalar) : Settles (ctx.compileDefinitionWith fields resolve name) := by
  have hadditional : ∀ e ∈ ctx.extensions.additionalFor name,
      e.2.IsAdditional ctx.extensionKey := by
    refine Entries.forall_overlay (fun _ d => Data.IsAdditional ctx.extensionKey d)
      (fun _ h => h) hctx.globalAdditional ?_
    cases hget : Entries.get? ctx.extensions.additional name with
    | none => exact fun e he => by cases he
    | some declared =>
      obtain ⟨key, hmem, -⟩ := Entries.exists_mem_of_get? hget
      exact hctx.additional _ hmem
  unfold compileDefinitionWith
  split
  · exact settles_ok _
  · refine hfields.bind fun properties _ => ?_
    refine (settles_compileAdditional hres name hadditional).bind fun additional _ => ?_
    rw [ofExcept_eq]
    exact (settles_indexFor hctx name).bind fun index _ => settles_ok _

theorem settles_compileEach {compile : Scalar → Except Fault (Option Compiled)}
    (h : ∀ name, Settles (compile name)) (names : List Scalar) :
    Settles (compileEach compile names) := by
  induction names with
  | nil => exact settles_ok _
  | cons name rest ih => exact (h name).bind fun _ _ => ih.bind fun _ _ => settles_ok _

end Compiling

end Context

end StoreSchema
