import StoreSchema.Proofs.Meaning
import StoreSchema.Proofs.Merging
import StoreSchema.Proofs.Shapes

set_option autoImplicit false

namespace StoreSchema

namespace Shape

mutual
/-- Every reference of the shape leads to a name of a set, and every extension block of it is of a
kind. -/
def Reads (leads : String → Prop) (blocks : Data → Data → Prop) : Shape → Prop
  | .override extension base _ => blocks extension base
  | .reference target _ => leads target
  | .fields _ members => ReadsMembers leads blocks members
  | .withDefault shape _ => Reads leads blocks shape
  | _ => True

def ReadsMembers (leads : String → Prop) (blocks : Data → Data → Prop) :
    List (Scalar × Shape) → Prop
  | [] => True
  | (_, shape) :: rest => Reads leads blocks shape ∧ ReadsMembers leads blocks rest
end

mutual
theorem reads_any (shape : Shape) : shape.Reads (fun _ => True) fun _ _ => True := by
  match shape with
  | .notMapping _ | .endless | .noFields | .malformed _ | .composed | .typed _ _
  | .override _ _ _ | .reference _ _ => simp only [Reads]
  | .fields _ members => exact readsMembers_any members
  | .withDefault shape _ => exact reads_any shape

theorem readsMembers_any (members : List (Scalar × Shape)) :
    ReadsMembers (fun _ => True) (fun _ _ => True) members := by
  match members with
  | [] => trivial
  | (_, shape) :: rest => exact ⟨reads_any shape, readsMembers_any rest⟩
end

end Shape

namespace Context

/-- Two contexts have the same extension key and reserved fields, and make the same of the extension
blocks of a kind. -/
structure Agrees (ctx ctx' : Context) (blocks : Data → Data → Prop) : Prop where
  extensionKey : ctx.extensionKey = ctx'.extensionKey
  isReserved : ∀ field, ctx.isReserved field = ctx'.isReserved field
  override : ∀ extension base many, blocks extension base →
    ctx.override extension base many = ctx'.override extension base many

/-- The references of fields that are not reserved are treated the same, if they lead to names of a
set. -/
def ResolvesAs {m : Type → Type} (ctx : Context) (leads : String → Prop)
    (resolve resolve' : Resolve m) : Prop :=
  ∀ owner field target many, leads target → ctx.isReserved field = false →
    resolve owner field target many = resolve' owner field target many

/-- Every shape that a node is compiled by reads what is given: as a set of fields, by its items,
and as a property of a field. -/
def NodeReads (key : String) (leads : String → Prop) (blocks : Data → Data → Prop) (node : Data) :
    Prop :=
  ∀ entries, node.members = .ok entries →
    (Shape.ofNode key entries).Reads leads blocks ∧
    (Shape.ofProperty key (Entries.value entries "items")).Reads leads blocks ∧
    (Shape.ofProperty key (.map (Entries.erase entries (.text key)))).Reads leads blocks

variable {ctx ctx' : Context} {leads : String → Prop} {blocks : Data → Data → Prop}

theorem nodeReads_any (key : String) (node : Data) :
    NodeReads key (fun _ => True) (fun _ _ => True) node :=
  fun _ _ => ⟨Shape.reads_any _, Shape.reads_any _, Shape.reads_any _⟩

namespace Agrees

section Shapes

variable {m : Type → Type} [Monad m] [MonadExceptOf Fault m] {resolve resolve' : Resolve m}

mutual
theorem compileShape_eq (h : ctx.Agrees ctx' blocks)
    (hres : ctx.ResolvesAs leads resolve resolve') (owner field : Scalar) (required : Data)
    (hfield : ctx.isReserved field = false) (shape : Shape) (hshape : shape.Reads leads blocks) :
    ctx.compileShape resolve owner field required shape =
      ctx'.compileShape resolve' owner field required shape := by
  match shape with
  | .notMapping _ | .endless | .noFields | .malformed _ | .composed | .typed _ _ =>
    simp only [compileShape]
  | .override extension base many =>
    have hsame := h.override extension base many hshape
    simp only [compileShape, hsame]
  | .reference target many =>
    have hsame := hres owner field target many hshape hfield
    simp only [compileShape, hsame]
  | .fields inner members =>
    have hsame := compileMembers_eq h hres field inner members hshape
    simp only [compileShape, hsame]
  | .withDefault shape _ =>
    have hsame := compileShape_eq h hres owner field required hfield shape hshape
    simp only [compileShape, hsame]

theorem compileMembers_eq (h : ctx.Agrees ctx' blocks)
    (hres : ctx.ResolvesAs leads resolve resolve') (owner : Scalar) (required : Data)
    (members : List (Scalar × Shape)) (hmembers : Shape.ReadsMembers leads blocks members) :
    ctx.compileMembers resolve owner required members =
      ctx'.compileMembers resolve' owner required members := by
  match members with
  | [] => simp only [compileMembers]
  | (name, shape) :: rest =>
    have hrest := compileMembers_eq h hres owner required rest hmembers.2
    simp only [compileMembers, hrest, ← h.isReserved]
    cases hname : ctx.isReserved name with
    | true => rfl
    | false =>
      have hsame := compileShape_eq h hres owner name required hname shape hmembers.1
      simp only [hsame]
end

variable (h : ctx.Agrees ctx' blocks) (hres : ctx.ResolvesAs leads resolve resolve')

include h hres

theorem compilePropertyWith_eq {property : Data}
    (hproperty : (Shape.ofProperty ctx.extensionKey property).Reads leads blocks)
    (field : Scalar) (required : Data) (owner : Scalar) :
    ctx.compilePropertyWith resolve property field required owner =
      ctx'.compilePropertyWith resolve' property field required owner := by
  unfold compilePropertyWith
  rw [← h.isReserved, ← h.extensionKey]
  cases hfield : ctx.isReserved field with
  | true => rfl
  | false => exact h.compileShape_eq hres owner field required hfield _ hproperty

theorem compileNode_eq {shape : Shape} (hshape : shape.Reads leads blocks) (owner : Scalar) :
    ctx.compileNode resolve owner shape = ctx'.compileNode resolve' owner shape := by
  cases shape with
  | fields required members =>
    have hsame := h.compileMembers_eq hres owner required members hshape
    simp only [compileNode, hsame]
  | _ => rfl

end Shapes

section Nodes

variable {lookup lookup' : Scalar → Except Fault Data} {resolve resolve' : Resolve (Except Fault)}
  {node : Data} (h : ctx.Agrees ctx' blocks) (hres : ctx.ResolvesAs leads resolve resolve')

include h hres

theorem compileSetWith_eq (hplain : Composition.isComposed node = false)
    (hnode : NodeReads ctx.extensionKey leads blocks node) (owner : Scalar) :
    ctx.compileSetWith lookup resolve owner node =
      ctx'.compileSetWith lookup' resolve' owner node := by
  unfold compileSetWith
  rw [hplain, if_neg Bool.false_ne_true, if_neg Bool.false_ne_true]
  cases hentries : node.members with
  | error misuse => simp only [orMisuse_error, ofExcept_eq, error_bind]
  | ok entries =>
    simp only [orMisuse_ok, ofExcept_eq, ok_bind, ← h.extensionKey]
    exact h.compileNode_eq hres (hnode entries hentries).1 owner

theorem compileTarget_eq (hplain : Composition.isComposed node = false)
    (hnode : NodeReads ctx.extensionKey leads blocks node)
    (name field : Scalar) (many : Bool) :
    ctx.compileTarget lookup resolve name field many node =
      ctx'.compileTarget lookup' resolve' name field many node := by
  have hfields : ctx.compileSetWith lookup resolve name node =
      ctx'.compileSetWith lookup' resolve' name node :=
    h.compileSetWith_eq hres hplain hnode name
  unfold compileTarget
  cases hentries : node.members with
  | error misuse => simp only [orMisuse_error, ofExcept_eq, error_bind]
  | ok entries =>
    obtain ⟨-, hitems, hproperty⟩ := hnode entries hentries
    have hdeclared : (Shape.ofProperty ctx.extensionKey
        (if (Entries.value entries "items").isTruthy then Entries.value entries "items"
          else .map [])).Reads leads blocks := by
      split
      · exact hitems
      · rw [Shape.ofProperty_empty]
        trivial
    simp only [orMisuse_ok, ofExcept_eq, ok_bind, ← h.extensionKey, hfields,
      h.compilePropertyWith_eq hres hdeclared, h.compilePropertyWith_eq hres hproperty]

theorem compileAdditional_eq (name : Scalar) (properties : Entries Data)
    (hproperties : ∀ e ∈ properties, ∀ entries, e.2.members = .ok entries →
      (Shape.ofProperty ctx.extensionKey (.map [(.text ctx.extensionKey, e.2)])).Reads leads
        blocks) :
    ctx.compileAdditional resolve name properties =
      ctx'.compileAdditional resolve' name properties := by
  induction properties with
  | nil => rfl
  | cons e rest ih =>
    obtain ⟨hfirst, hrest⟩ := List.forall_mem_cons.mp hproperties
    simp only [compileAdditional, ih hrest, ← h.extensionKey]
    cases hentries : e.2.members with
    | error misuse => simp only [orMisuse_error, ofExcept_eq, error_bind]
    | ok entries =>
      simp only [orMisuse_ok, ofExcept_eq, ok_bind,
        h.compilePropertyWith_eq hres (hfirst entries hentries)]

end Nodes

end Agrees

/-- Two contexts agree on the definitions of a set of names, and no reference in any of these leads
out of the set. -/
structure AgreesOn (ctx ctx' : Context) (leads : String → Prop) (blocks : Data → Data → Prop) :
    Prop extends Agrees ctx ctx' blocks where
  requireDefinition : ∀ target, leads target →
    ctx.requireDefinition (.text target) = ctx'.requireDefinition (.text target)
  isSelfReference : ctx.isSelfReference = ctx'.isSelfReference
  normalForm : ∀ target, leads target →
    ctx.normalForm (.text target) = ctx'.normalForm (.text target)
  reads : ∀ target node, leads target → ctx.normalForm (.text target) = .ok node →
    NodeReads ctx.extensionKey leads blocks node

namespace AgreesOn

theorem resolvesAs_resolution (h : ctx.AgreesOn ctx' leads blocks)
    {embed embed' : Embed (Except Fault)}
    (hembed : ∀ field target many, leads target → ctx.isReserved field = false →
      embed field target many = embed' field target many) (stack : List Scalar) :
    ctx.ResolvesAs leads (ctx.resolution embed stack) (ctx'.resolution embed' stack) := by
  intro owner field target many htarget hfield
  have hrequire := h.requireDefinition target htarget
  have hsame := hembed field target many htarget hfield
  simp only [resolution, hrequire, h.isSelfReference, hsame]

/-- The definitions of the set are embedded as the same, however many references are followed. -/
theorem embedAt_eq (h : ctx.AgreesOn ctx' leads blocks) (depth : Nat) :
    ∀ (stack : List Scalar) (field : Scalar) (target : String) (many : Bool), leads target →
      ctx.embedAt depth stack field target many = ctx'.embedAt depth stack field target many := by
  induction depth with
  | zero => exact fun stack field target many _ => rfl
  | succ depth ih =>
    intro stack field target many htarget
    simp only [embedAt, ← h.normalForm target htarget]
    cases hnode : ctx.normalForm (.text target) with
    | error fault => simp only [error_bind]
    | ok node =>
      let inner := stack ++ [Scalar.text target]
      have hres : ctx.ResolvesAs leads (ctx.resolution (ctx.embedAt depth inner) inner)
          (ctx'.resolution (ctx'.embedAt depth inner) inner) :=
        h.resolvesAs_resolution (fun field target many htarget _ =>
          ih inner field target many htarget) inner
      simp only [ok_bind]
      exact h.toAgrees.compileTarget_eq hres (isComposed_normalForm hnode)
        (h.reads target node htarget hnode) _ field many

end AgreesOn

end Context

namespace Data

mutual
/-- Every mapping inside the data, at any depth, is of a kind. -/
def Throughout (kind : Entries Data → Prop) : Data → Prop
  | .map entries => kind entries ∧ ThroughoutEntries kind entries
  | .list items => ThroughoutItems kind items
  | .pair first second _ => Throughout kind first ∧ Throughout kind second
  | _ => True

def ThroughoutItems (kind : Entries Data → Prop) : List Data → Prop
  | [] => True
  | item :: rest => Throughout kind item ∧ ThroughoutItems kind rest

def ThroughoutEntries (kind : Entries Data → Prop) : List (Scalar × Data) → Prop
  | [] => True
  | (_, d) :: rest => Throughout kind d ∧ ThroughoutEntries kind rest
end

variable {kind : Entries Data → Prop} {d : Data} {entries : Entries Data}

theorem throughoutItems_iff {items : List Data} :
    ThroughoutItems kind items ↔ ∀ item ∈ items, item.Throughout kind := by
  induction items with
  | nil => simp [ThroughoutItems]
  | cons item rest ih => simp [ThroughoutItems, ih]

theorem throughoutEntries_iff :
    ThroughoutEntries kind entries ↔ ∀ e ∈ entries, e.2.Throughout kind := by
  induction entries with
  | nil => simp [ThroughoutEntries]
  | cons e rest ih =>
    obtain ⟨name, d⟩ := e
    simp [ThroughoutEntries, ih]

theorem throughout_null : Throughout kind .null := trivial

theorem Throughout.values (h : (Data.map entries).Throughout kind) :
    ∀ e ∈ entries, e.2.Throughout kind :=
  throughoutEntries_iff.mp h.2

theorem Throughout.entry {name : Scalar} {before after : Entries Data}
    (h : (Data.map (before ++ (name, d) :: after)).Throughout kind) : d.Throughout kind :=
  h.values _ (List.mem_append_right before List.mem_cons_self)

theorem Throughout.item {before after : List Data}
    (h : (Data.list (before ++ d :: after)).Throughout kind) : d.Throughout kind :=
  throughoutItems_iff.mp h _ (List.mem_append_right before List.mem_cons_self)

theorem throughout_value (h : ∀ e ∈ entries, e.2.Throughout kind) (name : String) :
    (Entries.value entries name).Throughout kind :=
  Entries.of_value h throughout_null name

theorem Throughout.value (fits : Data → Prop) {name : String} (h : d.Throughout kind)
    (hkind : ∀ entries, kind entries → fits (Entries.value entries name)) (hnull : fits .null) :
    fits (d.value name) := by
  cases d with
  | map entries => exact hkind entries h.1
  | _ => exact hnull

theorem Throughout.throughout_value (h : d.Throughout kind) (name : String) :
    (d.value name).Throughout kind := by
  cases d with
  | map entries => exact Data.throughout_value h.values name
  | _ => exact throughout_null

/-- Properties throughout whose fields a kind holds; the fields may have any names. -/
def FieldsThroughout (kind : Entries Data → Prop) (d : Data) : Prop :=
  d.Throughout kind ∨ ∃ fields, d = .map fields ∧ ∀ e ∈ fields, e.2.Throughout kind

/-- A node throughout which a kind holds, but for the node itself and the mapping of its
properties. -/
structure NodeThroughout (kind : Entries Data → Prop) (entries : Entries Data) : Prop where
  properties : FieldsThroughout kind (Entries.value entries "properties")
  others : ∀ e ∈ entries, e.2.Throughout kind ∨
    e.1 = .text "properties" ∧ Entries.value entries "properties" ≠ .null

theorem FieldsThroughout.of_map {fields : Entries Data} (h : FieldsThroughout kind (.map fields)) :
    ∀ e ∈ fields, e.2.Throughout kind := by
  rcases h with h | ⟨_, heq, h⟩
  · exact h.values
  · cases heq
    exact h

theorem nodeThroughout_of_entries (h : ∀ e ∈ entries, e.2.Throughout kind) :
    NodeThroughout kind entries where
  properties := Or.inl (throughout_value h "properties")
  others e he := Or.inl (h e he)

namespace NodeThroughout

theorem throughout_value (h : NodeThroughout kind entries) {name : String}
    (hname : name ≠ "properties") : (Entries.value entries name).Throughout kind := by
  unfold Entries.value
  cases hget : Entries.get? entries (.text name) with
  | none => exact throughout_null
  | some d =>
    obtain ⟨k, hmem, hk⟩ := Entries.exists_mem_of_get? hget
    rcases h.others _ hmem with hd | ⟨hproperties, -⟩
    · exact hd
    · rw [Scalar.same_text.mp hk] at hproperties
      cases hproperties
      exact absurd rfl hname

theorem erase (h : NodeThroughout kind entries) (key : String) :
    NodeThroughout kind (Entries.erase entries (.text key)) where
  properties := by
    rw [Entries.value_erase]
    split
    · exact Or.inl throughout_null
    · exact h.properties
  others e he := by
    obtain ⟨hmem, hother⟩ := List.mem_filter.mp he
    refine (h.others e hmem).imp id fun ⟨hname, hne⟩ => ⟨hname, ?_⟩
    rw [Entries.value_erase, if_neg]
    · exact hne
    · intro hkey
      rw [hname, Scalar.same_symm hkey] at hother
      cases hother

end NodeThroughout

theorem throughout_items (h : d.Throughout kind) {items : List Data}
    (hitems : d.items = .ok items) : ∀ item ∈ items, item.Throughout kind := by
  have hscalars : ∀ {α : Type} (f : α → Scalar) (l : List α),
      ∀ item ∈ l.map fun a => Data.scalar (f a), item.Throughout kind := by
    intro α f l item hitem
    obtain ⟨a, -, rfl⟩ := List.mem_map.mp hitem
    trivial
  unfold Data.items at hitems
  split at hitems
  all_goals try cases hitems
  · exact throughoutItems_iff.mp h
  · exact hscalars Prod.fst _
  · intro item hitem
    rcases List.mem_cons.mp hitem with rfl | hitem
    · exact h.1
    · rw [List.mem_singleton.mp hitem]
      exact h.2
  · exact hscalars id _
  · intro item hitem
    cases hitem
  · exact hscalars (fun point => .text (String.ofList (Text.Surrogate.hold point))) _
  · exact hscalars (fun byte => .int (UInt8.toNat byte)) _

theorem toEntries_induction {good : Data → Prop} (motive : Entries Data → Prop)
    (hpass : ∀ {d : Data} {items : List Data}, good d → d.items = .ok items →
      ∀ item ∈ items, good item)
    (hmap : ∀ {entries : Entries Data}, good (.map entries) → motive entries) (hnil : motive [])
    (hput : ∀ {start : Entries Data} {k v : Data} {name : Scalar}, motive start → good k →
      k.key = .ok name → good v → motive (Entries.put start name v))
    (hd : good d) (hentries : d.toEntries = .ok entries) : motive entries := by
  unfold Data.toEntries at hentries
  split at hentries
  · cases hentries
    exact hmap hd
  · obtain ⟨items, hitems, hentries⟩ := exists_of_bind_eq_ok hentries
    have hgood := hpass hd hitems
    clear hitems
    generalize ([] : Entries Data) = start at hnil hentries
    induction items generalizing start with
    | nil =>
      cases hentries
      exact hnil
    | cons item rest ih =>
      obtain ⟨hitem, hrest⟩ := List.forall_mem_cons.mp hgood
      rw [List.foldlM_cons] at hentries
      obtain ⟨next, hnext, hentries⟩ := exists_of_bind_eq_ok hentries
      refine ih hrest next ?_ hentries
      obtain ⟨⟨name, v⟩, hpair, hnext⟩ := exists_of_bind_eq_ok hnext
      cases hnext
      obtain ⟨parts, hparts, hpair⟩ := exists_of_bind_eq_ok hpair
      replace hparts := hpass hitem hparts
      split at hpair
      · obtain ⟨name, hname, hpair⟩ := exists_of_bind_eq_ok hpair
        cases hpair
        exact hput hnil (hparts _ (by simp)) hname (hparts _ (by simp))
      · cases hpair

theorem FieldsThroughout.toEntries (h : FieldsThroughout kind d)
    (hentries : d.toEntries = .ok entries) : ∀ e ∈ entries, e.2.Throughout kind := by
  rcases h with h | ⟨fields, rfl, h⟩
  · refine toEntries_induction (fun entries => ∀ e ∈ entries, e.2.Throughout kind)
      (fun h => throughout_items h) Throughout.values (fun e he => by cases he) ?_ h hentries
    intro start k v name hstart _ _ hv
    exact Entries.forall_put (fun _ (d : Data) => d.Throughout kind) (fun _ h => h) hstart hv
  · cases hentries
    exact h

theorem Throughout.members (h : d.Throughout kind) (hentries : d.members = .ok entries) :
    ∀ e ∈ entries, e.2.Throughout kind := by
  rcases eq_of_members hentries with rfl | ⟨-, rfl⟩
  · exact h.values
  · exact fun e he => by cases he

end Data

namespace Composition.Gathered

variable {kind : Entries Data → Prop} {gathered : Gathered} {own : Entries Data}

private theorem throughout_propertiesOf (h : Data.NodeThroughout kind own)
    {properties : Entries Data} (hproperties : propertiesOf own = .ok properties) :
    ∀ e ∈ properties, e.2.Throughout kind := by
  unfold propertiesOf at hproperties
  dsimp only at hproperties
  split at hproperties
  · exact h.properties.toEntries hproperties
  · cases hproperties
    exact fun e he => by cases he

theorem nodeThroughout_finish (hgathered : ∀ e ∈ gathered.properties, e.2.Throughout kind)
    (hown : ∀ e ∈ own, e.2.Throughout kind) : Data.NodeThroughout kind (gathered.finish own) where
  properties := by
    rw [Entries.value, get?_finish_properties]
    split
    · exact Or.inl (Data.throughout_value hown "properties")
    · exact Or.inr ⟨gathered.properties, rfl, hgathered⟩
  others := by
    -- What is put under `properties` is a mapping of a kind of its own.
    let Fits := fun (name : Scalar) (d : Data) =>
      d.Throughout kind ∨ name = .text "properties" ∧ gathered.properties.isEmpty = false
    have hsame : ∀ {k k' : Scalar} {d : Data}, k.same k' = true → Fits k' d → Fits k d := by
      intro k k' d hk hfits
      refine hfits.imp id fun h => ⟨?_, h.2⟩
      rw [h.1] at hk
      exact Scalar.same_text.mp hk
    have hplain : ∀ e ∈ Entries.erase own (.text "allOf"), Fits e.1 e.2 :=
      fun e he => Or.inl (hown e (List.mem_filter.mp he).1)
    have hrequired : (Data.list (gathered.required.map .scalar)).Throughout kind := by
      refine Data.throughoutItems_iff.mpr fun item hitem => ?_
      obtain ⟨name, -, rfl⟩ := List.mem_map.mp hitem
      trivial
    have hproperties : ∀ e ∈ if gathered.properties.isEmpty then
        Entries.erase own (.text "allOf") else Entries.put (Entries.erase own (.text "allOf"))
          (.text "properties") (.map gathered.properties), Fits e.1 e.2 := by
      split
      · exact hplain
      · next hsome =>
        exact Entries.forall_put Fits hsame hplain (Or.inr ⟨rfl, by simpa using hsome⟩)
    have hall : ∀ e ∈ gathered.finish own, Fits e.1 e.2 := by
      unfold finish
      dsimp only
      split
      · exact hproperties
      · exact Entries.forall_put Fits hsame hproperties (Or.inl hrequired)
    intro e he
    refine (hall e he).imp id fun h => ⟨h.1, ?_⟩
    rw [Entries.value, get?_finish_properties, h.2]
    exact fun h => by cases h

end Composition.Gathered

namespace Context

variable {ctx : Context} {kind : Entries Data → Prop} {lookup : Scalar → Except Fault Data}

theorem eq_of_source_inline {fragment node : Data}
    (h : Composition.source fragment = .ok (.inline node)) : node = fragment := by
  unfold Composition.source at h
  obtain ⟨refers, -, h⟩ := exists_of_bind_eq_ok h
  split at h
  · split at h
    · obtain ⟨target, -, h⟩ := exists_of_bind_eq_ok h
      cases h
    · cases h
  · cases h
    rfl

theorem exists_of_source_named {fragment : Data} {target : String}
    (h : Composition.source fragment = .ok (.named target)) :
    ∃ entries, fragment = .map entries ∧
      Pointer.target (Entries.value entries "$ref") = .ok target := by
  unfold Composition.source at h
  obtain ⟨refers, -, h⟩ := exists_of_bind_eq_ok h
  cases refers with
  | false => cases h
  | true =>
    cases fragment with
    | map entries =>
      obtain ⟨found, hfound, h⟩ := exists_of_bind_eq_ok h
      cases h
      exact ⟨entries, rfl, hfound⟩
    | _ => cases h

section Merged

/-- The names of a set: what is registered under one of them is of a kind throughout, and no
composition leads from one of them out of the set. -/
structure Confined (ctx : Context) (kind : Entries Data → Prop) (names : Scalar → Prop) : Prop where
  throughout : ∀ name raw, names name → ctx.rawDefinition name = .ok raw → raw.Throughout kind
  fragments : ∀ entries target, kind entries →
    Pointer.target (Entries.value entries "$ref") = .ok target → names (.text target)

variable {names : Scalar → Prop}

private theorem Confined.gather (h : ctx.Confined kind names)
    (hlookup : ∀ name node entries, names name → lookup name = .ok node →
      node.members = .ok entries → Data.NodeThroughout kind entries)
    {fragments : List Data} (hfragments : ∀ fragment ∈ fragments, fragment.Throughout kind)
    {start gathered : Composition.Gathered} (hstart : ∀ e ∈ start.properties, e.2.Throughout kind)
    (hgather : Context.gather lookup start fragments = .ok gathered) :
    ∀ e ∈ gathered.properties, e.2.Throughout kind := by
  refine Context.gather_induction (fun gathered => ∀ e ∈ gathered.properties, e.2.Throughout kind)
    (fun fragment hmem source node hsource hnode start next hstart hnext => ?_) hstart hgather
  have hfragment := hfragments fragment hmem
  have hentries : ∀ entries, node.members = .ok entries → Data.NodeThroughout kind entries := by
    intro entries hentries
    cases source with
    | named target =>
      obtain ⟨own, rfl, htarget⟩ := exists_of_source_named hsource
      exact hlookup _ node entries (h.fragments own target hfragment.1 htarget) hnode hentries
    | inline own =>
      cases hnode
      rw [eq_of_source_inline hsource] at hentries
      exact Data.nodeThroughout_of_entries (hfragment.members hentries)
  unfold Composition.Gathered.add at hnext
  obtain ⟨entries, hmembers, hnext⟩ := exists_of_bind_eq_ok hnext
  obtain ⟨properties, hproperties, hnext⟩ := exists_of_bind_eq_ok hnext
  obtain ⟨required, -, hnext⟩ := exists_of_bind_eq_ok hnext
  cases hnext
  exact Entries.forall_overlay (fun _ (d : Data) => d.Throughout kind) (fun _ h => h) hstart
    (Composition.Gathered.throughout_propertiesOf (hentries entries hmembers) hproperties)

theorem throughout_fragments {own : Entries Data} (h : ∀ e ∈ own, e.2.Throughout kind)
    {fragments : List Data} (hfragments : Composition.fragments own = .ok fragments) :
    ∀ fragment ∈ fragments, fragment.Throughout kind := by
  unfold Composition.fragments at hfragments
  dsimp only at hfragments
  split at hfragments
  · exact Data.throughout_items (Data.throughout_value h "allOf") hfragments
  · cases hfragments
    exact fun fragment hfragment => by cases hfragment

private theorem Confined.normalAt (h : ctx.Confined kind names) (depth : Nat) :
    ∀ name node entries, names name → ctx.normalAt depth name = .ok node →
      node.members = .ok entries → Data.NodeThroughout kind entries := by
  -- By induction on the depth of the composition, since fragments are normal forms themselves.
  induction depth with
  | zero =>
    intro name node entries _ hnode
    cases hnode
  | succ depth ih =>
    intro name node entries hname hnode hentries
    obtain ⟨raw, hraw, hnode⟩ := exists_of_bind_eq_ok hnode
    rw [ofExcept_eq] at hraw
    have hthroughout := h.throughout name raw hname hraw
    split at hnode
    · obtain ⟨merged, hmerge, hnode⟩ := exists_of_bind_eq_ok hnode
      cases hnode
      cases hentries
      obtain ⟨own, fragments, gathered, hown, hfragments, hgathered, rfl⟩ :=
        exists_gathered_of_merge hmerge
      have hvalues := hthroughout.members hown
      have hlisted := throughout_fragments hvalues hfragments
      exact Composition.Gathered.nodeThroughout_finish
        (h.gather ih hlisted (fun e he => by cases he) hgathered) hvalues
    · cases hnode
      exact Data.nodeThroughout_of_entries (hthroughout.members hentries)

theorem value_normalForm {name : Scalar} {raw node : Data} (hraw : ctx.rawDefinition name = .ok raw)
    (hnode : ctx.normalForm name = .ok node) {word : String}
    (hword : Composition.isMergedKey (.text word) = false) : node.value word = raw.value word := by
  rw [normalForm_eq, readDefinition_of_raw hraw] at hnode
  split at hnode
  · next hcomposed =>
    obtain ⟨entries, hmerge, hnode⟩ := exists_of_bind_eq_ok hnode
    obtain ⟨own, -, gathered, hown, -, -, rfl⟩ := exists_gathered_of_merge hmerge
    cases hnode
    have hkept := Composition.get?_of_kept (gathered.filter_finish own) hword
    cases raw with
    | map entries =>
      cases hown
      simp only [Data.value, Entries.value, hkept]
    | _ => cases hcomposed
  · cases hnode
    rfl

/-- The normal form of a name of the set is of the kind throughout as well. -/
theorem Confined.normalForm (h : ctx.Confined kind names) {name : Scalar} {node : Data}
    {entries : Entries Data} (hname : names name) (hnode : ctx.normalForm name = .ok node)
    (hentries : node.members = .ok entries) : Data.NodeThroughout kind entries :=
  h.normalAt _ name node entries hname hnode hentries

end Merged

end Context

section Shapes

variable {key : String} {leads : String → Prop} {blocks : Data → Data → Prop}

/-- The form leads to a name of a set, or is an extension block of a kind, or neither. -/
def Form.Reads (leads : String → Prop) (blocks : Data → Data → Prop) : Form → Prop
  | .override extension base _ => blocks extension base
  | .reference target _ => leads target
  | _ => True

def Form.EachReads (key : String) (leads : String → Prop) (blocks : Data → Data → Prop)
    (kind : Entries Data → Prop) : Prop :=
  ∀ entries, (Data.map entries).Throughout kind →
    (Form.ofEntries key entries).Reads leads blocks

namespace Shape

theorem reads_withDefaultOf {entries : Entries Data} {shape : Shape} :
    (withDefaultOf entries shape).Reads leads blocks ↔ shape.Reads leads blocks := by
  unfold withDefaultOf
  split
  · simp only [Reads]
  · rfl

/-- A property reads what its form does, and what its fields do if it is an object. -/
theorem reads_of_form {entries : Entries Data}
    (hform : (Form.ofEntries key entries).Reads leads blocks)
    (hnode : (ofNode key entries).Reads leads blocks) :
    (ofProperty key (.map entries)).Reads leads blocks := by
  rw [ofProperty_map, reads_withDefaultOf]
  cases hcase : Form.ofEntries key entries with
  | embedded => exact hnode
  | override _ _ _ | reference _ _ =>
    rw [hcase] at hform
    exact hform
  | _ => trivial

section Throughout

variable {kind : Entries Data → Prop}

mutual
theorem reads_ofProperty (hform : Form.EachReads key leads blocks kind) (d : Data)
    (h : d.Throughout kind) : (ofProperty key d).Reads leads blocks := by
  match d with
  | .map entries => exact reads_of_form (hform entries h) (reads_ofNode hform entries h.values)
  | .recurrence true | .recurrence false => simp only [ofProperty, Reads]
  | .scalar _ | .list _ | .pair _ _ _ | .set _ _ => simp only [ofProperty, Reads]
termination_by 3 * sizeOf d

theorem reads_ofNode (hform : Form.EachReads key leads blocks kind)
    (entries : List (Scalar × Data)) (h : ∀ e ∈ entries, e.2.Throughout kind) :
    (ofNode key entries).Reads leads blocks := by
  have hdirect := reads_members hform true entries h
  rw [ofNode]
  split
  · next properties hmap =>
    have := Entries.sizeOf_lt_of_value hmap
    have hproperties := Data.throughout_value h "properties"
    rw [hmap] at hproperties
    exact reads_members hform false properties hproperties.values
  · split
    · exact hdirect
    · split <;> trivial
  · trivial
  · trivial
termination_by 3 * sizeOf entries + 1
decreasing_by
  all_goals try simp only [Data.map.sizeOf_spec] at this
  all_goals omega

theorem reads_members (hform : Form.EachReads key leads blocks kind) (direct : Bool)
    (entries : List (Scalar × Data)) (h : ∀ e ∈ entries, e.2.Throughout kind) :
    ReadsMembers leads blocks (members key direct entries) := by
  match entries with
  | [] => simp only [members, ReadsMembers]
  | (name, d) :: rest =>
    obtain ⟨hd, hrest⟩ := List.forall_mem_cons.mp h
    have hmore := reads_members hform direct rest hrest
    rw [members]
    split
    · exact hmore
    · exact ⟨reads_ofProperty hform d hd, hmore⟩
termination_by 3 * sizeOf entries
end

theorem reads_ofNode_of_throughout (hform : Form.EachReads key leads blocks kind)
    {entries : Entries Data} (h : Data.NodeThroughout kind entries) :
    (ofNode key entries).Reads leads blocks := by
  rw [ofNode]
  split
  · next properties hmap =>
    have hproperties := h.properties
    rw [hmap] at hproperties
    exact reads_members hform false properties hproperties.of_map
  · next hnull =>
    split
    · refine reads_members hform true entries fun e he => ?_
      exact (h.others e he).resolve_right fun hother => hother.2 hnull
    · split <;> trivial
  · trivial
  · trivial

end Throughout

end Shape

/-- A node that a kind holds throughout reads what every form of a property inside it does, if the
node does so itself as a property. -/
theorem Context.nodeReads_of_throughout {kind : Entries Data → Prop} {node : Data}
    (hform : Form.EachReads key leads blocks kind)
    (hnode : ∀ entries, node.members = .ok entries → Data.NodeThroughout kind entries)
    (hown : ∀ entries, node.members = .ok entries →
      (Form.ofEntries key (Entries.erase entries (.text key))).Reads leads blocks) :
    NodeReads key leads blocks node := by
  intro entries hentries
  have hthroughout := hnode entries hentries
  refine ⟨Shape.reads_ofNode_of_throughout hform hthroughout, ?_, ?_⟩
  · exact Shape.reads_ofProperty hform _ (hthroughout.throughout_value (by decide))
  · exact Shape.reads_of_form (hown entries hentries)
      (Shape.reads_ofNode_of_throughout hform (hthroughout.erase key))

end Shapes

end StoreSchema
