import StoreSchema.Proofs.Blocks
import StoreSchema.Proofs.ListDepth
import StoreSchema.Proofs.Intake
import StoreSchema.Proofs.Stripped

/-!
The arrays that a field of a compiled definition keeps.

What a definition is embedded as is followed by induction on the references that may still follow
one another. Main statement of this module: on a way along which no array is lost or added, as many
lists stand around what a property compiles to as it declares arrays.
-/

set_option autoImplicit false

namespace StoreSchema

namespace Context

variable {ctx : Context} {s : Position}

section Alike

variable {s' t : Position}

structure RefersAlike (s s' : Position) : Prop where
  stack : s'.stack = s.stack
  owner : s'.owner = s.owner
  target : s'.target? = s.target?
  plain : s.isArray = false
  plain' : s'.isArray = false

private theorem RefersAlike.symm (h : RefersAlike s s') : RefersAlike s' s :=
  ⟨h.stack.symm, h.owner.symm, h.target.symm, h.plain', h.plain⟩

private theorem RefersAlike.leadsTo (h : RefersAlike s s') {target : String}
    (hleads : ctx.LeadsTo s target t) : ctx.LeadsTo s' target t := by
  obtain ⟨htarget, hforeign, hnode, hentries⟩ := hleads
  rw [← h.stack]
  refine .inside (h.target.trans htarget) ?_ hnode hentries
  rw [h.owner, h.stack]
  exact hforeign

private theorem RefersAlike.arrayDepth (h : RefersAlike s s') {depth : Nat}
    (hdepth : ctx.ArrayDepth s depth) : ctx.ArrayDepth s' depth := by
  cases hdepth with
  | other htarget _ => exact .other (h.target.trans htarget) h.plain'
  | back htarget hback =>
    refine .back (h.target.trans htarget) ?_
    rw [h.owner, h.stack]
    exact hback
  | reference hleads hdepth => exact .reference (h.leadsTo hleads) hdepth
  | bare _ harray _ | array _ harray _ _ => cases h.plain.symm.trans harray

private theorem RefersAlike.keepsArrays (h : RefersAlike s s') (hkeeps : ctx.KeepsArrays s)
    (halone : s'.target? ≠ none → Entries.value s'.node "type" = .null ∧
      (Entries.value s'.node "items").isMap = false ∧ isContainer s'.node = false) :
    ctx.KeepsArrays s' := by
  intro u hreach
  rcases Relation.ReflTransGen.cases_head hreach with rfl | ⟨next, hnext, hreach⟩
  · refine ⟨halone, fun harray => ?_, fun target t hleads => ?_⟩
    · cases h.plain'.symm.trans harray
    · exact hkeeps.here.whole target t (h.symm.leadsTo hleads)
  · cases hnext with
    | items harray _ => cases h.plain'.symm.trans harray
    | reference hleads => exact hkeeps u (.head (.reference (h.symm.leadsTo hleads)) hreach)

end Alike

private theorem type_of_not_container {entries : Entries Data} (h : isContainer entries = false) :
    (Entries.value entries "type").isText "array" = false := by
  unfold isContainer at h
  split at h
  · next hnull =>
    rw [hnull]
    rfl
  · exact (Bool.or_eq_false_iff.mp h).1

private theorem exists_raw_of_normalForm {name : Scalar} {node : Data}
    (h : ctx.normalForm name = .ok node) : ∃ raw, ctx.rawDefinition name = .ok raw := by
  cases hraw : ctx.rawDefinition name with
  | error fault =>
    rw [normalForm_of_unregistered hraw] at h
    cases h
  | ok raw => exact ⟨raw, rfl⟩

private theorem refersAlike_erase {target : String} {node : Data}
    (hdefinitions : ∀ e ∈ ctx.definitions, e.2.Blockless ctx.extensionKey)
    (hnode : ctx.normalForm (.text target) = .ok node) (hentries : node.members = .ok s.node)
    (hcontainer : isContainer s.node = false) :
    RefersAlike (s.withNode (Entries.erase s.node (.text ctx.extensionKey))) s := by
  have harray := type_of_not_container hcontainer
  refine ⟨rfl, rfl, ?_, ?_, harray⟩
  · by_cases hkey : ctx.extensionKey = "$ref"
    · have hfalsy : (Entries.value s.node "$ref").isTruthy = false := by
        obtain ⟨raw, hraw⟩ := exists_raw_of_normalForm hnode
        obtain ⟨_, hmem, -⟩ := exists_key_of_rawDefinition hraw
        rw [Data.value_of_members hentries, value_normalForm hraw hnode (by decide), ← hkey]
        exact Data.isTruthy_value_of_throughout
          ((Data.blockless_iff_throughout raw).mp (hdefinitions _ hmem))
      have hnone : Entries.value (Entries.erase s.node (.text ctx.extensionKey)) "$ref" =
          .null := by
        rw [Entries.value_erase, hkey, if_pos (Scalar.same_refl _)]
      rw [Position.target?_of_falsy hfalsy, Position.target?, Position.withNode, hnone]
      rfl
    · rw [Position.target?, Position.target?, Position.withNode,
        Entries.value_erase_word hkey]
  · unfold Position.isArray Position.withNode
    rw [Entries.value_erase]
    split
    · rfl
    · exact harray

private theorem alone_erase (hkeeps : ctx.KeepsArrays s) (key : Scalar)
    (htarget : s.target? ≠ none) :
    Entries.value (Entries.erase s.node key) "type" = .null ∧
      (Entries.value (Entries.erase s.node key) "items").isMap = false ∧
      isContainer (Entries.erase s.node key) = false := by
  obtain ⟨htype, hitems, hcontainer⟩ := hkeeps.here.alone htarget
  have hnull : Entries.value (Entries.erase s.node key) "type" = .null := by
    rw [Entries.value_erase, htype, ite_self]
  have habsent : ∀ word, Entries.has s.node (.text word) = false →
      Entries.has (Entries.erase s.node key) (.text word) = false := by
    intro word hword
    unfold Entries.has at hword ⊢
    cases hkey : key.same (.text word) with
    | true =>
      rw [← Entries.get?_same hkey, Entries.get?_erase_same]
      rfl
    | false =>
      rw [Entries.get?_erase_other hkey]
      exact hword
  refine ⟨hnull, ?_, ?_⟩
  · rw [Entries.value_erase]
    split
    · rfl
    · exact hitems
  · rw [isContainer, htype] at hcontainer
    obtain ⟨hproperties, hcomposition⟩ := Bool.or_eq_false_iff.mp hcontainer
    rw [isContainer, hnull]
    exact Bool.or_eq_false_iff.mpr ⟨habsent _ hproperties, habsent _ hcomposition⟩

private theorem isObject_of_container {entries : Entries Data} (h : isContainer entries = true)
    (harray : (Entries.value entries "type").isText "array" = false) : IsObject entries := by
  unfold isContainer at h
  split at h
  · next hnull =>
    left
    rw [hnull]
    rfl
  · rw [harray] at h
    exact Or.inr h

section Target

variable {resolve : Resolve (Except Fault)} {lookup : Scalar → Except Fault Data} {field : Scalar}
  {many : Bool} {v : Value} {target : String} {node : Data}

/-- What is left out of an array definition declares no array. -/
def WholeAt (ctx : Context) (target : String) (s : Position) : Prop :=
  ctx.LeavesOut target → (Entries.value s.node "items").isMap = true →
    ∃ items, Entries.value s.node "items" = .map items ∧ ctx.ArrayDepth (s.withNode items) 0

private theorem listDepth_of_no_items {declared : Data} {owner : Scalar}
    (hmap : declared.isMap = false) {found : Option Value}
    (h : ctx.compilePropertyWith resolve (if declared.isTruthy then declared else .map []) field
      .null owner = .ok found) : (found.getD (.scalar .null)).listDepth = 0 := by
  unfold compilePropertyWith at h
  split at h
  · cases h
    rfl
  split at h
  · cases declared with
    | map entries => cases hmap
    | recurrence isMap =>
      obtain rfl : isMap = false := hmap
      simp only [Shape.ofProperty, compileShape] at h
      cases h
    | _ =>
      simp only [Shape.ofProperty, compileShape] at h
      cases h
  · rw [Shape.ofProperty_empty] at h
    simp only [compileShape, compileMembers] at h
    cases h
    rfl

private theorem exists_items_of_some {declared : Data} {owner : Scalar}
    (hmap : declared.isMap = true)
    (h : ctx.compilePropertyWith resolve (if declared.isTruthy then declared else .map []) field
      .null owner = .ok (some v)) :
    ∃ items, declared = .map items ∧
      ctx.compilePropertyWith resolve (.map items) field .null owner = .ok (some v) := by
  cases declared with
  | map items =>
    refine ⟨items, rfl, ?_⟩
    split at h
    · exact h
    · next hfalsy =>
      rw [Data.eq_nil_of_falsy (Bool.eq_false_iff.mpr hfalsy)]
      exact h
  | recurrence isMap =>
    obtain rfl : isMap = true := hmap
    have htruthy : (Data.recurrence true).isTruthy = true := rfl
    rw [if_pos htruthy] at h
    unfold compilePropertyWith at h
    split at h
    · cases h
    · obtain ⟨entries, hmapping⟩ := exists_map_of_compileShape h
      cases hmapping
  | _ => cases hmap

variable (hblocks : ctx.Unextended) (hresolve : ctx.ResolvesTo True (fun _ => True) resolve)
  (harrays : ctx.ResolvesArrays s.stack resolve) (hkeeps : ctx.KeepsArrays s)
  (howner : s.owner = .text target) (hnode : ctx.normalForm (.text target) = .ok node)
  (hentries : node.members = .ok s.node)

include hblocks hresolve harrays hkeeps howner hnode hentries

private theorem arrayDepth_of_items (harray : s.isArray = true) (hwhole : ctx.WholeAt target s)
    {found : Option Value}
    (h : ctx.compilePropertyWith resolve
      (if (Entries.value s.node "items").isTruthy then Entries.value s.node "items" else .map [])
      (.text target) .null (.text target) = .ok found) :
    ctx.ArrayDepth s ((found.getD (.scalar .null)).listDepth + 1) := by
  have hcontainer : isContainer s.node = true := by
    unfold isContainer
    split
    · next hnull =>
      rw [Position.isArray, hnull] at harray
      cases harray
    · exact Bool.or_eq_true_iff.mpr (Or.inl harray)
  have hnone := hkeeps.target?_of_container hcontainer
  obtain ⟨-, hplain, -⟩ := hblocks.definitions (.text target) node s.node hnode hentries
  cases hmap : (Entries.value s.node "items").isMap with
  | false =>
    -- Where no items are declared, those of the array are an object without fields.
    rw [listDepth_of_no_items hmap h]
    exact .bare hnone harray hmap
  | true =>
    cases found with
    | none =>
      have hout : ctx.LeavesOut target := by
        refine ⟨node, s.node, hnode, hentries, harray, ?_⟩
        split at h
        · exact eq_composition_of_none hresolve hplain h
        · rcases eq_composition_of_none hresolve (by rw [Shape.ofProperty_empty]; trivial) h with
            hreserved | hcomposition
          · exact Or.inl hreserved
          · cases hcomposition
      obtain ⟨items, hitems, hdepth⟩ := hwhole hout hmap
      exact .array hnone harray hitems hdepth
    | some w =>
      obtain ⟨items, hitems, h⟩ := exists_items_of_some hmap h
      rw [hitems] at hplain
      rw [← howner] at h
      exact .array hnone harray hitems
        (arrayDepth_of_compileProperty hresolve harrays hplain
          (hkeeps.next (.items harray hitems)) h)

private theorem arrayDepth_of_compileTarget
    (hdefinitions : ∀ e ∈ ctx.definitions, e.2.Blockless ctx.extensionKey)
    (hwhole : ctx.WholeAt target s) (hmany : many = true → s.isArray = false)
    (hfield : ctx.isReserved field = false)
    (h : ctx.compileTarget lookup resolve (.text target) field many node = .ok (some v)) :
    ∃ depth, ctx.ArrayDepth s depth ∧ v.listDepth = depth + many.toNat := by
  obtain ⟨entries, hown, hembedded⟩ := embeddedAs_of_compileTarget h
  obtain rfl : s.node = entries := Except.ok.inj (hentries.symm.trans hown)
  obtain ⟨-, -, hproperty⟩ := hblocks.definitions (.text target) node s.node hnode hentries
  cases hembedded with
  | items hcontainer harray hfound hr =>
    cases hr
    have hone : many = false := by
      cases many with
      | true => cases (hmany rfl).symm.trans harray
      | false => rfl
    subst hone
    exact ⟨_, arrayDepth_of_items hblocks hresolve harrays hkeeps howner hnode hentries harray
      hwhole hfound, rfl⟩
  | @fields w hcontainer harray hw hr =>
    cases hr
    have hnone := hkeeps.target?_of_container hcontainer
    have hobject := isObject_of_container hcontainer harray
    have hzero : w.listDepth = 0 := by
      unfold compileSetWith at hw
      rw [isComposed_normalForm hnode, if_neg Bool.false_ne_true, ofExcept_eq, hentries] at hw
      exact listDepth_of_compileNode hobject hw
    refine ⟨0, .other hnone harray, ?_⟩
    cases many with
    | true => exact congrArg (· + 1) hzero
    | false => exact hzero
  | @property found hcontainer hfound hr =>
    have hstripped := refersAlike_erase hdefinitions hnode hentries hcontainer
    have hkeeps' := hstripped.symm.keepsArrays hkeeps fun htarget =>
      alone_erase hkeeps _ (hstripped.target ▸ htarget)
    have hdepth : ctx.ArrayDepth s (found.getD (.scalar .null)).listDepth := by
      apply hstripped.arrayDepth
      cases found with
      | none =>
        rcases eq_composition_of_none hresolve hproperty hfound with hreserved | hcomposition
        · cases hfield.symm.trans hreserved
        · exact .other (Position.target?_of_referenceOf (Bool.and_eq_true_iff.mp hcomposition).2)
            hstripped.plain
      | some w =>
        rw [← howner] at hfound
        exact arrayDepth_of_compileProperty hresolve harrays hproperty hkeeps' hfound
    refine ⟨_, hdepth, ?_⟩
    cases many with
    | true =>
      cases hr
      rfl
    | false =>
      obtain rfl : some v = found := hr
      rfl

end Target

section Run

variable (hblocks : ctx.Unextended)
  (hdefinitions : ∀ e ∈ ctx.definitions, e.2.Blockless ctx.extensionKey)

include hblocks hdefinitions

private theorem resolvesArrays_embedAt (depth : Nat) : ∀ stack : List Scalar,
    ctx.ResolvesArrays stack (ctx.resolution (ctx.embedAt depth stack) stack) := by
  have hplain : ∀ target, True → ctx.PlainAt (fun _ => True) (.text target) := fun target _ =>
    hblocks.definitions (.text target)
  -- By induction on the references that may still follow one another: those of the definition that
  -- is embedded are resolved with one less.
  induction depth with
  | zero =>
    intro stack s field target many v hstack htarget _ _ _ h
    obtain ⟨-, -, h⟩ := exists_of_bind_eq_ok h
    split at h
    · next hself =>
      cases h
      exact ⟨0, .back htarget (hstack ▸ hself), by cases many <;> rfl⟩
    · cases h
  | succ depth ih =>
    intro stack s field target many v hstack htarget hfield hkeeps hmany h
    obtain ⟨-, -, h⟩ := exists_of_bind_eq_ok h
    split at h
    · next hself =>
      cases h
      exact ⟨0, .back htarget (hstack ▸ hself), by cases many <;> rfl⟩
    next hforeign =>
    subst hstack
    obtain ⟨node, hnode, h⟩ := exists_of_bind_eq_ok h
    obtain ⟨entries, hentries, -⟩ := embeddedAs_of_compileTarget h
    have hleads : ctx.LeadsTo s target ⟨s.stack ++ [.text target], .text target, entries⟩ :=
      .inside htarget (Bool.eq_false_iff.mpr hforeign) hnode hentries
    have hresolve : ctx.ResolvesTo True (fun _ => True)
        (ctx.resolution (ctx.embedAt depth (s.stack ++ [.text target]))
          (s.stack ++ [.text target])) :=
      resolvesTo_embedAt hplain (fun _ _ _ => trivial) depth _
    obtain ⟨arrays, harrays, hlists⟩ := arrayDepth_of_compileTarget hblocks hresolve (ih _)
      (hkeeps.next (.reference hleads)) rfl hnode hentries hdefinitions
      (hkeeps.here.whole target _ hleads) (fun h => hmany h _ hleads) hfield h
    exact ⟨arrays, .reference hleads harrays, hlists⟩

/-- On a way along which no array is lost or added, a property compiles to as many lists as it
declares arrays. -/
theorem arrayDepth_compilePropertyWith
    (hshape : (Shape.ofProperty ctx.extensionKey (.map s.node)).Plain fun _ => True)
    (hkeeps : ctx.KeepsArrays s) {field : Scalar} {required : Data} {v : Value}
    (h : ctx.compilePropertyWith (ctx.meaning s.stack) (.map s.node) field required s.owner =
      .ok (some v)) : ctx.ArrayDepth s v.listDepth :=
  arrayDepth_of_compileProperty
    (resolvesTo_meaning (fun target _ => hblocks.definitions (.text target))
      (fun _ _ _ => trivial) s.stack)
    (resolvesArrays_embedAt hblocks hdefinitions ctx.referenceBound s.stack) hshape hkeeps h

end Run

section Fields

variable {resolve : Resolve (Except Fault)} {owner : Scalar} {required : Data}

private theorem exists_shape_of_mem {members : List (Scalar × Shape)} {fields : Entries Value}
    (h : ctx.compileMembers resolve owner required members = .ok fields) :
    ∀ e ∈ fields, ∃ shape, (e.1, shape) ∈ members ∧ ctx.isReserved e.1 = false ∧
      ctx.compileShape resolve owner e.1 required shape = .ok (some e.2) := by
  induction members generalizing fields with
  | nil =>
    simp only [compileMembers] at h
    cases h
    exact fun e he => by cases he
  | cons member rest ih =>
    obtain ⟨name, shape⟩ := member
    obtain ⟨more, hmore, hcases⟩ := compileMembers_cons_cases h
    have hrest : ∀ e ∈ more, ∃ shape', (e.1, shape') ∈ (name, shape) :: rest ∧
        ctx.isReserved e.1 = false ∧
          ctx.compileShape resolve owner e.1 required shape' = .ok (some e.2) := by
      intro e he
      obtain ⟨shape', hmem, hrest⟩ := ih hmore e he
      exact ⟨shape', List.mem_cons_of_mem _ hmem, hrest⟩
    obtain ⟨-, rfl⟩ | ⟨-, -, rfl⟩ | ⟨v, hopen, hv, rfl⟩ := hcases
    · exact hrest
    · exact hrest
    · exact List.forall_mem_cons.mpr ⟨⟨shape, List.mem_cons_self, hopen, hv⟩, hrest⟩

end Fields

end Context

namespace Shape

/-- A property is declared by a node: under `properties`, or directly for want of those. -/
def Declares (key : String) (node : Entries Data) (name : Scalar) (property : Data) : Prop :=
  (∃ properties, Entries.value node "properties" = .map properties ∧
      (name, property) ∈ properties) ∨
    Entries.value node "properties" = .null ∧ (name, property) ∈ node ∧
      isDirectField key name property = true

private theorem exists_of_mem_members {key : String} {direct : Bool} {entries : Entries Data}
    {name : Scalar} {shape : Shape} (h : (name, shape) ∈ members key direct entries) :
    ∃ property, (name, property) ∈ entries ∧ shape = ofProperty key property ∧
      (direct = true → isDirectField key name property = true) := by
  induction entries with
  | nil =>
    simp only [members] at h
    cases h
  | cons e rest ih =>
    obtain ⟨k, d⟩ := e
    have hlater : (name, shape) ∈ members key direct rest →
        ∃ property, (name, property) ∈ (k, d) :: rest ∧ shape = ofProperty key property ∧
          (direct = true → isDirectField key name property = true) := by
      intro h
      obtain ⟨property, hmem, hshape⟩ := ih h
      exact ⟨property, List.mem_cons_of_mem _ hmem, hshape⟩
    simp only [members] at h
    split at h
    · exact hlater h
    · next hlisted =>
      rcases List.mem_cons.mp h with heq | h
      · cases heq
        refine ⟨d, List.mem_cons_self, rfl, ?_⟩
        rintro rfl
        simpa using hlisted
      · exact hlater h

private theorem exists_declares {key : String} {node : Entries Data} {required : Data}
    {members : List (Scalar × Shape)} (hnode : ofNode key node = .fields required members)
    {name : Scalar} {shape : Shape} (h : (name, shape) ∈ members) :
    ∃ property, Declares key node name property ∧ shape = ofProperty key property := by
  rw [ofNode] at hnode
  split at hnode
  · next properties hproperties =>
    cases hnode
    obtain ⟨property, hmem, hshape, -⟩ := exists_of_mem_members h
    exact ⟨property, Or.inl ⟨properties, hproperties, hmem⟩, hshape⟩
  · next hnull =>
    split at hnode
    · cases hnode
      obtain ⟨property, hmem, hshape, hdirect⟩ := exists_of_mem_members h
      exact ⟨property, Or.inr ⟨hnull, hmem, hdirect rfl⟩, hshape⟩
    · split at hnode
      · cases hnode
        cases h
      · cases hnode
  · cases hnode
  · cases hnode

end Shape

namespace Context

variable {ctx : Context}

def DeclaresField (ctx : Context) (definition field : Scalar) (property : Data) : Prop :=
  ∃ node entries, ctx.normalForm definition = .ok node ∧ node.members = .ok entries ∧
    Shape.Declares ctx.extensionKey entries field property

private theorem exists_property_of_field (hblocks : ctx.Unextended) {name : Scalar} {c : Compiled}
    (hc : ctx.definitionMeaning [] name = .ok (some c)) {fields : Entries Value}
    (hfields : c.properties = .embedded fields) {e : Scalar × Value} (he : e ∈ fields) :
    ∃ property required, ctx.DeclaresField c.name e.1 (.map property) ∧
      (Shape.ofProperty ctx.extensionKey (.map property)).Plain (fun _ => True) ∧
      ctx.compilePropertyWith (ctx.meaning [c.name]) (.map property) e.1 required c.name =
        .ok (some e.2) := by
  obtain ⟨-, own, added, hassembles⟩ := exists_of_definitionMeaning hc
  have hadditional := hassembles.additional
  rw [hblocks.additional] at hadditional
  cases hadditional
  have hown : own = .embedded fields := by
    rw [← hfields, hassembles.properties]
    cases own <;> rfl
  subst hown
  obtain ⟨node, hnode, hset⟩ := exists_of_bind_eq_ok hassembles.own
  unfold compileSetWith at hset
  rw [isComposed_normalForm hnode, if_neg Bool.false_ne_true, ofExcept_eq] at hset
  obtain ⟨entries, hentries, hset⟩ := exists_of_bind_eq_ok hset
  replace hentries := eq_ok_of_orMisuse hentries
  obtain ⟨hplain, -, -⟩ := hblocks.definitions c.name node entries hnode hentries
  unfold compileNode at hset
  split at hset
  · next required members hmembers =>
    obtain ⟨found, hfound, hset⟩ := exists_of_bind_eq_ok hset
    cases hset
    obtain ⟨shape, hmem, hopen, hcompiled⟩ := exists_shape_of_mem hfound e he
    obtain ⟨property, hdeclares, rfl⟩ := Shape.exists_declares hmembers hmem
    rw [hmembers] at hplain
    have hshape := Shape.plainMembers_iff.mp hplain _ hmem
    obtain ⟨property, rfl⟩ := exists_map_of_compileShape hcompiled
    refine ⟨property, required, ⟨node, entries, hnode, hentries, hdeclares⟩, hshape, ?_⟩
    rw [compilePropertyWith, hopen, if_neg Bool.false_ne_true]
    exact hcompiled
  · obtain ⟨_, -, hset⟩ := exists_of_bind_eq_ok hset
    cases hset
  · cases hset
  · cases hset

end Context

namespace Session

variable {session : Session} {source : Source} {document : Entries Data} {key : String}
  {ctx : Context}

/-- In a document without extension blocks as many lists stand around what a property compiles to
as it declares arrays, wherever it is compiled, and so around every field of a compiled definition:
provided that on the way through items and references a reference stands alone, the items of an
array refer to no array, and no array definition leaves an array out. -/
theorem compileDefinitions_listDepth (hdecode : Document.decode source = .ok document)
    (hshares : ∀ sharing, source.sharing = some sharing → Document.Shares key document sharing)
    (hne : key ≠ "definitions")
    (hkey : ∀ found, session.extensionKeyOf document = .ok found → found = key)
    (hblocks : (Data.map document).Blockless key)
    (hctx : session.contextOf source .absent = .ok ctx) :
    (∀ (s : Position) (field : Scalar) (required : Data) (v : Value) (p : Progress),
      ctx.Remembers p → p.resolving = s.stack → (Data.map s.node).Blockless key →
        ctx.KeepsArrays s →
          (ctx.compileProperty (.map s.node) field required s.owner).outcome p = .ok (some v) →
            ∀ depth, ctx.ArrayDepth s depth ↔ v.listDepth = depth) ∧
      ∀ compiled, (session.compileDefinitions source .absent).outcome = .ok compiled →
        ∀ c ∈ compiled, ∀ fields, c.properties = .embedded fields → ∀ e ∈ fields,
          ∃ property, ctx.DeclaresField c.name e.1 (.map property) ∧
            (ctx.KeepsArrays ⟨[c.name], c.name, property⟩ →
              ∀ depth, ctx.ArrayDepth ⟨[c.name], c.name, property⟩ depth ↔
                e.2.listDepth = depth) := by
  obtain ⟨hbuilds, rfl⟩ := builds_of_contextOf hdecode hshares hne hkey hctx
  have hdefinitions := hbuilds.blockless_definitions hblocks
  have hunextended := hbuilds.unextended hblocks
  have hone : ∀ {s : Position} {v : Value}, ctx.ArrayDepth s v.listDepth →
      ∀ depth, ctx.ArrayDepth s depth ↔ v.listDepth = depth := fun h depth =>
    ⟨fun hdepth => h.unique hdepth, fun heq => heq ▸ h⟩
  constructor
  · intro s field required v p hmem hstack hproperty hkeeps h
    rw [(Context.compileProperty_yields s.stack _ _ _ _ p hstack hmem).1] at h
    exact hone (Context.arrayDepth_compilePropertyWith hunextended hdefinitions
      (Shape.plain_of_blockless hproperty) hkeeps h)
  · intro compiled hcompiled c hc fields hfields e he
    rw [outcome_compileDefinitions hctx, Context.compileAll_eq] at hcompiled
    obtain ⟨name, -, hname⟩ := Context.exists_of_mem_compileEach hcompiled hc
    obtain ⟨property, required, hdeclares, hshape, h⟩ :=
      Context.exists_property_of_field hunextended hname hfields he
    exact ⟨property, hdeclares, fun hkeeps =>
      hone (Context.arrayDepth_compilePropertyWith hunextended hdefinitions hshape hkeeps h)⟩

end Session

section Board

/-- An array definition, a definition that only refers to it, and one with an array of each. -/
def board : Context where
  definitions := [(.text "Tags", .map tags), (.text "Row", .map row), (.text "Board", .map whole)]
where
  tag : Entries Data := [(.text "type", .text "string")]
  tags : Entries Data := [(.text "type", .text "array"), (.text "items", .map tag)]
  row : Entries Data := [(.text "$ref", .text "#/definitions/Tags")]
  rowsItems : Entries Data := [(.text "$ref", .text "#/definitions/Row")]
  rows : Entries Data := [(.text "type", .text "array"), (.text "items", .map rowsItems)]
  cells : Entries Data := [(.text "type", .text "array"), (.text "items", .map row)]
  whole : Entries Data :=
    [(.text "properties", .map [(.text "rows", .map rows), (.text "cells", .map cells)])]

def boardDocument : Entries Data := [(.text "definitions", .map board.definitions)]

private theorem contextOf_board :
    ({} : Session).contextOf (.data (.map boardDocument)) .absent = .ok board := rfl

private theorem blockless_board : (Data.map boardDocument).Blockless "_mongoose" := by
  simp only [boardDocument, board, board.tag, board.tags, board.row, board.rowsItems, board.rows,
    board.cells, board.whole, Data.Blockless, Data.BlocklessEntries]
  decide

private theorem ofNode_boardTags :
    Shape.ofNode "_mongoose" board.tags = .typed (.ok (.listOf (.scalar .text))) none := by
  have hitem : FieldType.ofEntries board.tag = .ok (.scalar .text) := by
    rw [FieldType.ofEntries]
    rfl
  have htype : FieldType.ofEntries board.tags = .ok (.listOf (.scalar .text)) := by
    rw [@FieldType.ofEntries_of_array board.tags _ rfl rfl, hitem]
    rfl
  rw [Shape.ofNode_of_typed "_mongoose" rfl rfl rfl, htype]

private theorem ofProperty_items {pointer target : String}
    (h : Pointer.target (.text pointer) = .ok target) :
    Shape.ofProperty "_mongoose" (.map [(.text "type", .text "array"),
      (.text "items", .map [(.text "$ref", .text pointer)])]) = .reference target true := by
  have hform : Form.ofEntries "_mongoose" [(.text "type", .text "array"),
      (.text "items", .map [(.text "$ref", .text pointer)])] = .reference target true := by
    have hreference : Form.referenceOf [(.text "type", .text "array"),
      (.text "items", .map [(.text "$ref", .text pointer)])] = .text pointer := rfl
    simp only [Form.ofEntries, hreference, h]
    rfl
  rw [Shape.ofProperty_map, hform]
  rfl

private theorem ofNode_whole :
    Shape.ofNode "_mongoose" board.whole =
      .fields .null
        [(.text "rows", .reference "Row" true), (.text "cells", .reference "Tags" true)] := by
  have hrows : Shape.ofProperty "_mongoose" (.map board.rows) = .reference "Row" true :=
    ofProperty_items rfl
  have hcells : Shape.ofProperty "_mongoose" (.map board.cells) = .reference "Tags" true :=
    ofProperty_items rfl
  rw [@Shape.ofNode_of_properties "_mongoose" board.whole
    [(.text "rows", .map board.rows), (.text "cells", .map board.cells)] rfl, Shape.members_all]
  simp only [List.map_cons, List.map_nil, hrows, hcells]
  rfl

private def tagValue : Value := .map [(.text "type", .type .text)]

private theorem embedAt_boardTags (depth : Nat) (stack : List Scalar) (field : Scalar)
    (many : Bool) :
    board.embedAt (depth + 1) stack field "Tags" many = .ok (some (.list [tagValue])) := by
  have hkey : board.extensionKey = "_mongoose" := rfl
  have hnode : board.normalForm (.text "Tags") = .ok (.map board.tags) := rfl
  have hitems : Shape.ofProperty "_mongoose" (.map board.tag) =
      .typed (.ok (.scalar .text)) none := Shape.ofProperty_string (by decide)
  have hdeclared : Entries.value board.tags "items" = .map board.tag := rfl
  have htruthy : (Data.map board.tag).isTruthy = true := rfl
  have hname : board.isReserved (.text "Tags") = false := rfl
  simp only [Context.embedAt, hnode, ok_bind]
  rw [Context.compileTarget_map, if_pos (by decide), if_pos (by decide)]
  simp only [Context.compilePropertyWith, hkey, hdeclared, htruthy, hname, Bool.false_eq_true,
    if_true, if_false, hitems]
  rfl

private theorem embedAt_row (depth : Nat) :
    board.embedAt (depth + 2) [.text "Board"] (.text "rows") "Row" true =
      .ok (some (.list [.list [tagValue]])) := by
  have hkey : board.extensionKey = "_mongoose" := rfl
  have hnode : board.normalForm (.text "Row") = .ok (.map board.row) := rfl
  have hshape : Shape.ofProperty "_mongoose"
      (.map (Entries.erase board.row (.text "_mongoose"))) = .reference "Tags" false :=
    Shape.ofProperty_pointer (by decide) rfl
  have hname : board.isReserved (.text "rows") = false := rfl
  have hresolve : board.resolution
      (board.embedAt (depth + 1) ([.text "Board"] ++ [.text "Row"]))
      ([.text "Board"] ++ [.text "Row"]) (.text "Row") (.text "rows") "Tags" false =
        .ok (some (.list [tagValue])) := by
    rw [← embedAt_boardTags depth ([.text "Board"] ++ [.text "Row"]) (.text "rows") false]
    rfl
  have hstep : board.embedAt (depth + 2) [.text "Board"] (.text "rows") "Row" true =
      board.compileTarget board.normalForm
        (board.resolution (board.embedAt (depth + 1) ([.text "Board"] ++ [.text "Row"]))
          ([.text "Board"] ++ [.text "Row"]))
        (.text "Row") (.text "rows") true (.map board.row) := by
    rw [Context.embedAt]
    dsimp only
    rw [hnode]
    rfl
  rw [hstep, Context.compileTarget_map, if_neg (by decide)]
  simp only [Context.compilePropertyWith, hkey, hname, hshape, Bool.false_eq_true, if_false,
    if_true, Context.compileShape, hresolve]
  rfl

private theorem compileDefinitions_board :
    (({} : Session).compileDefinitions (.data (.map boardDocument)) .absent).outcome = .ok
      [{ name := .text "Tags", properties := .map [(.text "type", .list [.type .text])],
         options := [], index := none },
       { name := .text "Row", properties := .embedded [], options := [], index := none },
       { name := .text "Board", properties := .embedded
          [(.text "rows", .list [.list [tagValue]]), (.text "cells", .list [tagValue])],
         options := [], index := none }] := by
  have hkey : board.extensionKey = "_mongoose" := rfl
  have htags : board.fieldsMeaning [] (.text "Tags") =
      .ok (.map [(.text "type", .list [.type .text])]) := by
    have hnode : board.normalForm (.text "Tags") = .ok (.map board.tags) := rfl
    rw [Context.fieldsMeaning_map hnode, hkey, ofNode_boardTags]
    rfl
  have hrow : board.fieldsMeaning [] (.text "Row") = .ok (.embedded []) := by
    have hnode : board.normalForm (.text "Row") = .ok (.map board.row) := rfl
    have hshape : Shape.ofNode "_mongoose" board.row = .fields .null [] := by
      rw [@Shape.ofNode_of_direct "_mongoose" board.row rfl rfl]
      simp only [board.row, Shape.members]
      rfl
    rw [Context.fieldsMeaning_map hnode, hkey, hshape]
    rfl
  have hwhole : board.fieldsMeaning [] (.text "Board") = .ok (.embedded
      [(.text "rows", .list [.list [tagValue]]), (.text "cells", .list [tagValue])]) := by
    have hnode : board.normalForm (.text "Board") = .ok (.map board.whole) := rfl
    have hrows : board.meaning [.text "Board"] (.text "Board") (.text "rows") "Row" true =
        .ok (some (.list [.list [tagValue]])) := by
      rw [← embedAt_row 14]
      rfl
    have hcells : board.meaning [.text "Board"] (.text "Board") (.text "cells") "Tags" true =
        .ok (some (.list [tagValue])) := by
      rw [← embedAt_boardTags 15 [.text "Board"] (.text "cells") true]
      rfl
    have hopen : board.isReserved (.text "rows") = false := rfl
    have hopen' : board.isReserved (.text "cells") = false := rfl
    rw [Context.fieldsMeaning_map hnode, hkey, ofNode_whole]
    simp only [List.nil_append, Context.compileNode, Context.compileMembers, Context.compileShape,
      hopen, hopen', Bool.false_eq_true, if_false, hrows, hcells, ok_bind]
    rfl
  rw [Session.outcome_compileDefinitions contextOf_board]
  exact Context.compileAll_of_fields board rfl (.cons htags (.cons hrow (.cons hwhole .nil)))

private theorem keepsArrays_rows :
    board.KeepsArrays ⟨[.text "Board"], .text "Board", board.rows⟩ := by
  have htags : board.KeepsArrays
      ⟨[.text "Board", .text "Row", .text "Tags"], .text "Tags", board.tags⟩ := by
    refine .of_array rfl rfl (fun target t hleads => ?_) (.of_other rfl rfl)
    cases hleads.target?_eq
  have hrow : board.KeepsArrays ⟨[.text "Board", .text "Row"], .text "Row", board.row⟩ :=
    .of_reference (.inside rfl rfl rfl rfl) rfl rfl rfl
      (fun _ => ⟨board.tag, rfl, .other rfl rfl⟩) htags
  have hrows : board.LeadsTo ⟨[.text "Board"], .text "Board", board.rowsItems⟩ "Row"
      ⟨[.text "Board", .text "Row"], .text "Row", board.row⟩ := .inside rfl rfl rfl rfl
  refine .of_array rfl rfl (fun target t hleads => ?_)
    (.of_reference hrows rfl rfl rfl (fun h => by cases h) hrow)
  rw [← hrows.unique hleads]
  rfl

private theorem eq_rows_of_declaresField {property : Entries Data}
    (h : board.DeclaresField (.text "Board") (.text "rows") (.map property)) :
    property = board.rows := by
  have hwhole : board.normalForm (.text "Board") = .ok (.map board.whole) := rfl
  have hvalue : Entries.value board.whole "properties" =
      .map [(.text "rows", .map board.rows), (.text "cells", .map board.cells)] := rfl
  obtain ⟨node, entries, hnode, hentries, hdeclares⟩ := h
  obtain rfl := Except.ok.inj (hwhole.symm.trans hnode)
  cases hentries
  rcases hdeclares with ⟨properties, hproperties, hmem⟩ | ⟨hnull, -, -⟩
  · obtain rfl := Data.map.inj (hvalue.symm.trans hproperties)
    rcases List.mem_cons.mp hmem with heq | hmem
    · cases heq
      rfl
    · have hname : Scalar.text "rows" = .text "cells" :=
        congrArg Prod.fst (List.mem_singleton.mp hmem)
      exact absurd hname (by decide)
  · cases hvalue.symm.trans hnull

/-- Of an array of what only refers to the array definition no list is missing. -/
theorem board_rows :
    ∃ compiled, (({} : Session).compileDefinitions (.data (.map boardDocument)) .absent).outcome =
        .ok compiled ∧
      ∃ c ∈ compiled, ∃ fields, c.properties = .embedded fields ∧
        ∃ v, (.text "rows", v) ∈ fields ∧ v.listDepth = 2 ∧
          board.DeclaresField c.name (.text "rows") (.map board.rows) ∧
          board.ArrayDepth ⟨[c.name], c.name, board.rows⟩ v.listDepth := by
  have hkey : ∀ found, ({} : Session).extensionKeyOf boardDocument = .ok found →
      found = "_mongoose" := by
    rintro found ⟨⟩
    rfl
  have hall := Session.compileDefinitions_listDepth rfl (fun _ h => by cases h) (by decide) hkey
    blockless_board contextOf_board
  refine ⟨_, compileDefinitions_board, _,
    List.mem_cons_of_mem _ (List.mem_cons_of_mem _ List.mem_cons_self), _, rfl, _,
    List.mem_cons_self, rfl, ?_, ?_⟩
  · exact ⟨_, board.whole, rfl, rfl, Or.inl ⟨_, rfl, List.mem_cons_self⟩⟩
  · obtain ⟨property, hdeclares, hdepth⟩ := hall.2 _ compileDefinitions_board _
      (List.mem_cons_of_mem _ (List.mem_cons_of_mem _ List.mem_cons_self)) _ rfl _
      List.mem_cons_self
    obtain rfl := eq_rows_of_declaresField hdeclares
    exact (hdepth keepsArrays_rows _).mpr rfl

/-- Of an array of the array definition one list is missing. -/
theorem board_cells :
    ({} : Session).contextOf (.data (.map boardDocument)) .absent = .ok board ∧
      (Data.map boardDocument).Blockless board.extensionKey ∧
      ∃ compiled, (({} : Session).compileDefinitions (.data (.map boardDocument)) .absent).outcome =
          .ok compiled ∧
        ∃ c ∈ compiled, ∃ fields, c.properties = .embedded fields ∧
          ∃ v, (.text "cells", v) ∈ fields ∧
            board.DeclaresField c.name (.text "cells") (.map board.cells) ∧
            board.ArrayDepth ⟨[c.name], c.name, board.cells⟩ 2 ∧ v.listDepth = 1 := by
  refine ⟨contextOf_board, blockless_board, _, compileDefinitions_board, _,
    List.mem_cons_of_mem _ (List.mem_cons_of_mem _ List.mem_cons_self), _, rfl, _,
    List.mem_cons_of_mem _ List.mem_cons_self, ?_, ?_, rfl⟩
  · exact ⟨_, board.whole, rfl, rfl,
      Or.inl ⟨_, rfl, List.mem_cons_of_mem _ List.mem_cons_self⟩⟩
  · exact .array rfl rfl rfl (.reference (.inside rfl rfl rfl rfl)
      (.array rfl rfl rfl (.other rfl rfl)))

end Board

end StoreSchema
