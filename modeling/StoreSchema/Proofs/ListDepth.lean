import Mathlib.Logic.Relation
import StoreSchema.Proofs.Fields

set_option autoImplicit false

namespace StoreSchema

/-- A mapping that is read as a property or a definition, the owner of the references in it, and the
definitions that are being compiled around it, outermost first. -/
structure Position where
  stack : List Scalar
  owner : Scalar
  node : Entries Data

namespace Position

def target? (s : Position) : Option String :=
  match Pointer.target (Entries.value s.node "$ref") with
  | .ok target => some target
  | .error _ => none

def isArray (s : Position) : Bool :=
  (Entries.value s.node "type").isText "array"

def withNode (s : Position) (node : Entries Data) : Position :=
  { s with node }

theorem target?_eq_some {s : Position} {target : String} :
    s.target? = some target ↔ Pointer.target (Entries.value s.node "$ref") = .ok target := by
  unfold target?
  cases Pointer.target (Entries.value s.node "$ref") <;> simp

end Position

namespace Context

/-- A position refers to a definition, and not to one that it stands in, and leads to where that one
is compiled. -/
inductive LeadsTo (ctx : Context) (s : Position) (target : String) : Position → Prop
  | inside {node : Data} {entries : Entries Data} (htarget : s.target? = some target)
      (hforeign : ctx.isSelfReference s.owner target s.stack = false)
      (hnode : ctx.normalForm (.text target) = .ok node)
      (hentries : node.members = .ok entries) :
      LeadsTo ctx s target ⟨s.stack ++ [.text target], .text target, entries⟩

/-- The number of arrays that a position declares: one for each that is met by following items and
references. A reference back to where the position stands declares none. -/
inductive ArrayDepth (ctx : Context) : Position → Nat → Prop
  | other {s : Position} (htarget : s.target? = none) (harray : s.isArray = false) :
      ArrayDepth ctx s 0
  | back {s : Position} {target : String} (htarget : s.target? = some target)
      (hback : ctx.isSelfReference s.owner target s.stack = true) : ArrayDepth ctx s 0
  | reference {s t : Position} {target : String} {depth : Nat} (hleads : ctx.LeadsTo s target t)
      (hdepth : ArrayDepth ctx t depth) : ArrayDepth ctx s depth
  | bare {s : Position} (htarget : s.target? = none) (harray : s.isArray = true)
      (hitems : (Entries.value s.node "items").isMap = false) : ArrayDepth ctx s 1
  | array {s : Position} {items : Entries Data} {depth : Nat} (htarget : s.target? = none)
      (harray : s.isArray = true) (hitems : Entries.value s.node "items" = .map items)
      (hdepth : ArrayDepth ctx (s.withNode items) depth) : ArrayDepth ctx s (depth + 1)

/-- The next position on the way through items and references. -/
inductive Leads (ctx : Context) : Position → Position → Prop
  | items {s : Position} {items : Entries Data} (harray : s.isArray = true)
      (hitems : Entries.value s.node "items" = .map items) : Leads ctx s (s.withNode items)
  | reference {s t : Position} {target : String} (hleads : ctx.LeadsTo s target t) : Leads ctx s t

/-- Compiling neither loses nor adds an array at a position. -/
structure KeepsArrayAt (ctx : Context) (s : Position) : Prop where
  /-- Nothing beside a reference says what is declared. -/
  alone : s.target? ≠ none → Entries.value s.node "type" = .null ∧
    (Entries.value s.node "items").isMap = false ∧ isContainer s.node = false
  /-- The items of an array do not refer to a definition that is an array. -/
  apart : s.isArray = true → ∀ items, Entries.value s.node "items" = .map items →
    ∀ target t, ctx.LeadsTo (s.withNode items) target t → t.isArray = false
  /-- No array is left out of a definition that the position refers to. -/
  whole : ∀ target t, ctx.LeadsTo s target t → ctx.LeavesOut target →
    (Entries.value t.node "items").isMap = true →
      ∃ items, Entries.value t.node "items" = .map items ∧ ctx.ArrayDepth (t.withNode items) 0

/-- Compiling neither loses nor adds an array on the way from a position. -/
def KeepsArrays (ctx : Context) (s : Position) : Prop :=
  ∀ t, Relation.ReflTransGen ctx.Leads s t → ctx.KeepsArrayAt t

variable {ctx : Context} {s t : Position}

theorem LeadsTo.unique {t' : Position} {target target' : String} (h : ctx.LeadsTo s target t)
    (h' : ctx.LeadsTo s target' t') : t = t' := by
  obtain ⟨htarget, -, hnode, hentries⟩ := h
  obtain ⟨htarget', -, hnode', hentries'⟩ := h'
  rw [htarget] at htarget'
  obtain rfl := Option.some.inj htarget'
  rw [hnode] at hnode'
  obtain rfl := Except.ok.inj hnode'
  rw [hentries] at hentries'
  obtain rfl := Except.ok.inj hentries'
  rfl

theorem LeadsTo.target?_eq {target : String} (h : ctx.LeadsTo s target t) :
    s.target? = some target := by
  obtain ⟨htarget, -, -, -⟩ := h
  exact htarget

theorem LeadsTo.isSelfReference_eq {target : String} (h : ctx.LeadsTo s target t) :
    ctx.isSelfReference s.owner target s.stack = false := by
  obtain ⟨-, hforeign, -, -⟩ := h
  exact hforeign

theorem ArrayDepth.unique {depth depth' : Nat} (h : ctx.ArrayDepth s depth)
    (h' : ctx.ArrayDepth s depth') : depth = depth' := by
  induction h generalizing depth' with
  | other htarget harray =>
    cases h' with
    | other _ _ | back _ _ => rfl
    | reference hleads _ => cases htarget.symm.trans hleads.target?_eq
    | bare _ harray' _ | array _ harray' _ _ => cases harray.symm.trans harray'
  | back htarget hback =>
    cases h' with
    | other _ _ | back _ _ => rfl
    | reference hleads _ =>
      obtain rfl := Option.some.inj (htarget.symm.trans hleads.target?_eq)
      cases hback.symm.trans hleads.isSelfReference_eq
    | bare htarget' _ _ | array htarget' _ _ _ => cases htarget.symm.trans htarget'
  | reference hleads _ ih =>
    cases h' with
    | other htarget' _ | bare htarget' _ _ | array htarget' _ _ _ =>
      cases htarget'.symm.trans hleads.target?_eq
    | back htarget' hback =>
      obtain rfl := Option.some.inj (htarget'.symm.trans hleads.target?_eq)
      cases hback.symm.trans hleads.isSelfReference_eq
    | reference hleads' hdepth' =>
      obtain rfl := hleads.unique hleads'
      exact ih hdepth'
  | bare htarget harray hitems =>
    cases h' with
    | other _ harray' => cases harray.symm.trans harray'
    | back htarget' _ => cases htarget.symm.trans htarget'
    | reference hleads _ => cases htarget.symm.trans hleads.target?_eq
    | bare _ _ _ => rfl
    | array _ _ hitems' _ =>
      rw [hitems'] at hitems
      cases hitems
  | array htarget harray hitems _ ih =>
    cases h' with
    | other _ harray' => cases harray.symm.trans harray'
    | back htarget' _ => cases htarget.symm.trans htarget'
    | reference hleads _ => cases htarget.symm.trans hleads.target?_eq
    | bare _ _ hitems' =>
      rw [hitems] at hitems'
      cases hitems'
    | array _ _ hitems' hdepth' =>
      obtain rfl := Data.map.inj (hitems.symm.trans hitems')
      rw [ih hdepth']

namespace KeepsArrays

theorem here (h : ctx.KeepsArrays s) : ctx.KeepsArrayAt s :=
  h s .refl

theorem next (h : ctx.KeepsArrays s) (hleads : ctx.Leads s t) : ctx.KeepsArrays t :=
  fun u hreach => h u (.head hleads hreach)

private theorem of_next (h : ctx.KeepsArrayAt s) (hnext : ∀ t, ctx.Leads s t → ctx.KeepsArrays t) :
    ctx.KeepsArrays s := by
  intro u hreach
  rcases Relation.ReflTransGen.cases_head hreach with rfl | ⟨t, hleads, hreach⟩
  · exact h
  · exact hnext t hleads u hreach

theorem of_other (htarget : s.target? = none) (harray : s.isArray = false) :
    ctx.KeepsArrays s := by
  refine of_next ⟨fun hsome => absurd htarget hsome, fun h => ?_, fun target t hleads => ?_⟩ ?_
  · cases harray.symm.trans h
  · cases htarget.symm.trans hleads.target?_eq
  · intro t hleads
    cases hleads with
    | items h _ => cases harray.symm.trans h
    | reference hleads => cases htarget.symm.trans hleads.target?_eq

theorem of_array {items : Entries Data} (htarget : s.target? = none)
    (hitems : Entries.value s.node "items" = .map items)
    (hapart : ∀ target t, ctx.LeadsTo (s.withNode items) target t → t.isArray = false)
    (hkeeps : ctx.KeepsArrays (s.withNode items)) : ctx.KeepsArrays s := by
  refine of_next ⟨fun hsome => absurd htarget hsome, fun _ items' hitems' => ?_,
    fun target t hleads => ?_⟩ ?_
  · obtain rfl := Data.map.inj (hitems.symm.trans hitems')
    exact hapart
  · cases htarget.symm.trans hleads.target?_eq
  · intro t hleads
    cases hleads with
    | items _ hitems' =>
      obtain rfl := Data.map.inj (hitems.symm.trans hitems')
      exact hkeeps
    | reference hleads => cases htarget.symm.trans hleads.target?_eq

theorem of_reference {target : String} (hleads : ctx.LeadsTo s target t)
    (htype : Entries.value s.node "type" = .null)
    (hitems : (Entries.value s.node "items").isMap = false)
    (hcontainer : isContainer s.node = false)
    (hwhole : (Entries.value t.node "items").isMap = true →
      ∃ items, Entries.value t.node "items" = .map items ∧ ctx.ArrayDepth (t.withNode items) 0)
    (hkeeps : ctx.KeepsArrays t) : ctx.KeepsArrays s := by
  have harray : s.isArray = false := by
    rw [Position.isArray, htype]
    rfl
  refine of_next ⟨fun _ => ⟨htype, hitems, hcontainer⟩, fun h => ?_, fun target' t' hleads' _ => ?_⟩
    ?_
  · cases harray.symm.trans h
  · obtain rfl := hleads.unique hleads'
    exact hwhole
  · intro t' hleads'
    cases hleads' with
    | items h _ => cases harray.symm.trans h
    | reference hleads' =>
      obtain rfl := hleads.unique hleads'
      exact hkeeps

theorem target?_of_type (h : ctx.KeepsArrays s) (htype : Entries.value s.node "type" ≠ .null) :
    s.target? = none := by
  by_contra hsome
  exact htype (h.here.alone hsome).1

theorem target?_of_container (h : ctx.KeepsArrays s) (hcontainer : isContainer s.node = true) :
    s.target? = none := by
  by_contra hsome
  rw [(h.here.alone hsome).2.2] at hcontainer
  cases hcontainer

end KeepsArrays

end Context

namespace Value

mutual
/-- The number of lists of one item that are met from the outside, the types of descriptors being
looked through. -/
def listDepth : Value → Nat
  | .list items => itemDepth items
  | .map entries => typeDepth entries
  | _ => 0

def itemDepth : List Value → Nat
  | [item] => listDepth item + 1
  | _ => 0

def typeDepth : List (Scalar × Value) → Nat
  | [] => 0
  | (key, v) :: rest => if key.same (.text "type") then listDepth v else typeDepth rest
end

@[simp] theorem listDepth_descriptor (type : Value) (facets : Entries Value) :
    (Value.map ((.text "type", type) :: facets)).listDepth = type.listDepth := rfl

@[simp] theorem listDepth_embedded (fields : Entries Value) :
    (Value.embedded fields).listDepth = 0 := rfl

section Facets

variable {gaps : Prop} {v : Value}

theorem WellFormed.listDepth_withFacet (h : v.WellFormed gaps) {name : Scalar} {facet : Value}
    (hfacet : IsFacet name facet) : (v.withFacets [(name, facet)]).listDepth = v.listDepth := by
  rcases h.withFacet_cases hfacet with ⟨type, facets, rfl, -, heq⟩ | ⟨-, heq⟩
  · rw [heq, listDepth_descriptor, listDepth_descriptor]
  · rw [heq, listDepth_descriptor]

theorem WellFormed.listDepth_withDefault (h : v.WellFormed gaps) (default : Data) :
    (v.withDefault default).listDepth = v.listDepth :=
  h.listDepth_withFacet (.default default)

theorem WellFormed.listDepth_fillRequired (h : v.WellFormed gaps) (field : Scalar)
    (required : Data) : (v.fillRequired field required).listDepth = v.listDepth := by
  rcases fillRequired_cases field required with ⟨-, hfill⟩ | hfill
  · rw [hfill]
  · rw [hfill]
    exact h.listDepth_withFacet (.required _)

end Facets

end Value

def IsObject (entries : Entries Data) : Prop :=
  (Entries.value entries "type").isTruthy = false ∨
    (Entries.value entries "type").isText "object" = true

namespace Form

variable {key : String} {entries : Entries Data}

private theorem target_of_reference {target : String} {many : Bool}
    (h : ofEntries key entries = .reference target many) :
    Pointer.target (referenceOf entries) = .ok target ∧
      (Entries.value entries "items").isMap = many := by
  unfold ofEntries at h
  dsimp only at h
  split at h
  · cases h
  split at h
  · cases h
  split at h
  · split at h
    · next htarget =>
      cases h
      exact ⟨htarget, rfl⟩
    · cases h
  · repeat' split at h
    all_goals cases h

private theorem object_of_embedded (h : ofEntries key entries = .embedded) :
    (referenceOf entries).isNull = true ∧ IsObject entries := by
  unfold ofEntries at h
  dsimp only at h
  split at h
  · cases h
  split at h
  · cases h
  split at h
  · split at h <;> cases h
  next hnull =>
  refine ⟨by simpa using hnull, ?_⟩
  split at h
  · cases h
  split at h
  · next hobject => simpa [IsObject] using hobject
  · split at h <;> cases h

end Form

namespace Position

variable {s : Position}

theorem target?_of_falsy (h : (Entries.value s.node "$ref").isTruthy = false) :
    s.target? = none := by
  unfold target?
  cases hvalue : Entries.value s.node "$ref" with
  | scalar scalar =>
    cases scalar with
    | text pointer =>
      rw [hvalue] at h
      obtain rfl : pointer = "" := by simpa [Data.isTruthy, Scalar.isTruthy] using h
      rfl
    | _ => rfl
  | _ => rfl

private theorem target?_of_isNull (h : (Entries.value s.node "$ref").isNull = true) :
    s.target? = none := by
  apply target?_of_falsy
  unfold Data.isNull at h
  split at h
  · next hnull =>
    rw [hnull]
    rfl
  · cases h

theorem target?_of_referenceOf (h : (Form.referenceOf s.node).isNull = true) :
    s.target? = none := by
  apply target?_of_isNull
  unfold Form.referenceOf at h
  dsimp only at h
  split at h
  · next hnull => exact (Bool.and_eq_true_iff.mp hnull).1
  · exact h

private theorem target?_cases {target : String}
    (h : Pointer.target (Form.referenceOf s.node) = .ok target) :
    s.target? = some target ∨
      s.target? = none ∧ s.isArray = true ∧ ∃ items, Entries.value s.node "items" = .map items ∧
        (s.withNode items).target? = some target := by
  unfold Form.referenceOf at h
  dsimp only at h
  split at h
  · next hnull =>
    obtain ⟨hnull, harray⟩ := Bool.and_eq_true_iff.mp hnull
    refine Or.inr ⟨target?_of_isNull hnull, harray, ?_⟩
    cases hitems : Entries.value s.node "items" with
    | map items =>
      rw [hitems] at h
      exact ⟨items, rfl, target?_eq_some.mpr h⟩
    | _ =>
      rw [hitems] at h
      cases h
  · exact Or.inl (target?_eq_some.mpr h)

end Position

private theorem FieldType.cases_of_ofEntries {entries : Entries Data} {type : FieldType}
    (h : FieldType.ofEntries entries = .ok type) :
    (Entries.value entries "type").isText "array" = false ∧ (∃ storage, type = .scalar storage) ∨
      (Entries.value entries "type").isText "array" = true ∧ ∃ items item,
        Entries.value entries "items" = .map items ∧ FieldType.ofEntries items = .ok item ∧
          type = .listOf item := by
  rw [ofEntries] at h
  split at h
  · next name hname =>
    rw [hname]
    split at h
    · next hnumber =>
      subst hnumber
      dsimp only at h
      split at h
      · cases h
        exact Or.inl ⟨rfl, _, rfl⟩
      · cases h
    split at h
    · next harray =>
      subst harray
      split at h
      · next items hitems =>
        cases hitem : ofEntries items with
        | error fault =>
          rw [hitem] at h
          cases h
        | ok item =>
          rw [hitem] at h
          cases h
          refine Or.inr ⟨rfl, items, item, ?_, hitem, rfl⟩
          rw [Entries.value, hitems]
          rfl
      · cases h
      · cases h
    · next harray =>
      split at h
      · cases h
        exact Or.inl ⟨beq_eq_false_iff_ne.mpr harray, _, rfl⟩
      · cases h
  · cases h

private theorem FieldType.isTruthy_type {entries : Entries Data} {type : FieldType}
    (h : FieldType.ofEntries entries = .ok type) :
    (Entries.value entries "type").isTruthy = true := by
  cases htype : Entries.value entries "type" with
  | scalar scalar =>
    cases scalar with
    | text name =>
      refine bne_iff_ne.mpr ?_
      rintro rfl
      rw [ofEntries, htype] at h
      cases h
    | _ =>
      rw [ofEntries, htype] at h
      cases h
  | _ =>
    rw [ofEntries, htype] at h
    cases h

private theorem FieldType.type_ne_null {entries : Entries Data} {type : FieldType}
    (h : FieldType.ofEntries entries = .ok type) : Entries.value entries "type" ≠ .null := by
  intro hnull
  have htruthy := isTruthy_type h
  rw [hnull] at htruthy
  cases htruthy

private theorem IsObject.isArray_eq {entries : Entries Data} (h : IsObject entries) :
    (Entries.value entries "type").isText "array" = false := by
  cases htype : Entries.value entries "type" with
  | scalar s =>
    cases s with
    | text name =>
      refine beq_eq_false_iff_ne.mpr ?_
      rintro rfl
      rw [IsObject, htype] at h
      rcases h with h | h <;> cases h
    | _ => rfl
  | _ => rfl

private theorem IsObject.ofNode_cases {entries : Entries Data} (h : IsObject entries)
    (key : String) :
    (∃ members, Shape.ofNode key entries = .fields (Entries.value entries "required") members) ∨
      (∃ fault, Shape.ofNode key entries = .typed (.error fault) none) ∨
      Shape.ofNode key entries = .endless ∨ Shape.ofNode key entries = .noFields := by
  rw [Shape.ofNode]
  split
  · exact Or.inl ⟨_, rfl⟩
  · split
    · exact Or.inl ⟨_, rfl⟩
    · next htype =>
      split
      · exact Or.inl ⟨_, rfl⟩
      · next hother =>
        cases hof : FieldType.ofEntries entries with
        | error fault => exact Or.inr (Or.inl ⟨fault, rfl⟩)
        | ok type =>
          have htruthy := FieldType.isTruthy_type hof
          rcases h with hfalsy | hobject
          · cases hfalsy.symm.trans htruthy
          · exact absurd hobject hother
  · exact Or.inr (Or.inr (Or.inl rfl))
  · exact Or.inr (Or.inr (Or.inr rfl))

namespace Context

variable {ctx : Context} {s : Position}

theorem listDepth_typedDescriptor (type : FieldType) (choices : Option (List Data)) :
    (typedDescriptor type choices).listDepth = type.toValue.listDepth :=
  rfl

private theorem arrayDepth_of_ofEntries {type : FieldType} (hkeeps : ctx.KeepsArrays s)
    (h : FieldType.ofEntries s.node = .ok type) : ctx.ArrayDepth s type.toValue.listDepth := by
  have htarget := hkeeps.target?_of_type (FieldType.type_ne_null h)
  induction type generalizing s with
  | scalar storage =>
    rcases FieldType.cases_of_ofEntries h with ⟨harray, -⟩ | ⟨-, items, item, -, -, hlist⟩
    · exact .other htarget harray
    · cases hlist
  | listOf item ih =>
    rcases FieldType.cases_of_ofEntries h with
      ⟨-, storage, hscalar⟩ | ⟨harray, items, item', hitems, hitem, hlist⟩
    · cases hscalar
    · cases hlist
      have hinner := hkeeps.next (.items harray hitems)
      exact .array htarget harray hitems
        (ih hinner hitem (hinner.target?_of_type (FieldType.type_ne_null hitem)))

/-- References from positions on a stack compile to as many lists as they declare arrays, and to one
more if there are many. -/
def ResolvesArrays (ctx : Context) (stack : List Scalar) (resolve : Resolve (Except Fault)) :
    Prop :=
  ∀ (s : Position) field target many v, s.stack = stack → s.target? = some target →
    ctx.isReserved field = false → ctx.KeepsArrays s →
    (many = true → ∀ t, ctx.LeadsTo s target t → t.isArray = false) →
    resolve s.owner field target many = .ok (some v) →
      ∃ depth, ctx.ArrayDepth s depth ∧ v.listDepth = depth + many.toNat

section Property

variable {resolve : Resolve (Except Fault)} {owner field : Scalar} {required : Data} {v : Value}
  {reached : String → Prop}

private theorem exists_compileShape_of_withDefaultOf
    (hresolve : ctx.ResolvesTo True reached resolve) (hfield : ctx.isReserved field = false)
    {entries : Entries Data} {shape : Shape} (hshape : shape.Plain reached)
    (h : ctx.compileShape resolve owner field required (Shape.withDefaultOf entries shape) =
      .ok (some v)) :
    ∃ w, ctx.compileShape resolve owner field required shape = .ok (some w) ∧
      v.listDepth = w.listDepth := by
  unfold Shape.withDefaultOf at h
  split at h
  · cases compiledAs_of_compileShape h with
    | withDefault hw =>
      have hcompiled := isCompiled_compileShape hresolve required hfield shape hshape hw
      exact ⟨_, hw, hcompiled.2.wellFormed.listDepth_withDefault _⟩
  · exact ⟨v, h, rfl⟩

private theorem arrayDepth_of_reference (hresolve : ctx.ResolvesTo True (fun _ => True) resolve)
    (harrays : ctx.ResolvesArrays s.stack resolve) (hfield : ctx.isReserved field = false)
    (hkeeps : ctx.KeepsArrays s) {target : String}
    (htarget : Pointer.target (Form.referenceOf s.node) = .ok target)
    (h : ctx.compileShape resolve s.owner field required
      (.reference target (Entries.value s.node "items").isMap) = .ok (some v)) :
    ctx.ArrayDepth s v.listDepth := by
  cases compiledAs_of_compileShape h with
  | @reference _ _ w hfound =>
    obtain ⟨_, hsome, hw⟩ := hresolve _ _ _ _ _ trivial hfield hfound
    cases hsome
    rw [hw.wellFormed.listDepth_fillRequired]
    rcases Position.target?_cases htarget with hown | ⟨hnone, harray, items, hitems, hinner⟩
    · have hone : (Entries.value s.node "items").isMap = false :=
        (hkeeps.here.alone (by rw [hown]; exact Option.some_ne_none _)).2.1
      rw [hone] at hfound
      obtain ⟨depth, hdepth, hlists⟩ := harrays s field target false w rfl hown hfield hkeeps
        (fun hmany => by cases hmany) hfound
      rw [hlists]
      exact hdepth
    · rw [hitems] at hfound
      obtain ⟨depth, hdepth, hlists⟩ := harrays (s.withNode items) field target true w rfl hinner
        hfield (hkeeps.next (.items harray hitems))
        (fun _ t hleads => hkeeps.here.apart harray items hitems target t hleads) hfound
      rw [hlists]
      exact .array hnone harray hitems hdepth

theorem listDepth_of_compileNode {entries : Entries Data} (hobject : IsObject entries)
    (h : ctx.compileNode resolve owner (Shape.ofNode ctx.extensionKey entries) = .ok v) :
    v.listDepth = 0 := by
  rcases hobject.ofNode_cases ctx.extensionKey with
    ⟨members, hnode⟩ | ⟨fault, hnode⟩ | hnode | hnode
  · rw [hnode] at h
    obtain ⟨fields, -, h⟩ := exists_of_bind_eq_ok h
    cases h
    rfl
  all_goals
    rw [hnode] at h
    cases h

private theorem listDepth_of_object (hresolve : ctx.ResolvesTo True reached resolve)
    {entries : Entries Data} (hobject : IsObject entries)
    (hshape : (Shape.ofNode ctx.extensionKey entries).Plain reached)
    (h : ctx.compileShape resolve owner field required (Shape.ofNode ctx.extensionKey entries) =
      .ok (some v)) : v.listDepth = 0 := by
  rcases hobject.ofNode_cases ctx.extensionKey with
    ⟨members, hnode⟩ | ⟨fault, hnode⟩ | hnode | hnode
  · rw [hnode] at h hshape
    cases compiledAs_of_compileShape h with
    | fields hfields =>
      have hall := (isCompiled_compileMembers hresolve _ members hshape hfields).1
      rw [(Value.isField_embedded hall).wellFormed.listDepth_fillRequired, Value.listDepth_embedded]
  · rw [hnode] at h
    cases compiledAs_of_compileShape h with
    | typed htype => cases htype
  all_goals
    rw [hnode] at h
    cases compiledAs_of_compileShape h

/-- What a property compiles to has as many lists as it declares arrays. -/
theorem arrayDepth_of_compileProperty
    (hresolve : ctx.ResolvesTo True (fun _ => True) resolve)
    (harrays : ctx.ResolvesArrays s.stack resolve)
    (hshape : (Shape.ofProperty ctx.extensionKey (.map s.node)).Plain fun _ => True)
    (hkeeps : ctx.KeepsArrays s)
    (h : ctx.compilePropertyWith resolve (.map s.node) field required s.owner = .ok (some v)) :
    ctx.ArrayDepth s v.listDepth := by
  unfold compilePropertyWith at h
  split at h
  · cases h
  next hfield =>
  replace hfield := Bool.eq_false_iff.mpr hfield
  rw [Shape.ofProperty_map, Shape.plain_withDefaultOf] at hshape
  rw [Shape.ofProperty_map] at h
  obtain ⟨w, hw, hlists⟩ := exists_compileShape_of_withDefaultOf hresolve hfield hshape h
  rw [hlists]
  have htyped : ∀ choices, ctx.compileShape resolve s.owner field required
      (.typed (FieldType.ofEntries s.node) choices) = .ok (some w) →
        ctx.ArrayDepth s w.listDepth := by
    intro choices hw
    cases compiledAs_of_compileShape hw with
    | @typed _ type _ htype =>
      have hdescriptor := isField_typedDescriptor True type choices
      rw [hdescriptor.wellFormed.listDepth_fillRequired, listDepth_typedDescriptor]
      exact arrayDepth_of_ofEntries hkeeps htype
  cases hform : Form.ofEntries ctx.extensionKey s.node with
  | override extension base many =>
    rw [hform] at hshape
    exact hshape.elim
  | malformed reference =>
    rw [hform] at hw
    cases compiledAs_of_compileShape hw
  | composed =>
    rw [hform] at hw
    cases compiledAs_of_compileShape hw
  | reference target many =>
    rw [hform] at hw
    obtain ⟨htarget, rfl⟩ := Form.target_of_reference hform
    exact arrayDepth_of_reference hresolve harrays hfield hkeeps htarget hw
  | embedded =>
    rw [hform] at hw hshape
    obtain ⟨hnull, hobject⟩ := Form.object_of_embedded hform
    have harray : s.isArray = false := hobject.isArray_eq
    rw [listDepth_of_object hresolve hobject hshape hw]
    exact .other (Position.target?_of_referenceOf hnull) harray
  | array | scalar =>
    rw [hform] at hw
    exact htyped _ hw

theorem eq_composition_of_none (hresolve : ctx.ResolvesTo True reached resolve)
    {property : Data} (hshape : (Shape.ofProperty ctx.extensionKey property).Plain reached)
    (h : ctx.compilePropertyWith resolve property field required owner = .ok none) :
    ctx.isReserved field = true ∨ property.isComposition = true := by
  unfold compilePropertyWith at h
  split at h
  · next hfield => exact Or.inl hfield
  · next hfield =>
    have homitted : (Shape.ofProperty ctx.extensionKey property).isOmitted = true :=
      isCompiled_compileShape hresolve required (Bool.eq_false_iff.mpr hfield) _ hshape h
    exact Or.inr ((Shape.isOmitted_ofProperty hshape).symm.trans homitted)

end Property

end Context

end StoreSchema
