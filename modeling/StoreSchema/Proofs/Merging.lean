import Mathlib.Data.List.Forall2
import StoreSchema.Proofs.NormalForm

set_option autoImplicit false

namespace StoreSchema

open StoreSchema.Composition (Gathered)

namespace Composition.Gathered

theorem foldl_addRequired (names more : List Scalar) :
    more.foldl addRequired names =
      names ++ (more.filter fun name => !names.any (·.same name)).eraseDupsBy Scalar.same := by
  induction more generalizing names with
  | nil => simp [List.eraseDupsBy, List.eraseDupsBy.loop]
  | cons name rest ih =>
    rw [List.foldl_cons, ih, addRequired]
    cases hseen : names.any (·.same name) with
    | true => rw [if_pos rfl, List.filter_cons_of_neg (by simp [hseen])]
    | false =>
      have hlater : ∀ other, (!(names ++ [name]).any (·.same other)) =
          (decide (other.same name = false) && !names.any (·.same other)) := by
        intro other
        rw [List.any_append, List.any_cons, List.any_nil, Bool.or_false, Scalar.same_comm other]
        cases name.same other <;> simp
      rw [if_neg Bool.false_ne_true, List.filter_cons_of_pos (by simp [hseen]),
        List.eraseDupsBy_cons, List.filter_filter]
      simp only [hlater, List.append_assoc, List.singleton_append]

theorem foldl_addRequired_nil (names : List Scalar) :
    names.foldl addRequired [] = names.eraseDupsBy Scalar.same := by
  rw [foldl_addRequired]
  simp

end Composition.Gathered

namespace Entries

variable {α : Type}

theorem keys_cons (key : Scalar) (v : α) (es : Entries α) :
    keys ((key, v) :: es) = key :: keys es :=
  rfl

theorem keys_put (es : Entries α) (key : Scalar) (v : α) :
    keys (put es key v) = Gathered.addRequired (keys es) key := by
  induction es with
  | nil => rfl
  | cons e rest ih =>
    obtain ⟨k, w⟩ := e
    cases h : k.same key with
    | true =>
      rw [put, if_pos h, keys_cons, keys_cons, Gathered.addRequired, List.any_cons, h,
        Bool.true_or, if_pos rfl]
    | false =>
      rw [put, if_neg (by rw [h]; exact Bool.false_ne_true), keys_cons, keys_cons, ih,
        Gathered.addRequired, Gathered.addRequired, List.any_cons, h, Bool.false_or]
      split <;> rfl

theorem keys_put_of_get? {es : Entries α} {key : Scalar} {v : α} (h : get? es key = some v)
    (w : α) : keys (put es key w) = keys es := by
  obtain ⟨k, hmem, hk⟩ := exists_mem_of_get? h
  have hseen : (keys es).any (·.same key) = true :=
    List.any_eq_true.mpr ⟨k, List.mem_map.mpr ⟨_, hmem, rfl⟩, hk⟩
  rw [keys_put, Gathered.addRequired, if_pos hseen]

theorem keys_overlay (es upper : Entries α) :
    keys (overlay es upper) = (keys upper).foldl Gathered.addRequired (keys es) := by
  induction upper generalizing es with
  | nil => rfl
  | cons e rest ih =>
    rw [overlay, List.foldl_cons, ← overlay, ih, keys_put]
    rfl

theorem keys_overlay_nil (upper : Entries α) :
    keys (overlay [] upper) = (keys upper).eraseDupsBy Scalar.same := by
  rw [keys_overlay]
  exact Gathered.foldl_addRequired_nil (keys upper)

theorem get?_append (es more : Entries α) (key : Scalar) :
    get? (es ++ more) key = (get? es key).or (get? more key) := by
  induction es with
  | nil => rfl
  | cons e rest ih =>
    obtain ⟨k, w⟩ := e
    rw [List.cons_append, get?_cons, get?_cons, ih]
    split <;> rfl

theorem get?_overlay (es upper : Entries α) (key : Scalar) :
    get? (overlay es upper) key = (get? upper.reverse key).or (get? es key) := by
  induction upper generalizing es with
  | nil => rfl
  | cons e rest ih =>
    rw [overlay, List.foldl_cons, ← overlay, ih, List.reverse_cons, get?_append, get?_put,
      get?_cons, Option.or_assoc]
    congr 1
    split <;> rfl

theorem get?_overlay_apart {key : Scalar} {upper : Entries α}
    (h : ∀ e ∈ upper, e.1.same key = false) (es : Entries α) :
    get? (overlay es upper) key = get? es key := by
  induction upper generalizing es with
  | nil => rfl
  | cons e rest ih =>
    obtain ⟨hfirst, hrest⟩ := List.forall_mem_cons.mp h
    rw [overlay, List.foldl_cons]
    exact (ih hrest _).trans (get?_put_other _ _ hfirst)

theorem overlay_append (es first second : Entries α) :
    overlay es (first ++ second) = overlay (overlay es first) second :=
  List.foldl_append

theorem filter_put {p : Scalar → Bool} {key : Scalar}
    (hkey : ∀ k, k.same key = true → p k = false) (es : Entries α) (v : α) :
    (put es key v).filter (fun e => p e.1) = es.filter fun e => p e.1 := by
  induction es with
  | nil => simp [put, hkey key (Scalar.same_refl key)]
  | cons e rest ih =>
    obtain ⟨k, w⟩ := e
    rw [put]
    split
    · next hk => simp [hkey k hk]
    · rw [List.filter_cons, List.filter_cons, ih]

theorem filter_erase {p : Scalar → Bool} {key : Scalar}
    (hkey : ∀ k, k.same key = true → p k = false) (es : Entries α) :
    (erase es key).filter (fun e => p e.1) = es.filter fun e => p e.1 := by
  unfold erase
  rw [List.filter_filter]
  congr 1
  funext e
  cases hk : e.1.same key with
  | true => rw [hkey _ hk, Bool.false_and]
  | false => simp

end Entries

namespace Composition

/-- A key under which a merged node may differ from the one that it is merged from. -/
def isMergedKey (key : Scalar) : Bool :=
  ["allOf", "properties", "required"].any fun word => key.same (.text word)

def declaredProperties (node : Entries Data) : Entries Data :=
  match Entries.value node "properties" with
  | .map properties => properties
  | _ => []

/-- The names that a node requires by a list. -/
def listedNames (node : Entries Data) : List Scalar :=
  match Entries.value node "required" with
  | .list names => names.filterMap fun name =>
    match name with
    | .scalar name => some name
    | _ => none
  | _ => []

def listedFragments (node : Entries Data) : List Data :=
  match Entries.value node "allOf" with
  | .list fragments => fragments
  | _ => []

/-- A fragment stands for itself, or for what its reference leads to. -/
inductive StandsFor (lookup : Scalar → Except Fault Data) : Data → Entries Data → Prop
  | itself {own : Entries Data} (hplain : Entries.has own (.text "$ref") = false) :
      StandsFor lookup (.map own) own
  | named {own node : Entries Data} {target : String}
      (hreference : Entries.has own (.text "$ref") = true)
      (htarget : Pointer.target (Entries.value own "$ref") = .ok target)
      (hnode : lookup (.text target) = .ok (.map node)) : StandsFor lookup (.map own) node

/-- A node is merged from its own declarations and those of its parts: the last declaration of a
field gives its value and the first its place, each required name stands where it is first seen, and
the node's own declarations are left exactly where the parts have none. -/
structure IsMerged (own : Entries Data) (parts : List (Entries Data)) (node : Entries Data) :
    Prop where
  kept : node.filter (fun e => !isMergedKey e.1) = own.filter fun e => !isMergedKey e.1
  properties_own : parts.flatMap declaredProperties = [] →
    Entries.get? node (.text "properties") = Entries.get? own (.text "properties")
  properties : parts.flatMap declaredProperties ≠ [] →
    ∃ merged, Entries.get? node (.text "properties") = some (.map merged) ∧
      Entries.keys merged =
        (Entries.keys (parts.flatMap declaredProperties)).eraseDupsBy Scalar.same ∧
      ∀ field, Entries.get? merged field =
        Entries.get? (parts.flatMap declaredProperties).reverse field
  required_own : parts.flatMap listedNames = [] →
    Entries.get? node (.text "required") = Entries.get? own (.text "required")
  required : parts.flatMap listedNames ≠ [] →
    Entries.get? node (.text "required") =
      some (.list (((parts.flatMap listedNames).eraseDupsBy Scalar.same).map .scalar))

theorem isMerged_self (own : Entries Data) : IsMerged own [] own where
  kept := rfl
  properties_own _ := rfl
  properties h := absurd rfl h
  required_own _ := rfl
  required h := absurd rfl h

theorem get?_of_kept {own node : Entries Data}
    (h : node.filter (fun e => !isMergedKey e.1) = own.filter fun e => !isMergedKey e.1)
    {word : String} (hword : isMergedKey (.text word) = false) :
    Entries.get? node (.text word) = Entries.get? own (.text word) := by
  have hkey : ∀ k, k.same (.text word) = true → (!isMergedKey k) = true := by
    intro k hk
    rw [Scalar.same_text.mp hk, hword]
    rfl
  rw [← Entries.get?_filter hkey node, ← Entries.get?_filter hkey own, h]

theorem IsMerged.get?_kept {own node : Entries Data} {parts : List (Entries Data)}
    (h : IsMerged own parts node) {word : String} (hword : isMergedKey (.text word) = false) :
    Entries.get? node (.text word) = Entries.get? own (.text word) :=
  get?_of_kept h.kept hword

structure Readable (node : Entries Data) : Prop where
  properties : Gathered.propertiesOf node = .ok (declaredProperties node)
  required : Gathered.requiredOf node = .ok (listedNames node)

namespace Gathered

variable {gathered : Gathered} {own : Entries Data} {parts : List (Entries Data)}

private theorem get?_plain (word : String) (hword : word ≠ "allOf") (own : Entries Data) :
    Entries.get? (Entries.erase own (.text "allOf")) (.text word) =
      Entries.get? own (.text word) := by
  apply Entries.get?_erase_other
  rw [Bool.eq_false_iff, Ne, Scalar.same_text]
  intro h
  injection h with h
  exact hword h.symm

theorem get?_finish_properties (gathered : Gathered) (own : Entries Data) :
    Entries.get? (gathered.finish own) (.text "properties") =
      if gathered.properties.isEmpty then Entries.get? own (.text "properties")
      else some (.map gathered.properties) := by
  have hplain := get?_plain "properties" (by decide) own
  have hother : (Scalar.text "required").same (.text "properties") = false := by decide
  unfold finish
  split <;> split <;> simp [Entries.get?_put, hother, hplain]

theorem get?_finish_required (gathered : Gathered) (own : Entries Data) :
    Entries.get? (gathered.finish own) (.text "required") =
      if gathered.required.isEmpty then Entries.get? own (.text "required")
      else some (.list (gathered.required.map .scalar)) := by
  have hplain := get?_plain "required" (by decide) own
  have hother : (Scalar.text "properties").same (.text "required") = false := by decide
  unfold finish
  split <;> split <;> simp [Entries.get?_put, hother, hplain]

private theorem isMergedKey_of_same (word : String)
    (hword : word ∈ ["allOf", "properties", "required"]) {key : Scalar}
    (h : key.same (.text word) = true) : (!isMergedKey key) = false := by
  rw [Bool.not_eq_false', isMergedKey]
  exact List.any_eq_true.mpr ⟨word, hword, h⟩

theorem filter_finish (gathered : Gathered) (own : Entries Data) :
    (gathered.finish own).filter (fun e => !isMergedKey e.1) =
      own.filter fun e => !isMergedKey e.1 := by
  have herase := Entries.filter_erase (p := fun key => !isMergedKey key)
    (fun _ => isMergedKey_of_same "allOf" (by simp)) own
  have hproperties := Entries.filter_put (p := fun key => !isMergedKey key)
    (fun _ => isMergedKey_of_same "properties" (by simp))
    (Entries.erase own (.text "allOf")) (Data.map gathered.properties)
  have hrequired := fun es => Entries.filter_put (p := fun key => !isMergedKey key)
    (fun _ => isMergedKey_of_same "required" (by simp)) es
    (Data.list (gathered.required.map .scalar))
  unfold finish
  split <;> split <;> simp only [hrequired, hproperties, herase]

def ofParts (parts : List (Entries Data)) : Gathered where
  properties := Entries.overlay [] (parts.flatMap declaredProperties)
  required := (parts.flatMap listedNames).eraseDupsBy Scalar.same

private theorem eraseDupsBy_eq_nil_iff {α : Type} {r : α → α → Bool} {l : List α} :
    l.eraseDupsBy r = [] ↔ l = [] := by
  cases l with
  | nil => simp [List.eraseDupsBy, List.eraseDupsBy.loop]
  | cons a l => simp [List.eraseDupsBy_cons]

private theorem overlay_nil_eq_nil_iff {α : Type} {upper : Entries α} :
    Entries.overlay [] upper = [] ↔ upper = [] := by
  have hkeys := Entries.keys_overlay_nil upper
  constructor
  · intro h
    rw [h] at hkeys
    have := eraseDupsBy_eq_nil_iff.mp hkeys.symm
    exact List.map_eq_nil_iff.mp this
  · rintro rfl
    rfl

/-- A node with what its parts declare in the place of its fragments is merged from them. -/
theorem isMerged_finish (own : Entries Data) (parts : List (Entries Data)) :
    IsMerged own parts ((ofParts parts).finish own) where
  kept := filter_finish _ own
  properties_own h := by
    have hnone : (ofParts parts).properties = [] := overlay_nil_eq_nil_iff.mpr h
    rw [get?_finish_properties, hnone]
    rfl
  properties h := by
    have hsome : (ofParts parts).properties.isEmpty = false :=
      List.isEmpty_eq_false_iff.mpr fun hnone => h (overlay_nil_eq_nil_iff.mp hnone)
    refine ⟨(ofParts parts).properties, ?_, Entries.keys_overlay_nil _, fun field => ?_⟩
    · rw [get?_finish_properties, hsome]
      rfl
    · exact (Entries.get?_overlay [] _ field).trans (Option.or_none)
  required_own h := by
    have hnone : (ofParts parts).required = [] := eraseDupsBy_eq_nil_iff.mpr h
    rw [get?_finish_required, hnone]
    rfl
  required h := by
    have hsome : (ofParts parts).required.isEmpty = false :=
      List.isEmpty_eq_false_iff.mpr fun hnone => h (eraseDupsBy_eq_nil_iff.mp hnone)
    rw [get?_finish_required, hsome]
    rfl

theorem readable_finish (gathered : Gathered) (h : Readable own) :
    Readable (gathered.finish own) where
  properties := by
    cases hnone : gathered.properties.isEmpty with
    | true =>
      have hvalue : Entries.value (gathered.finish own) "properties" =
          Entries.value own "properties" := by
        rw [Entries.value, get?_finish_properties, hnone]
        rfl
      rw [propertiesOf, declaredProperties, hvalue]
      exact h.properties
    | false =>
      have hvalue : Entries.value (gathered.finish own) "properties" =
          .map gathered.properties := by
        rw [Entries.value, get?_finish_properties, hnone]
        rfl
      rw [propertiesOf, declaredProperties, hvalue, Data.isTruthy, hnone]
      rfl
  required := by
    cases hnone : gathered.required.isEmpty with
    | true =>
      have hvalue : Entries.value (gathered.finish own) "required" =
          Entries.value own "required" := by
        rw [Entries.value, get?_finish_required, hnone]
        rfl
      rw [requiredOf, listedNames, hvalue]
      exact h.required
    | false =>
      have hvalue : Entries.value (gathered.finish own) "required" =
          .list (gathered.required.map .scalar) := by
        rw [Entries.value, get?_finish_required, hnone]
        rfl
      rw [requiredOf, listedNames, hvalue]
      refine (Data.mapM_key_scalars gathered.required).trans ?_
      simp [List.filterMap_map]

end Gathered

section Gathering

variable {lookup : Scalar → Except Fault Data}

/-- Gathering fragments adds what the nodes declare that they stand for. -/
theorem gather_of_standsFor {fragments : List Data} {parts : List (Entries Data)}
    (hstands : List.Forall₂ (StandsFor lookup) fragments parts)
    (hreadable : ∀ part ∈ parts, Readable part) (gathered : Gathered) :
    Context.gather lookup gathered fragments = .ok
      { properties := Entries.overlay gathered.properties (parts.flatMap declaredProperties)
        required := (parts.flatMap listedNames).foldl Gathered.addRequired gathered.required } := by
  induction hstands generalizing gathered with
  | nil => rfl
  | @cons fragment part fragments parts hstand _ ih =>
    obtain ⟨hpart, hparts⟩ := List.forall_mem_cons.mp hreadable
    have hfound : ∃ found, source fragment = .ok found ∧
        Context.nodeOf lookup found = .ok (.map part) := by
      cases hstand with
      | itself hplain =>
        refine ⟨.inline (.map part), ?_, rfl⟩
        rw [source, Data.mentions, hplain]
        rfl
      | @named own _ target hreference htarget hnode =>
        refine ⟨.named target, ?_, hnode⟩
        simp [source, Data.mentions, hreference, htarget]
    obtain ⟨found, hsource, hnode⟩ := hfound
    have hadd : gathered.add (.map part) = .ok
        { properties := Entries.overlay gathered.properties (declaredProperties part)
          required := (listedNames part).foldl Gathered.addRequired gathered.required } := by
      simp only [Gathered.add, Data.members, ok_bind, hpart.properties, hpart.required]
      rfl
    simp only [Context.gather, ofExcept_eq, hsource, hnode, hadd, orMisuse_ok, ok_bind, ih hparts,
      List.flatMap_cons, List.foldl_append, Entries.overlay_append]

end Gathering

end Composition

end StoreSchema
