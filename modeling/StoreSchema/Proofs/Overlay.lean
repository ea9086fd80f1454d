import StoreSchema.Definition.Extension
import StoreSchema.Proofs.Merging

set_option autoImplicit false

namespace StoreSchema

namespace Entries

variable {α : Type} {es upper : Entries α} {key other : Scalar} {v w : α}

theorem DistinctKeys.tail {e : Scalar × α} (h : DistinctKeys (e :: es)) : DistinctKeys es :=
  (List.pairwise_cons.mp h).2

theorem DistinctKeys.get?_tail (h : DistinctKeys ((key, v) :: es)) (hsame : key.same other = true) :
    get? es other = none := by
  rw [← get?_same hsame]
  cases hget : get? es key with
  | none => rfl
  | some w =>
    obtain ⟨k, hmem, hk⟩ := exists_mem_of_get? hget
    have hother : key.same k = false :=
      (List.pairwise_cons.mp h).1 k (List.mem_map.mpr ⟨_, hmem, rfl⟩)
    rw [Scalar.same_symm hk] at hother
    cases hother

theorem DistinctKeys.put (h : DistinctKeys es) (key : Scalar) (v : α) :
    DistinctKeys (put es key v) := by
  induction es with
  | nil => exact List.pairwise_singleton _ _
  | cons e rest ih =>
    obtain ⟨k, w⟩ := e
    rw [Entries.put]
    split
    · exact h
    · next hk =>
      refine List.pairwise_cons.mpr ⟨fun other hmem => ?_, ih h.tail⟩
      rcases mem_keys_put hmem with hmem | rfl
      · exact (List.pairwise_cons.mp h).1 other hmem
      · exact Bool.eq_false_iff.mpr hk

theorem DistinctKeys.erase (h : DistinctKeys es) (key : Scalar) : DistinctKeys (erase es key) :=
  List.Pairwise.sublist (List.filter_sublist.map _) h

theorem DistinctKeys.overlay (h : DistinctKeys es) (upper : Entries α) :
    DistinctKeys (overlay es upper) := by
  induction upper generalizing es with
  | nil => exact h
  | cons e rest ih => exact ih (h.put e.1 e.2)

theorem put_eq_map (h : DistinctKeys es) (hkey : get? es key = some w) (v : α) :
    put es key v = es.map fun e => (e.1, if e.1.same key then v else e.2) := by
  induction es with
  | nil => cases hkey
  | cons e rest ih =>
    obtain ⟨k, u⟩ := e
    rw [get?_cons] at hkey
    rw [put, List.map_cons]
    cases hk : k.same key with
    | true =>
      have hrest : rest.map (fun e => (e.1, if e.1.same key then v else e.2)) = rest := by
        refine (List.map_congr_left fun e he => ?_).trans (List.map_id _)
        have hother : k.same e.1 = false :=
          (List.pairwise_cons.mp h).1 e.1 (List.mem_map.mpr ⟨e, he, rfl⟩)
        rw [← Scalar.same_congr hk e.1, Scalar.same_comm, hother]
        rfl
      rw [hrest]
      rfl
    | false =>
      rw [hk, if_neg Bool.false_ne_true] at hkey
      rw [ih h.tail hkey]
      rfl

theorem put_of_get? (h : get? es key = some v) : put es key v = es := by
  induction es with
  | nil => cases h
  | cons e rest ih =>
    obtain ⟨k, w⟩ := e
    rw [get?_cons] at h
    rw [put]
    split at h
    · next hk =>
      cases h
      rw [if_pos hk]
    · next hk => rw [if_neg hk, ih h]

theorem put_put_same (hsame : key.same other = true) (es : Entries α) (v w : α) :
    put (put es key v) other w = put es key w := by
  induction es with
  | nil => simp [put, hsame]
  | cons e rest ih =>
    obtain ⟨k, u⟩ := e
    rw [put, put]
    cases hk : k.same key with
    | true => simp [put, Scalar.same_trans hk hsame]
    | false =>
      have hother : k.same other = false := by rw [← Scalar.same_congr hsame, hk]
      simp [put, hother, ih]

theorem put_put_comm (hother : key.same other = false) (hkey : (get? es key).isSome = true)
    (v w : α) : put (put es key v) other w = put (put es other w) key v := by
  induction es with
  | nil => cases hkey
  | cons e rest ih =>
    obtain ⟨k, u⟩ := e
    rw [get?_cons] at hkey
    cases hk : k.same key with
    | true =>
      have hk' : k.same other = false := by
        rw [Scalar.same_comm, Scalar.same_congr hk, Scalar.same_comm, hother]
      simp [put, hk, hk']
    | false =>
      rw [hk, if_neg Bool.false_ne_true] at hkey
      cases hk' : k.same other with
      | true => simp [put, hk, hk']
      | false => simp [put, hk, hk', ih hkey]

theorem overlay_cons (es : Entries α) (key : Scalar) (v : α) (rest : Entries α) :
    overlay es ((key, v) :: rest) = overlay (put es key v) rest := rfl

private theorem put_overlay (hupper : get? upper key = none) (hkey : (get? es key).isSome = true)
    (v : α) : put (overlay es upper) key v = overlay (put es key v) upper := by
  induction upper generalizing es with
  | nil => rfl
  | cons e rest ih =>
    obtain ⟨k, w⟩ := e
    rw [get?_cons] at hupper
    split at hupper
    · cases hupper
    · next hk =>
      have hk : k.same key = false := Bool.eq_false_iff.mpr hk
      have hput : (get? (put es k w) key).isSome = true := by
        rw [get?_put, hk, if_neg Bool.false_ne_true, hkey]
      rw [overlay_cons, overlay_cons, ih hupper hput,
        put_put_comm (by rw [Scalar.same_comm, hk]) hkey]

theorem overlay_put (h : DistinctKeys upper) (es : Entries α) (key : Scalar) (v : α) :
    overlay es (put upper key v) = put (overlay es upper) key v := by
  induction upper generalizing es with
  | nil => rfl
  | cons e rest ih =>
    obtain ⟨k, w⟩ := e
    rw [put]
    cases hk : k.same key with
    | true =>
      rw [if_pos rfl, overlay_cons, overlay_cons, put_overlay (h.get?_tail hk) ?_,
        put_put_same hk]
      rw [← get?_same hk, get?_put_same]
      rfl
    | false => rw [if_neg Bool.false_ne_true, overlay_cons, overlay_cons, ih h.tail]

theorem overlay_assoc {middle : Entries α} (h : DistinctKeys middle) (es upper : Entries α) :
    overlay es (overlay middle upper) = overlay (overlay es middle) upper := by
  induction upper generalizing middle with
  | nil => rfl
  | cons e rest ih =>
    obtain ⟨k, w⟩ := e
    rw [overlay_cons, overlay_cons, ih (h.put k w), overlay_put h]

theorem overlay_of_get? (h : ∀ e ∈ upper, get? es e.1 = some e.2) : overlay es upper = es := by
  induction upper with
  | nil => rfl
  | cons e rest ih =>
    obtain ⟨hfirst, hrest⟩ := List.forall_mem_cons.mp h
    rw [overlay_cons, put_of_get? hfirst, ih hrest]

theorem overlay_self (h : DistinctKeys es) : overlay es es = es :=
  overlay_of_get? fun _ he => get?_of_mem h he

theorem overlay_overlay (h : DistinctKeys es) (upper : Entries α) :
    overlay es (overlay es upper) = overlay es upper := by
  rw [overlay_assoc h, overlay_self h]

private theorem cons_overlay (h : ∀ k ∈ keys upper, key.same k = false) (es : Entries α) (v : α) :
    overlay ((key, v) :: es) upper = (key, v) :: overlay es upper := by
  induction upper generalizing es with
  | nil => rfl
  | cons e rest ih =>
    obtain ⟨k, w⟩ := e
    obtain ⟨hfirst, hrest⟩ := List.forall_mem_cons.mp h
    rw [overlay_cons, overlay_cons, put, hfirst, if_neg Bool.false_ne_true, ih hrest]

theorem overlay_nil (h : DistinctKeys es) : overlay [] es = es := by
  induction es with
  | nil => rfl
  | cons e rest ih =>
    obtain ⟨k, w⟩ := e
    rw [overlay_cons, put, cons_overlay (List.pairwise_cons.mp h).1, ih h.tail]

end Entries

/-- The entries of a mapping; of anything else there are none. -/
def Data.entriesOf : Data → Entries Data
  | .map entries => entries
  | _ => []

theorem Data.value_entriesOf (d : Data) (name : String) :
    Entries.value d.entriesOf name = d.value name := by
  cases d <;> rfl

theorem Data.entriesOf_of_members {d : Data} {entries : Entries Data}
    (h : d.members = .ok entries) : d.entriesOf = entries := by
  rcases eq_of_members h with rfl | ⟨rfl, rfl⟩ <;> rfl

theorem Data.entriesOf_of_falsy {d : Data} (h : d.isTruthy = false) : d.entriesOf = [] := by
  cases d with
  | map entries => exact eq_nil_of_falsy h
  | _ => rfl

namespace Extensions

variable {base upper : Entries Data}

def mergeFacet (below : Option Data) (above : Data) : Data :=
  match below, above with
  | some (.map below), .map above => .map (Entries.overlay below above)
  | _, above => above

def mergedFacets (base upper : Entries Data) : Entries Data :=
  upper.map fun facet => (facet.1, mergeFacet (Entries.get? base facet.1) facet.2)

/-- One block laid on another. -/
def mergeOn (base upper : Entries Data) : Entries Data :=
  Entries.overlay base (mergedFacets base upper)

private theorem foldl_mergeFacet (h : Entries.DistinctKeys upper) (merged : Entries Data)
    (hmerged : ∀ facet ∈ upper, Entries.get? merged facet.1 = Entries.get? base facet.1) :
    upper.foldl (fun merged facet =>
      match Entries.get? merged facet.1, facet.2 with
      | some (.map below), .map above =>
        Entries.put merged facet.1 (.map (Entries.overlay below above))
      | _, value => Entries.put merged facet.1 value) merged =
      Entries.overlay merged (mergedFacets base upper) := by
  induction upper generalizing merged with
  | nil => rfl
  | cons facet rest ih =>
    obtain ⟨hfirst, hrest⟩ := List.forall_mem_cons.mp hmerged
    have hput : (match Entries.get? merged facet.1, facet.2 with
        | some (.map below), .map above =>
          Entries.put merged facet.1 (.map (Entries.overlay below above))
        | _, value => Entries.put merged facet.1 value) =
        Entries.put merged facet.1 (mergeFacet (Entries.get? base facet.1) facet.2) := by
      rw [hfirst]
      unfold mergeFacet
      split <;> rfl
    rw [List.foldl_cons, hput, ih h.tail]
    · rfl
    · intro other hmem
      have hother : facet.1.same other.1 = false :=
        (List.pairwise_cons.mp h).1 other.1 (List.mem_map.mpr ⟨other, hmem, rfl⟩)
      rw [Entries.get?_put, hother, if_neg Bool.false_ne_true, hrest other hmem]

theorem mergeBlocks_eq_ok {above : Data} {merged : Entries Data}
    (h : Entries.DistinctKeys above.entriesOf)
    (hmerged : mergeBlocks (.map base) above = .ok merged) :
    merged = mergeOn base above.entriesOf := by
  unfold mergeBlocks at hmerged
  rw [Data.toEntries_map, ok_bind] at hmerged
  have hfacets := foldl_mergeFacet h base fun _ _ => rfl
  extract_lets finish at hmerged
  split at hmerged
  · obtain ⟨entries, hentries, hmerged⟩ := exists_of_bind_eq_ok hmerged
    rw [Data.entriesOf_of_members hentries] at hfacets ⊢
    cases hmerged
    exact hfacets
  · next hfalsy =>
    rw [Data.entriesOf_of_falsy (Bool.eq_false_iff.mpr hfalsy)]
    cases hmerged
    rfl

theorem get?_mergeOn (h : Entries.DistinctKeys upper) (facet : Scalar) :
    Entries.get? (mergeOn base upper) facet =
      match Entries.get? upper facet with
      | some above => some (mergeFacet (Entries.get? base facet) above)
      | none => Entries.get? base facet := by
  have hmerged : Entries.get? (mergedFacets base upper) facet =
      (Entries.get? upper facet).map (mergeFacet (Entries.get? base facet)) := by
    clear h
    induction upper with
    | nil => rfl
    | cons e rest ih =>
      unfold mergedFacets at ih ⊢
      rw [List.map_cons, Entries.get?_cons, Entries.get?_cons, ih]
      cases he : e.1.same facet with
      | true =>
        rw [Entries.get?_same he]
        rfl
      | false => rfl
  have hkeys : Entries.DistinctKeys (mergedFacets base upper) := by
    unfold Entries.DistinctKeys Entries.keys mergedFacets
    rw [List.map_map]
    exact h
  rw [mergeOn, Entries.get?_overlay,
    Entries.get?_perm (hkeys.perm (List.reverse_perm _).symm) (List.reverse_perm _), hmerged]
  cases Entries.get? upper facet <;> rfl

private theorem mergeFacet_mergeFacet {below : Option Data}
    (h : ∀ inner, below = some (.map inner) → Entries.DistinctKeys inner) (above : Data) :
    mergeFacet below (mergeFacet below above) = mergeFacet below above := by
  cases below with
  | none => rfl
  | some d =>
    cases d with
    | map inner =>
      cases above with
      | map entries => exact congrArg Data.map (Entries.overlay_overlay (h inner rfl) entries)
      | _ => rfl
    | _ => rfl

private theorem mergeFacet_self {d : Data}
    (h : ∀ inner, d = .map inner → Entries.DistinctKeys inner) : mergeFacet (some d) d = d := by
  cases d with
  | map inner => exact congrArg Data.map (Entries.overlay_self (h inner rfl))
  | _ => rfl

/-- A block that is merged on another is merged on that other already. -/
theorem mergeOn_mergeOn (hbase : Entries.DistinctKeys base) (hupper : Entries.DistinctKeys upper)
    (hfacets : ∀ facet inner, Entries.get? base facet = some (.map inner) →
      Entries.DistinctKeys inner) :
    mergeOn base (mergeOn base upper) = mergeOn base upper := by
  have hmerged : mergedFacets base (mergeOn base upper) = mergeOn base upper := by
    refine (List.map_congr_left fun e he => ?_).trans (List.map_id _)
    have hget := Entries.get?_of_mem (hbase.overlay _) he
    rw [← mergeOn, get?_mergeOn hupper] at hget
    have hsame : mergeFacet (Entries.get? base e.1) e.2 = e.2 := by
      split at hget
      · next above _ =>
        rw [← Option.some.inj hget]
        exact mergeFacet_mergeFacet (hfacets e.1) above
      · rw [hget]
        exact mergeFacet_self fun inner hinner => hfacets e.1 inner (by rw [hget, hinner])
    exact Prod.ext rfl hsame
  calc mergeOn base (mergeOn base upper)
      = Entries.overlay base (mergeOn base upper) := by rw [mergeOn, hmerged]
    _ = mergeOn base upper := Entries.overlay_overlay hbase _

end Extensions

end StoreSchema
