import Mathlib.Data.List.Forall2
import StoreSchema.Fault

set_option autoImplicit false

namespace StoreSchema

namespace Scalar

theorem same_comm (a b : Scalar) : a.same b = b.same a := by
  simp only [same, eq_comm]

theorem same_congr {a b : Scalar} (h : a.same b = true) (c : Scalar) : c.same a = c.same b := by
  simp only [same, same_iff.mp h]

theorem same_text_of_ne {a b : String} (h : a ≠ b) : (text a).same (text b) = false := by
  rw [Bool.eq_false_iff, Ne, same_text]
  intro hsame
  cases hsame
  exact h rfl

end Scalar

namespace Entries

variable {α : Type} {es : Entries α} {key other : Scalar} {v : α}

theorem get?_same (h : key.same other = true) (es : Entries α) : get? es key = get? es other := by
  induction es with
  | nil => rfl
  | cons e rest ih =>
    obtain ⟨k, w⟩ := e
    rw [get?_cons, get?_cons, Scalar.same_congr h k, ih]

theorem get?_put (es : Entries α) (key other : Scalar) (v : α) :
    get? (put es key v) other = if key.same other then some v else get? es other := by
  cases h : key.same other with
  | true => rw [← get?_same h, get?_put_same, if_pos rfl]
  | false => rw [get?_put_other es v h, if_neg (by simp)]

@[simp] theorem get?_erase_same (es : Entries α) (key : Scalar) :
    get? (erase es key) key = none := by
  induction es with
  | nil => rfl
  | cons e rest ih =>
    obtain ⟨k, w⟩ := e
    unfold erase at ih ⊢
    cases h : k.same key with
    | true => simpa [List.filter_cons, h] using ih
    | false => simpa [List.filter_cons, h, get?_cons] using ih

theorem get?_erase_other (h : key.same other = false) (es : Entries α) :
    get? (erase es key) other = get? es other := by
  induction es with
  | nil => rfl
  | cons e rest ih =>
    obtain ⟨k, w⟩ := e
    unfold erase at ih ⊢
    cases hk : k.same key with
    | true =>
      have hother : k.same other = false := by
        rw [Scalar.same_comm k other, Scalar.same_congr hk other, Scalar.same_comm, h]
      simpa [List.filter_cons, hk, get?_cons, hother] using ih
    | false =>
      rw [List.filter_cons, if_pos (by simp [hk]), get?_cons, get?_cons, ih]

theorem erase_put_same (es : Entries α) (key : Scalar) (v : α) :
    erase (put es key v) key = erase es key := by
  induction es with
  | nil => simp [put, erase]
  | cons e rest ih =>
    obtain ⟨k, w⟩ := e
    unfold erase at ih ⊢
    rw [put]
    cases hk : k.same key with
    | true => simp [hk]
    | false => simpa [hk] using ih

theorem get?_mapValues {β : Type} (f : α → β) (es : Entries α) (key : Scalar) :
    get? (mapValues f es) key = (get? es key).map f := by
  induction es with
  | nil => rfl
  | cons e rest ih =>
    obtain ⟨k, w⟩ := e
    unfold mapValues at ih ⊢
    rw [List.map_cons, get?_cons, get?_cons, ih]
    cases k.same key <;> rfl

theorem keys_mapValues {β : Type} (f : α → β) (es : Entries α) :
    keys (mapValues f es) = keys es := by
  simp only [keys, mapValues, List.map_map, Function.comp_def]

theorem get?_eq_find? (es : Entries α) (key : Scalar) :
    get? es key = (es.find? fun e => e.1.same key).map Prod.snd := by
  induction es with
  | nil => rfl
  | cons e rest ih =>
    obtain ⟨k, w⟩ := e
    rw [get?_cons, List.find?_cons, ih]
    cases k.same key <;> rfl

theorem get?_of_mem (hkeys : (keys es).Pairwise fun k k' => k.same k' = false) {e : Scalar × α}
    (he : e ∈ es) : get? es e.1 = some e.2 := by
  induction es with
  | nil => cases he
  | cons first rest ih =>
    obtain ⟨k, w⟩ := first
    obtain ⟨hfirst, hrest⟩ := List.pairwise_cons.mp hkeys
    rcases List.mem_cons.mp he with rfl | he
    · rw [get?_cons, if_pos (Scalar.same_refl k)]
    · have hother : k.same e.1 = false := hfirst _ (List.mem_map.mpr ⟨e, he, rfl⟩)
      rw [get?_cons, if_neg (by rw [hother]; exact Bool.false_ne_true), ih hrest he]

def DistinctKeys (es : Entries α) : Prop :=
  (keys es).Pairwise fun k k' => k.same k' = false

instance (es : Entries α) : Decidable (DistinctKeys es) :=
  inferInstanceAs (Decidable ((keys es).Pairwise fun k k' => k.same k' = false))

theorem DistinctKeys.perm {es es' : Entries α} (h : DistinctKeys es) (hperm : es.Perm es') :
    DistinctKeys es' := by
  refine ((hperm.map Prod.fst).pairwise_iff fun {k k'} hk => ?_).mp h
  rw [Scalar.same_comm, hk]

theorem get?_filter {p : Scalar → Bool} (hkey : ∀ k, k.same key = true → p k = true)
    (es : Entries α) : get? (es.filter fun e => p e.1) key = get? es key := by
  induction es with
  | nil => rfl
  | cons e rest ih =>
    obtain ⟨k, w⟩ := e
    rw [get?_cons, List.filter_cons]
    cases hk : k.same key with
    | true => rw [if_pos (hkey k hk), get?_cons, hk, if_pos rfl, if_pos rfl]
    | false =>
      rw [if_neg Bool.false_ne_true, ← ih]
      split
      · rw [get?_cons, hk, if_neg Bool.false_ne_true]
      · rfl

theorem mem_keys_put (hmem : other ∈ keys (put es key v)) : other ∈ keys es ∨ other = key := by
  induction es with
  | nil => exact Or.inr (List.mem_singleton.mp hmem)
  | cons e rest ih =>
    obtain ⟨k, w⟩ := e
    rw [put] at hmem
    split at hmem
    · exact Or.inl hmem
    · rcases List.mem_cons.mp hmem with rfl | hmem
      · exact Or.inl List.mem_cons_self
      · exact (ih hmem).imp (List.mem_cons_of_mem _) id

theorem nodup_put (h : (keys es).Nodup) (key : Scalar) (v : α) : (keys (put es key v)).Nodup := by
  induction es with
  | nil => simp [put, keys]
  | cons e rest ih =>
    obtain ⟨k, w⟩ := e
    obtain ⟨hk, hrest⟩ := List.nodup_cons.mp h
    rw [put]
    split
    · exact h
    · next hother =>
      refine List.nodup_cons.mpr ⟨fun hmem => ?_, ih hrest⟩
      rcases mem_keys_put hmem with hmem | hsame
      · exact hk hmem
      · exact hother (hsame ▸ Scalar.same_refl k)

theorem exists_mem_of_get? (h : get? es key = some v) : ∃ k, (k, v) ∈ es ∧ k.same key = true := by
  induction es with
  | nil => cases h
  | cons e rest ih =>
    obtain ⟨k, w⟩ := e
    rw [get?_cons] at h
    split at h
    · next hk =>
      cases h
      exact ⟨k, List.mem_cons_self, hk⟩
    · obtain ⟨k', hmem, hk'⟩ := ih h
      exact ⟨k', List.mem_cons_of_mem _ hmem, hk'⟩

theorem of_get? {P : α → Prop} (h : ∀ e ∈ es, P e.2) (hget : get? es key = some v) : P v := by
  obtain ⟨k, hmem, -⟩ := exists_mem_of_get? hget
  exact h _ hmem

theorem of_value {P : Data → Prop} {es : Entries Data} (h : ∀ e ∈ es, P e.2) (hnull : P .null)
    (name : String) : P (value es name) := by
  unfold value
  cases hget : get? es (.text name) with
  | none => exact hnull
  | some d => exact of_get? h hget

/-- Where no two keys are the same the order of the entries does not matter to what is found. -/
theorem get?_perm {es es' : Entries α} (h : DistinctKeys es) (hperm : es.Perm es') (key : Scalar) :
    get? es key = get? es' key := by
  have hfound : ∀ {fs gs : Entries α}, DistinctKeys gs → fs.Perm gs → ∀ {v : α},
      get? fs key = some v → get? gs key = some v := by
    intro fs gs hgs hfs v hv
    obtain ⟨k, hmem, hk⟩ := exists_mem_of_get? hv
    rw [← get?_same hk]
    exact get?_of_mem hgs (hfs.subset hmem)
  cases hv : get? es key with
  | some v => exact (hfound (h.perm hperm) hperm hv).symm
  | none =>
    cases hv' : get? es' key with
    | none => rfl
    | some v => rw [hfound h hperm.symm hv'] at hv; cases hv

theorem value_put_other {name word : String} (h : name ≠ word) (es : Entries Data) (d : Data) :
    value (put es (.text word) d) name = value es name := by
  rw [value, get?_put_other es d (Scalar.same_text_of_ne h.symm), value]

theorem value_erase (es : Entries Data) (key : Scalar) (name : String) :
    value (erase es key) name = if key.same (.text name) then .null else value es name := by
  unfold value
  cases h : key.same (.text name) with
  | true =>
    rw [← get?_same h, get?_erase_same]
    rfl
  | false =>
    rw [get?_erase_other h]
    rfl

section Forall

variable (P : Scalar → α → Prop)

theorem forall_put (hsame : ∀ {k k' : Scalar} {v : α}, k.same k' = true → P k' v → P k v)
    (h : ∀ e ∈ es, P e.1 e.2) (hv : P key v) : ∀ e ∈ put es key v, P e.1 e.2 := by
  induction es with
  | nil =>
    intro e he
    rw [List.mem_singleton.mp he]
    exact hv
  | cons entry rest ih =>
    obtain ⟨k, w⟩ := entry
    obtain ⟨hw, hrest⟩ := List.forall_mem_cons.mp h
    rw [put]
    split
    · next hk => exact List.forall_mem_cons.mpr ⟨hsame hk hv, hrest⟩
    · exact List.forall_mem_cons.mpr ⟨hw, ih hrest⟩

theorem forall_overlay {upper : Entries α}
    (hsame : ∀ {k k' : Scalar} {v : α}, k.same k' = true → P k' v → P k v)
    (h : ∀ e ∈ es, P e.1 e.2) (hupper : ∀ e ∈ upper, P e.1 e.2) :
    ∀ e ∈ overlay es upper, P e.1 e.2 := by
  induction upper generalizing es with
  | nil => exact h
  | cons entry rest ih =>
    obtain ⟨hentry, hrest⟩ := List.forall_mem_cons.mp hupper
    exact ih (forall_put P hsame h hentry) hrest

end Forall

section Paired

variable {β : Type} {es' : Entries β} {R : Scalar × α → Scalar × β → Prop}

theorem keys_of_forall₂ (hname : ∀ e e', R e e' → e.1 = e'.1) (h : List.Forall₂ R es es') :
    keys es = keys es' := by
  induction h with
  | nil => rfl
  | cons hfirst _ ih =>
    unfold keys at ih ⊢
    rw [List.map_cons, List.map_cons, ih, hname _ _ hfirst]

theorem get?_of_forall₂ (hname : ∀ e e', R e e' → e.1 = e'.1) (h : List.Forall₂ R es es')
    (key : Scalar) :
    (get? es key = none ∧ get? es' key = none) ∨
      ∃ k v w, k.same key = true ∧ R (k, v) (k, w) ∧
        get? es key = some v ∧ get? es' key = some w := by
  induction h with
  | nil => exact Or.inl ⟨rfl, rfl⟩
  | @cons e e' rest rest' hfirst _ ih =>
    obtain ⟨k, v⟩ := e
    obtain ⟨k', w⟩ := e'
    obtain rfl : k = k' := hname _ _ hfirst
    rw [get?_cons, get?_cons]
    cases hk : k.same key with
    | true => exact Or.inr ⟨k, v, w, hk, hfirst, rfl, rfl⟩
    | false => exact ih

theorem forall₂_put (hname : ∀ e e', R e e' → e.1 = e'.1) {w : β}
    (hput : ∀ k, k.same key = true → R (k, v) (k, w)) (hnew : R (key, v) (key, w))
    (h : List.Forall₂ R es es') : List.Forall₂ R (put es key v) (put es' key w) := by
  induction h with
  | nil => exact .cons hnew .nil
  | @cons e e' rest rest' hfirst hrest ih =>
    obtain ⟨k, u⟩ := e
    obtain ⟨k', u'⟩ := e'
    obtain rfl : k = k' := hname _ _ hfirst
    simp only [put]
    split
    · next hk => exact .cons (hput k hk) hrest
    · exact .cons hfirst ih

theorem forall₂_erase (hname : ∀ e e', R e e' → e.1 = e'.1) (h : List.Forall₂ R es es')
    (key : Scalar) : List.Forall₂ R (erase es key) (erase es' key) := by
  refine List.rel_filter (fun e e' hrelated => ?_) h
  dsimp only
  rw [hname e e' hrelated]

theorem forall₂_overlay {S : α → β → Prop} {upper : Entries α} {upper' : Entries β}
    (h : List.Forall₂ (fun e e' => e.1 = e'.1 ∧ S e.2 e'.2) es es')
    (hupper : List.Forall₂ (fun e e' => e.1 = e'.1 ∧ S e.2 e'.2) upper upper') :
    List.Forall₂ (fun e e' => e.1 = e'.1 ∧ S e.2 e'.2) (overlay es upper)
      (overlay es' upper') := by
  induction hupper generalizing es es' with
  | nil => exact h
  | @cons e e' rest rest' hfirst _ ih =>
    obtain ⟨name, d⟩ := e
    obtain ⟨name', d'⟩ := e'
    obtain ⟨rfl, hsame⟩ : name = name' ∧ S d d' := hfirst
    exact ih (forall₂_put (fun _ _ hsame => hsame.1) (fun _ _ => ⟨rfl, hsame⟩) ⟨rfl, hsame⟩ h)

end Paired

end Entries

namespace Data

theorem eq_of_members {d : Data} {entries : Entries Data} (h : d.members = .ok entries) :
    d = .map entries ∨ d = .recurrence true ∧ entries = [] := by
  unfold members at h
  split at h
  · cases h
    exact Or.inl rfl
  · cases h
    exact Or.inr ⟨rfl, rfl⟩
  · cases h

theorem value_of_members {d : Data} {entries : Entries Data} (h : d.members = .ok entries)
    (name : String) : Entries.value entries name = d.value name := by
  rcases eq_of_members h with rfl | ⟨rfl, rfl⟩ <;> rfl

theorem eq_nil_of_falsy {entries : Entries Data} (h : (map entries).isTruthy = false) :
    entries = [] := by
  simpa [isTruthy] using h

theorem mapM_key_scalars (names : List Scalar) :
    (names.map Data.scalar).mapM key = .ok names := by
  induction names with
  | nil => rfl
  | cons name rest ih =>
    rw [List.map_cons, List.mapM_cons, ih]
    rfl

theorem mapM_key_texts (names : List String) :
    (names.map Data.text).mapM key = .ok (names.map Scalar.text) := by
  rw [← mapM_key_scalars, List.map_map]
  rfl

theorem value_of_falsy {d : Data} (h : d.isTruthy = false) (name : String) :
    d.value name = .null := by
  cases d with
  | map entries =>
    rw [eq_nil_of_falsy h]
    rfl
  | _ => rfl

end Data

end StoreSchema
