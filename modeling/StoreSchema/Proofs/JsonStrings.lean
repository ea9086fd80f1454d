import StoreSchema.Proofs.JsonNumbers
import StoreSchema.Proofs.Outcome

set_option autoImplicit false

namespace StoreSchema.Json

variable {l r : List Char}

theorem isSome_hexDigit?_iff {c : Char} : (hexDigit? c).isSome ↔ isHex c := by
  unfold hexDigit? isHex
  split
  · next hdigit => simp [hdigit]
  · next hdigit =>
    split
    · next hlower => simp [hlower]
    · next hlower =>
      split
      · next hupper => simp [hupper]
      · next hupper => simp [hdigit, hlower, hupper]

def StartsUnit (l r : List Char) : Prop :=
  ∃ a b c d, isHex a ∧ isHex b ∧ isHex c ∧ isHex d ∧ l = a :: b :: c :: d :: r

theorem StartsUnit.chars (h : StartsUnit l r) {t : List Char} (hr : Chars r t) :
    Chars ('\\' :: 'u' :: l) t := by
  obtain ⟨a, b, c, d, ha, hb, hc, hd, rfl⟩ := h
  exact .unit ha hb hc hd hr

theorem StartsUnit.suffix (h : StartsUnit l r) : r <:+ l := by
  obtain ⟨a, b, c, d, -, -, -, -, rfl⟩ := h
  exact ⟨[a, b, c, d], rfl⟩

theorem hexUnit?_take {l : List Char} {unit : Nat} (h : hexUnit? (l.take 4) = some unit) :
    StartsUnit l (l.drop 4) := by
  match l with
  | a :: b :: c :: d :: r =>
    change (do
      let a ← hexDigit? a
      let b ← hexDigit? b
      let c ← hexDigit? c
      let d ← hexDigit? d
      pure (a * 4096 + b * 256 + c * 16 + d)) = some unit at h
    obtain ⟨_, ha, h⟩ := Option.bind_eq_some_iff.mp h
    obtain ⟨_, hb, h⟩ := Option.bind_eq_some_iff.mp h
    obtain ⟨_, hc, h⟩ := Option.bind_eq_some_iff.mp h
    obtain ⟨_, hd, h⟩ := Option.bind_eq_some_iff.mp h
    have hhex : ∀ {c : Char} {n : Nat}, hexDigit? c = some n → isHex c := by
      intro c n hn
      rw [← isSome_hexDigit?_iff, hn]
      rfl
    exact ⟨a, b, c, d, hhex ha, hhex hb, hhex hc, hhex hd, rfl⟩
  | [] | [_] | [_, _] | [_, _, _] => cases h

theorem ends_readUnit (c : Cursor) (depth : Nat) : Ends StartsUnit depth c.rest (readUnit c) := by
  unfold readUnit
  split
  · next unit hunit =>
    split
    · exact .malformed _ _
    · exact .ok (hexUnit?_take hunit)
  · exact .malformed _ _

inductive StartsPoint : List Char → List Char → Prop
  | unit {l r : List Char} (h : StartsUnit l r) : StartsPoint l r
  | pair {l more r : List Char} (h : StartsUnit l ('\\' :: 'u' :: more))
      (hlow : StartsUnit more r) : StartsPoint l r

theorem StartsPoint.chars (h : StartsPoint l r) {t : List Char} (hr : Chars r t) :
    Chars ('\\' :: 'u' :: l) t := by
  cases h with
  | unit h => exact h.chars hr
  | pair h hlow => exact h.chars (hlow.chars hr)

theorem StartsPoint.suffix (h : StartsPoint l r) : r <:+ l := by
  cases h with
  | unit h => exact h.suffix
  | pair h hlow => exact (hlow.suffix.trans ⟨['\\', 'u'], rfl⟩).trans h.suffix

theorem ends_readEscapedUnit (c : Cursor) (depth : Nat) :
    Ends StartsPoint depth c.rest (readEscapedUnit c) := by
  refine (ends_readUnit c depth).bind fun unit after hunit => ?_
  have hone : Ends StartsPoint depth c.rest (Except.ok (unit, after)) := .ok (.unit hunit)
  dsimp only
  split
  · split
    · next more hmore =>
      rw [hmore] at hunit
      split
      · have hrest : (after.advance 2).rest = more := by rw [Cursor.rest_advance, hmore]; rfl
        have hlow := ends_readUnit (after.advance 2) depth
        rw [hrest] at hlow
        have hsuffix : more <:+ c.rest := List.IsSuffix.trans ⟨['\\', 'u'], rfl⟩ hunit.suffix
        refine (hlow.later hsuffix fun r hr => StartsPoint.pair hunit hr).bind
          fun low afterLow hpair => ?_
        dsimp only
        split
        · exact .ok hpair
        · exact hone
      · exact hone
    · exact hone
  · exact hone

theorem mem_of_shortEscape? {c d : Char} (h : shortEscape? c = some d) :
    c ∈ ['"', '\\', '/', 'b', 'f', 'n', 'r', 't'] := by
  unfold shortEscape? at h
  split at h
  case h_9 => cases h
  all_goals simp

/-- The rest of a string is read from a text that starts with one. -/
theorem ends_readStringFrom (fuel start : Nat) (read : List Char) (c : Cursor) (depth : Nat) :
    Ends Chars depth c.rest (readStringFrom start read c fuel) := by
  induction fuel generalizing read c with
  | zero => exact .malformed _ _
  | succ fuel ih =>
    unfold readStringFrom
    split
    · exact .malformed _ _
    · next rest hrest =>
      rw [hrest]
      refine .ok ?_
      rw [Cursor.rest_advance, hrest]
      exact .close
    · exact .malformed _ _
    · next rest hrest =>
      have hpoint := ends_readEscapedUnit (c.advance 2) depth
      rw [Cursor.rest_advance, hrest] at hpoint
      rw [hrest]
      have hfront : rest <:+ '\\' :: 'u' :: rest := ⟨['\\', 'u'], rfl⟩
      have hlater : Ends (fun _ r => StartsPoint rest r) depth ('\\' :: 'u' :: rest) _ :=
        hpoint.later hfront fun r hr => hr
      refine hlater.bind fun point after hafter => ?_
      exact (ih _ after).later (hafter.suffix.trans hfront) fun r hr => hafter.chars hr
    · next letter rest _ hrest =>
      rw [hrest]
      split
      · next char hletter =>
        have hlater := ih (char :: read) (c.advance 2)
        rw [Cursor.rest_advance, hrest] at hlater
        exact hlater.later ⟨['\\', letter], rfl⟩ fun r hr =>
          .letter (mem_of_shortEscape? hletter) hr
      · exact .malformed _ _
    · next char rest hquote hnone _ hescape hrest =>
      rw [hrest]
      split
      · exact .malformed _ _
      · next hvisible =>
        have hlater := ih (char :: read) (c.advance 1)
        rw [Cursor.rest_advance, hrest] at hlater
        refine hlater.later (List.suffix_cons _ _) fun r hr => .plain hquote ?_ (by omega) hr
        intro hslash
        cases rest with
        | nil => exact hnone hslash rfl
        | cons letter tail => exact hescape letter tail hslash rfl

theorem readUnit_of_startsUnit {c : Cursor} (h : StartsUnit c.rest l) (hl : l ≠ []) :
    ∃ unit, readUnit c = .ok (unit, c.advance 4) := by
  obtain ⟨a, b, x, d, ha, hb, hx, hd, hrest⟩ := h
  obtain ⟨_, ha⟩ := Option.isSome_iff_exists.mp (isSome_hexDigit?_iff.mpr ha)
  obtain ⟨_, hb⟩ := Option.isSome_iff_exists.mp (isSome_hexDigit?_iff.mpr hb)
  obtain ⟨_, hx⟩ := Option.isSome_iff_exists.mp (isSome_hexDigit?_iff.mpr hx)
  obtain ⟨_, hd⟩ := Option.isSome_iff_exists.mp (isSome_hexDigit?_iff.mpr hd)
  have hunit : ∃ unit, hexUnit? (c.rest.take 4) = some unit := by
    rw [hrest]
    refine ⟨_, Option.bind_eq_some_iff.mpr ⟨_, ha, Option.bind_eq_some_iff.mpr ⟨_, hb,
      Option.bind_eq_some_iff.mpr ⟨_, hx, Option.bind_eq_some_iff.mpr ⟨_, hd, rfl⟩⟩⟩⟩⟩
  obtain ⟨unit, hunit⟩ := hunit
  have hlong : ¬c.rest.length ≤ 4 := by
    have hpos := List.length_pos_iff.mpr hl
    rw [hrest]
    simp only [List.length_cons]
    omega
  refine ⟨unit, ?_⟩
  unfold readUnit
  rw [hunit]
  dsimp only
  rw [if_neg hlong]

theorem Chars.ne_nil (h : Chars l r) : l ≠ [] := by
  cases h <;> exact List.cons_ne_nil _ _

theorem Chars.startsUnit (h : Chars ('\\' :: 'u' :: l) r) :
    ∃ m, StartsUnit l m ∧ Chars m r := by
  cases h with
  | plain _ hslash => exact absurd rfl hslash
  | letter hletter => simp at hletter
  | unit ha hb hc hd h => exact ⟨_, ⟨_, _, _, _, ha, hb, hc, hd, rfl⟩, h⟩

theorem StartsUnit.drop_eq (h : StartsUnit l r) : l.drop 4 = r := by
  obtain ⟨a, b, c, d, -, -, -, -, rfl⟩ := h
  rfl

theorem StartsUnit.length_eq (h : StartsUnit l r) : l.length = r.length + 4 := by
  obtain ⟨a, b, c, d, -, -, -, -, rfl⟩ := h
  rfl

theorem readEscapedUnit_of_startsUnit {c : Cursor} (h : StartsUnit c.rest l) (hl : Chars l r) :
    ∃ point after, readEscapedUnit c = .ok (point, after) ∧ Chars after.rest r ∧
      after.rest.length < c.rest.length := by
  obtain ⟨unit, hunit⟩ := readUnit_of_startsUnit h hl.ne_nil
  have hrest : (c.advance 4).rest = l := h.drop_eq
  have hlength := h.length_eq
  have hone : Chars (c.advance 4).rest r ∧ (c.advance 4).rest.length < c.rest.length := by
    rw [hrest]
    exact ⟨hl, by omega⟩
  unfold readEscapedUnit
  rw [hunit, ok_bind]
  dsimp only
  split
  · split
    · next more hmore =>
      split
      · have hpair : l = '\\' :: 'u' :: more := hrest.symm.trans hmore
        rw [hpair] at hl
        obtain ⟨m, hlow, hm⟩ := hl.startsUnit
        have hshorter := hlow.length_eq
        have hcursor : ((c.advance 4).advance 2).rest = more := by
          rw [Cursor.rest_advance, hmore]
          rfl
        rw [← hcursor] at hlow
        obtain ⟨low, hread⟩ := readUnit_of_startsUnit hlow hm.ne_nil
        rw [hread, ok_bind]
        dsimp only
        split
        · have hafter : (((c.advance 4).advance 2).advance 4).rest = m := hlow.drop_eq
          refine ⟨_, _, rfl, ?_, ?_⟩
          · rw [hafter]
            exact hm
          · rw [hafter, hlength, hpair]
            simp only [List.length_cons]
            omega
        · exact ⟨_, _, rfl, hone⟩
      · exact ⟨_, _, rfl, hone⟩
    · exact ⟨_, _, rfl, hone⟩
  · exact ⟨_, _, rfl, hone⟩

/-- A string that is there is read up to its closing quote. -/
theorem reaches_readStringFrom (fuel start : Nat) (read : List Char) (c : Cursor)
    (hfuel : c.rest.length < fuel) (h : Chars c.rest r) :
    Reaches r (readStringFrom start read c fuel) := by
  induction fuel generalizing read c with
  | zero => omega
  | succ fuel ih =>
    generalize hl : c.rest = l at h
    rw [hl] at hfuel
    unfold readStringFrom
    cases h with
    | close =>
      rw [hl]
      apply Reaches.ok
      rw [Cursor.rest_advance, hl]
      rfl
    | @plain char l _ hquote hslash hvisible h =>
      have hrest : (c.advance 1).rest = l := by rw [Cursor.rest_advance, hl]; rfl
      rw [hl]
      split
      · next heq => cases heq
      · next heq => exact absurd (List.cons.inj heq).1 hquote
      · next heq => exact absurd (List.cons.inj heq).1 hslash
      · next heq => exact absurd (List.cons.inj heq).1 hslash
      · next heq => exact absurd (List.cons.inj heq).1 hslash
      · next heq =>
        cases heq
        rw [if_neg (by omega)]
        rw [← hrest] at h
        refine ih _ _ ?_ h
        rw [hrest]
        simp only [List.length_cons] at hfuel
        omega
    | @letter char l _ hletter h =>
      have hrest : (c.advance 2).rest = l := by rw [Cursor.rest_advance, hl]; rfl
      have hshorter : (c.advance 2).rest.length < fuel := by
        rw [hrest]
        simp only [List.length_cons] at hfuel
        omega
      rw [← hrest] at h
      simp only [List.mem_cons, List.not_mem_nil, or_false] at hletter
      rw [hl]
      rcases hletter with rfl | rfl | rfl | rfl | rfl | rfl | rfl | rfl
      all_goals exact ih _ _ hshorter h
    | @unit a b x d l _ ha hb hx hd h =>
      have hunit : StartsUnit (c.advance 2).rest l := by
        refine ⟨a, b, x, d, ha, hb, hx, hd, ?_⟩
        rw [Cursor.rest_advance, hl]
        rfl
      obtain ⟨point, after, hread, hafter, hshorter⟩ := readEscapedUnit_of_startsUnit hunit h
      rw [hl]
      dsimp only
      rw [hread, ok_bind]
      have hfewer : after.rest.length < fuel := by
        rw [Cursor.rest_advance, hl] at hshorter
        simp only [List.length_drop, List.length_cons] at hshorter hfuel
        omega
      exact ih _ after hfewer hafter

theorem ends_readString (c : Cursor) (depth : Nat) : Ends Chars depth c.rest (readString c) :=
  ends_readStringFrom _ _ _ c depth

theorem reaches_readString {c : Cursor} (h : Chars c.rest r) : Reaches r (readString c) :=
  reaches_readStringFrom _ _ _ c (Nat.lt_succ_self _) h

end StoreSchema.Json
