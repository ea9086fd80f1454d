import Mathlib.Data.List.TakeWhile
import StoreSchema.Text.Encoding

set_option autoImplicit false

namespace StoreSchema.Text.Utf8

/-- The bytes encode a row of characters. -/
def IsUtf8 (bytes : List UInt8) : Prop :=
  ∃ chars : List Char, bytes = chars.flatMap String.utf8EncodeChar

variable {b second third fourth low high : UInt8} {more bytes tail : List UInt8} {count bits : Nat}
  {c : Char}

theorem isContinuation_iff : isContinuation b = true ↔ 128 ≤ b.toNat ∧ b.toNat ≤ 191 := by
  simp [isContinuation, UInt8.le_iff_toNat_le]

/-! ### First bytes -/

theorem leadOf?_two (hlow : 194 ≤ b.toNat) (hhigh : b.toNat ≤ 223) :
    leadOf? b = some (1, b.toNat - 192, 0x80, 0xBF) := by
  simp [leadOf?, UInt8.le_iff_toNat_le, hlow, hhigh]

theorem leadOf?_three (hlow : 224 ≤ b.toNat) (hhigh : b.toNat ≤ 239) :
    leadOf? b = some (2, b.toNat - 224, if b.toNat = 224 then 0xA0 else 0x80,
      if b.toNat = 237 then 0x9F else 0xBF) := by
  have htwo : ¬b.toNat ≤ 223 := by omega
  simp only [leadOf?, UInt8.le_iff_toNat_le, beq_iff_eq, ← UInt8.toNat_inj]
  by_cases hfirst : b.toNat = 224
  · simp [hfirst]
  · by_cases hsurrogate : b.toNat = 237
    · simp [hsurrogate]
    · have hthree : 225 ≤ b.toNat := by omega
      simp [htwo, hfirst, hsurrogate, hthree, hhigh]

theorem leadOf?_four (hlow : 240 ≤ b.toNat) (hhigh : b.toNat ≤ 244) :
    leadOf? b = some (3, b.toNat - 240, if b.toNat = 240 then 0x90 else 0x80,
      if b.toNat = 244 then 0x8F else 0xBF) := by
  have hfour : b.toNat = 240 ∨ b.toNat = 241 ∨ b.toNat = 242 ∨ b.toNat = 243 ∨ b.toNat = 244 := by
    omega
  simp only [leadOf?, UInt8.le_iff_toNat_le, beq_iff_eq, ← UInt8.toNat_inj]
  rcases hfour with h | h | h | h | h
  all_goals simp [h]

theorem leadOf?_none (h : b.toNat < 194 ∨ 244 < b.toNat) : leadOf? b = none := by
  simp only [leadOf?, UInt8.le_iff_toNat_le, beq_iff_eq, ← UInt8.toNat_inj]
  rcases h with h | h
  · have hno : ∀ n, 194 ≤ n → ¬n ≤ b.toNat ∧ b.toNat ≠ n := by omega
    simp [hno]
  · have hno : ∀ n, n ≤ 244 → ¬b.toNat ≤ n ∧ b.toNat ≠ n := by omega
    simp [hno]

/-! ### The bytes of one character -/

theorem exists_char {n : Nat} (h : n.isValidChar) : ∃ c : Char, c.toNat = n := by
  refine ⟨Char.ofNat n, ?_⟩
  rw [Char.ofNat, dif_pos h]
  rfl

theorem utf8EncodeChar_eq (c : Char) : String.utf8EncodeChar c =
    if c.toNat ≤ 127 then [UInt8.ofNat c.toNat]
    else if c.toNat ≤ 2047 then
      [UInt8.ofNat (c.toNat / 64 % 32 + 192), UInt8.ofNat (c.toNat % 64 + 128)]
    else if c.toNat ≤ 65535 then
      [UInt8.ofNat (c.toNat / 4096 % 16 + 224), UInt8.ofNat (c.toNat / 64 % 64 + 128),
        UInt8.ofNat (c.toNat % 64 + 128)]
    else
      [UInt8.ofNat (c.toNat / 262144 % 8 + 240), UInt8.ofNat (c.toNat / 4096 % 64 + 128),
        UInt8.ofNat (c.toNat / 64 % 64 + 128), UInt8.ofNat (c.toNat % 64 + 128)] := rfl

theorem encode_one_iff : String.utf8EncodeChar c = [b] ↔ b.toNat < 128 ∧ c.toNat = b.toNat := by
  rw [utf8EncodeChar_eq]
  split
  · simp [← UInt8.toNat_inj]
    omega
  · split
    · simp
      omega
    · split
      · simp
        omega
      · simp
        omega

theorem encode_two_iff : String.utf8EncodeChar c = [b, second] ↔
    194 ≤ b.toNat ∧ b.toNat ≤ 223 ∧ 128 ≤ second.toNat ∧ second.toNat ≤ 191 ∧
      c.toNat = (b.toNat - 192) * 64 + (second.toNat - 128) := by
  rw [utf8EncodeChar_eq]
  split
  · simp
    omega
  · split
    · simp [← UInt8.toNat_inj]
      omega
    · split
      · simp
        omega
      · simp
        omega

theorem encode_three_iff : String.utf8EncodeChar c = [b, second, third] ↔
    224 ≤ b.toNat ∧ b.toNat ≤ 239 ∧ 128 ≤ second.toNat ∧ second.toNat ≤ 191 ∧
      (b.toNat = 224 → 160 ≤ second.toNat) ∧ (b.toNat = 237 → second.toNat ≤ 159) ∧
      128 ≤ third.toNat ∧ third.toNat ≤ 191 ∧
      c.toNat = ((b.toNat - 224) * 64 + (second.toNat - 128)) * 64 + (third.toNat - 128) := by
  have hvalid : c.toNat < 0xD800 ∨ 0xDFFF < c.toNat ∧ c.toNat < 0x110000 := c.valid
  rw [utf8EncodeChar_eq]
  split
  · simp
    omega
  · split
    · simp
      omega
    · split
      · simp [← UInt8.toNat_inj]
        omega
      · simp
        omega

theorem encode_four_iff : String.utf8EncodeChar c = [b, second, third, fourth] ↔
    240 ≤ b.toNat ∧ b.toNat ≤ 244 ∧ 128 ≤ second.toNat ∧ second.toNat ≤ 191 ∧
      (b.toNat = 240 → 144 ≤ second.toNat) ∧ (b.toNat = 244 → second.toNat ≤ 143) ∧
      128 ≤ third.toNat ∧ third.toNat ≤ 191 ∧
      128 ≤ fourth.toNat ∧ fourth.toNat ≤ 191 ∧
      c.toNat = (((b.toNat - 240) * 64 + (second.toNat - 128)) * 64 + (third.toNat - 128)) * 64 +
        (fourth.toNat - 128) := by
  have hvalid : c.toNat < 0xD800 ∨ 0xDFFF < c.toNat ∧ c.toNat < 0x110000 := c.valid
  rw [utf8EncodeChar_eq]
  split
  · simp
    omega
  · split
    · simp
      omega
    · split
      · simp
        omega
      · simp [← UInt8.toNat_inj]
        omega

/-! ### Decoding one character -/

theorem continued_eq_iff (hcount : 0 < count) : continued low high count bytes = count ↔
    ∃ second more tail, bytes = second :: (more ++ tail) ∧ more.length + 1 = count ∧
      low ≤ second ∧ second ≤ high ∧ ∀ x ∈ more, isContinuation x = true := by
  obtain ⟨n, rfl⟩ := Nat.exists_eq_add_one.mpr hcount
  cases bytes with
  | nil => simp [continued]
  | cons second rest =>
    have hlength := (List.takeWhile_prefix isContinuation (l := rest.take n)).length_le
    have htake : (rest.take n).length ≤ n := List.length_take_le n rest
    simp only [continued, List.take_succ_cons, Bool.and_eq_true, decide_eq_true_eq]
    constructor
    · intro h
      split at h
      · next hrange =>
        have hwhole : (rest.take n).takeWhile isContinuation = rest.take n :=
          (List.takeWhile_prefix isContinuation).eq_of_length (by omega)
        refine ⟨second, rest.take n, rest.drop n, ?_, by omega, hrange.1, hrange.2, ?_⟩
        · rw [List.take_append_drop]
        · intro x hx
          rw [← hwhole] at hx
          exact List.mem_takeWhile_imp hx
      · cases h
    · rintro ⟨_, more, tail, heq, hmore, hlow, hhigh, hall⟩
      cases heq
      rw [if_pos ⟨hlow, hhigh⟩]
      have hfront : (more ++ tail).take n = more := by
        rw [show n = more.length by omega, List.take_left]
      rw [hfront, List.takeWhile_eq_self_iff.mpr hall]
      omega

section Range

variable {P : Prop} [Decidable P] {bound : UInt8} {n : Nat}

theorem lower_le_iff (hbound : bound.toNat = n) (hn : 128 ≤ n) :
    (if P then bound else 0x80) ≤ second ↔ 128 ≤ second.toNat ∧ (P → n ≤ second.toNat) := by
  rw [UInt8.le_iff_toNat_le]
  split
  · next hp =>
    rw [hbound]
    exact ⟨fun h => ⟨by omega, fun _ => h⟩, fun h => h.2 hp⟩
  · next hp => exact ⟨fun h => ⟨h, fun h => absurd h hp⟩, fun h => h.1⟩

theorem le_upper_iff (hbound : bound.toNat = n) (hn : n ≤ 191) :
    second ≤ (if P then bound else 0xBF) ↔ second.toNat ≤ 191 ∧ (P → second.toNat ≤ n) := by
  rw [UInt8.le_iff_toNat_le]
  split
  · next hp =>
    rw [hbound]
    exact ⟨fun h => ⟨by omega, fun _ => h⟩, fun h => h.2 hp⟩
  · next hp => exact ⟨fun h => ⟨h, fun h => absurd h hp⟩, fun h => h.1⟩

end Range

theorem exists_char_of_lead (hlead : leadOf? b = some (count, bits, low, high))
    (hmore : more.length + 1 = count) (hlow : low ≤ second) (hhigh : second ≤ high)
    (hall : ∀ x ∈ more, isContinuation x = true) :
    ∃ c : Char, String.utf8EncodeChar c = b :: second :: more ∧
      c.toNat = codePoint bits (second :: more) := by
  by_cases hnone : b.toNat < 194 ∨ 244 < b.toNat
  · rw [leadOf?_none hnone] at hlead
    cases hlead
  · by_cases htwo : b.toNat ≤ 223
    · rw [leadOf?_two (by omega) htwo] at hlead
      simp only [Option.some.injEq, Prod.mk.injEq] at hlead
      obtain ⟨rfl, rfl, rfl, rfl⟩ := hlead
      have hs : 128 ≤ second.toNat := UInt8.le_iff_toNat_le.mp hlow
      have hs' : second.toNat ≤ 191 := UInt8.le_iff_toNat_le.mp hhigh
      match more, hmore with
      | [], _ =>
        obtain ⟨c, hc⟩ : ∃ c : Char, c.toNat = (b.toNat - 192) * 64 + (second.toNat - 128) :=
          exists_char (Or.inl (by omega))
        exact ⟨c, encode_two_iff.mpr ⟨by omega, htwo, hs, hs', hc⟩, hc⟩
    · by_cases hthree : b.toNat ≤ 239
      -- The range of the second byte leaves out overlong forms and surrogates.
      · rw [leadOf?_three (by omega) hthree] at hlead
        simp only [Option.some.injEq, Prod.mk.injEq] at hlead
        obtain ⟨rfl, rfl, rfl, rfl⟩ := hlead
        obtain ⟨hs, hover⟩ := (lower_le_iff (n := 160) rfl (by omega)).mp hlow
        obtain ⟨hs', hsurrogate⟩ := (le_upper_iff (n := 159) rfl (by omega)).mp hhigh
        match more, hmore with
        | [third], _ =>
          obtain ⟨ht, ht'⟩ := isContinuation_iff.mp (hall third List.mem_cons_self)
          obtain ⟨c, hc⟩ : ∃ c : Char, c.toNat =
              ((b.toNat - 224) * 64 + (second.toNat - 128)) * 64 + (third.toNat - 128) := by
            apply exists_char
            unfold Nat.isValidChar
            omega
          exact ⟨c, encode_three_iff.mpr
            ⟨by omega, hthree, hs, hs', hover, hsurrogate, ht, ht', hc⟩, hc⟩
      · rw [leadOf?_four (by omega) (by omega)] at hlead
        simp only [Option.some.injEq, Prod.mk.injEq] at hlead
        obtain ⟨rfl, rfl, rfl, rfl⟩ := hlead
        obtain ⟨hs, hover⟩ := (lower_le_iff (n := 144) rfl (by omega)).mp hlow
        obtain ⟨hs', hlast⟩ := (le_upper_iff (n := 143) rfl (by omega)).mp hhigh
        match more, hmore with
        | [third, fourth], _ =>
          obtain ⟨ht, ht'⟩ := isContinuation_iff.mp (hall third List.mem_cons_self)
          obtain ⟨hf, hf'⟩ := isContinuation_iff.mp
            (hall fourth (List.mem_cons_of_mem _ List.mem_cons_self))
          obtain ⟨c, hc⟩ : ∃ c : Char,
              c.toNat = (((b.toNat - 240) * 64 + (second.toNat - 128)) * 64 +
                (third.toNat - 128)) * 64 + (fourth.toNat - 128) := by
            apply exists_char
            right
            omega
          exact ⟨c, encode_four_iff.mpr
            ⟨by omega, by omega, hs, hs', hover, hlast, ht, ht', hf, hf', hc⟩, hc⟩

theorem lead_of_char (h : String.utf8EncodeChar c = b :: second :: more) :
    ∃ count bits low high, leadOf? b = some (count, bits, low, high) ∧ 128 ≤ b.toNat ∧
      more.length + 1 = count ∧ low ≤ second ∧ second ≤ high ∧
      (∀ x ∈ more, isContinuation x = true) ∧ codePoint bits (second :: more) = c.toNat := by
  have hlength : (b :: second :: more).length ≤ 4 := by
    rw [← h, String.length_utf8EncodeChar]
    exact c.utf8Size_le_four
  match more with
  | [] =>
    obtain ⟨hb, hb', hs, hs', hc⟩ := encode_two_iff.mp h
    exact ⟨_, _, _, _, leadOf?_two hb hb', by omega, rfl, UInt8.le_iff_toNat_le.mpr hs,
      UInt8.le_iff_toNat_le.mpr hs', by rintro x ⟨⟩, hc.symm⟩
  | [third] =>
    obtain ⟨hb, hb', hs, hs', hover, hsurrogate, ht, ht', hc⟩ := encode_three_iff.mp h
    refine ⟨_, _, _, _, leadOf?_three hb hb', by omega, rfl,
      (lower_le_iff (n := 160) rfl (by omega)).mpr ⟨hs, hover⟩,
      (le_upper_iff (n := 159) rfl (by omega)).mpr ⟨hs', hsurrogate⟩, ?_, hc.symm⟩
    intro x hx
    cases List.mem_singleton.mp hx
    exact isContinuation_iff.mpr ⟨ht, ht'⟩
  | [third, fourth] =>
    obtain ⟨hb, hb', hs, hs', hover, hlast, ht, ht', hf, hf', hc⟩ := encode_four_iff.mp h
    refine ⟨_, _, _, _, leadOf?_four hb hb', by omega, rfl,
      (lower_le_iff (n := 144) rfl (by omega)).mpr ⟨hs, hover⟩,
      (le_upper_iff (n := 143) rfl (by omega)).mpr ⟨hs', hlast⟩, ?_, hc.symm⟩
    intro x hx
    simp only [List.mem_cons, List.not_mem_nil, or_false] at hx
    rcases hx with rfl | rfl
    · exact isContinuation_iff.mpr ⟨ht, ht'⟩
    · exact isContinuation_iff.mpr ⟨hf, hf'⟩
  | _ :: _ :: _ :: _ =>
    simp only [List.length_cons] at hlength
    omega

/-! ### Decoding rows of characters -/

theorem hold_ascii (h : c.toNat < 128) : Surrogate.hold c.toNat = [c] := by
  have hlone : Surrogate.isLone c.toNat = false := by
    simp [Surrogate.isLone, Surrogate.isHigh, Surrogate.isLow]
    omega
  have hlast : (c.toNat == 0x10FFFF) = false := by
    rw [beq_eq_false_iff_ne]
    omega
  simp [Surrogate.hold, hlone, hlast]

theorem lt_of_lead (hlead : leadOf? b = some (count, bits, low, high)) : 0 < count := by
  cases count with
  | zero =>
    unfold leadOf? at hlead
    repeat' split at hlead
    all_goals simp at hlead
  | succ count => exact Nat.succ_pos count

theorem decodeFrom_char (position : Nat) (read : List Char) (c : Char) (rest : List UInt8)
    (fuel : Nat) : ∃ position',
      decodeFrom position read (String.utf8EncodeChar c ++ rest) (fuel + 1) =
        decodeFrom position' ((Surrogate.hold c.toNat).reverse ++ read) rest fuel := by
  generalize hc : String.utf8EncodeChar c = encoded
  match encoded, hc with
  | [], hc => exact absurd hc String.utf8EncodeChar_ne_nil
  | [b], hc =>
    obtain ⟨hb, hpoint⟩ := encode_one_iff.mp hc
    refine ⟨position + 1, ?_⟩
    have hbyte : b < 0x80 := UInt8.lt_iff_toNat_lt.mpr hb
    rw [List.singleton_append, decodeFrom, if_pos hbyte, hold_ascii (by omega), ← hpoint,
      Char.ofNat_toNat]
    rfl
  | b :: second :: more, hc =>
    obtain ⟨count, bits, low, high, hlead, hb, hmore, hlow, hhigh, hall, hpoint⟩ := lead_of_char hc
    have hbyte : ¬b < 0x80 := by
      rw [UInt8.lt_iff_toNat_lt]
      exact Nat.not_lt.mpr hb
    have hgood : continued low high count (second :: (more ++ rest)) = count :=
      (continued_eq_iff (by omega)).mpr ⟨second, more, rest, rfl, hmore, hlow, hhigh, hall⟩
    have hsplit : second :: (more ++ rest) = (second :: more) ++ rest := rfl
    have hcount : (second :: more).length = count := hmore
    refine ⟨position + 1 + count, ?_⟩
    rw [List.cons_append, List.cons_append, decodeFrom, if_neg hbyte, hlead]
    dsimp only
    rw [if_pos hgood, hsplit, ← hcount, List.take_left, List.drop_left, hpoint]

theorem exists_char_of_decodeFrom {position : Nat} {read held : List Char} {fuel : Nat}
    (h : decodeFrom position read (b :: bytes) (fuel + 1) = .ok held) :
    ∃ c rest, b :: bytes = String.utf8EncodeChar c ++ rest ∧ ∃ position' read',
      decodeFrom position' read' rest fuel = .ok held := by
  unfold decodeFrom at h
  dsimp only at h
  split at h
  · next hbyte =>
    have hb : b.toNat < 128 := UInt8.lt_iff_toNat_lt.mp hbyte
    obtain ⟨c, hc⟩ : ∃ c : Char, c.toNat = b.toNat := exists_char (Or.inl (by omega))
    exact ⟨c, bytes, by rw [encode_one_iff.mpr ⟨hb, hc⟩]; rfl, _, _, h⟩
  · split at h
    · cases h
    · next count bits low high hlead =>
      split at h
      · next hgood =>
        obtain ⟨second, more, rest, rfl, hmore, hlow, hhigh, hall⟩ :=
          (continued_eq_iff (lt_of_lead hlead)).mp hgood
        obtain ⟨c, hc, -⟩ := exists_char_of_lead hlead hmore hlow hhigh hall
        have hdrop : (second :: (more ++ rest)).drop count = rest := by
          rw [← hmore]
          exact List.drop_left
        rw [hdrop] at h
        exact ⟨c, rest, by rw [hc]; rfl, _, _, h⟩
      · cases h

theorem decodeFrom_flatMap (chars : List Char) (position : Nat) (read : List Char) (fuel : Nat)
    (hfuel : chars.length ≤ fuel) :
    decodeFrom position read (chars.flatMap String.utf8EncodeChar) fuel =
      .ok (read.reverse ++ Surrogate.ofChars chars) := by
  induction chars generalizing position read fuel with
  | nil =>
    rw [Surrogate.ofChars, List.flatMap_nil, List.flatMap_nil, List.append_nil]
    cases fuel <;> rfl
  | cons c chars ih =>
    cases fuel with
    | zero => cases hfuel
    | succ fuel =>
      rw [List.flatMap_cons]
      obtain ⟨position', hstep⟩ := decodeFrom_char position read c
        (chars.flatMap String.utf8EncodeChar) fuel
      rw [hstep, ih _ _ _ (Nat.le_of_succ_le_succ hfuel), List.reverse_append, List.reverse_reverse,
        List.append_assoc]
      rfl

theorem isUtf8_of_decodeFrom {position : Nat} {read held : List Char} {fuel : Nat}
    (hfuel : bytes.length ≤ fuel) (h : decodeFrom position read bytes fuel = .ok held) :
    IsUtf8 bytes := by
  induction fuel generalizing position read bytes with
  | zero =>
    rw [List.eq_nil_of_length_eq_zero (Nat.le_zero.mp hfuel)]
    exact ⟨[], rfl⟩
  | succ fuel ih =>
    cases bytes with
    | nil => exact ⟨[], rfl⟩
    | cons b bytes =>
      obtain ⟨c, rest, hbytes, position', read', hrest⟩ := exists_char_of_decodeFrom h
      have hlength := List.length_pos_iff.mpr (String.utf8EncodeChar_ne_nil (c := c))
      have hsum := congrArg List.length hbytes
      rw [List.length_append] at hsum
      obtain ⟨chars, hchars⟩ := ih (by omega) hrest
      refine ⟨c :: chars, ?_⟩
      rw [hbytes, hchars, List.flatMap_cons]

theorem length_le_flatMap (chars : List Char) :
    chars.length ≤ (chars.flatMap String.utf8EncodeChar).length := by
  induction chars with
  | nil => exact Nat.le_refl 0
  | cons c chars ih =>
    have hlength := List.length_pos_iff.mpr (String.utf8EncodeChar_ne_nil (c := c))
    rw [List.flatMap_cons, List.length_append, List.length_cons]
    omega

theorem decode_flatMap (chars : List Char) : decode (chars.flatMap String.utf8EncodeChar) =
    .ok (String.ofList (Surrogate.ofChars chars)) := by
  unfold decode
  rw [decodeFrom_flatMap chars 0 [] _ (length_le_flatMap chars)]
  rfl

/-- Bytes are decoded exactly if they encode characters, and then to these. -/
theorem decode_eq_ok_iff {s : String} : decode bytes = .ok s ↔
    ∃ chars : List Char, bytes = chars.flatMap String.utf8EncodeChar ∧
      s = String.ofList (Surrogate.ofChars chars) := by
  constructor
  · intro h
    cases hread : decodeFrom 0 [] bytes bytes.length with
    | error fault =>
      rw [decode, hread] at h
      cases h
    | ok held =>
      obtain ⟨chars, rfl⟩ := isUtf8_of_decodeFrom (Nat.le_refl _) hread
      rw [decode_flatMap] at h
      cases h
      exact ⟨chars, rfl, rfl⟩
  · rintro ⟨chars, rfl, rfl⟩
    exact decode_flatMap chars

theorem isUtf8_iff : IsUtf8 bytes ↔ ∃ s, decode bytes = .ok s := by
  simp only [decode_eq_ok_iff]
  constructor
  · rintro ⟨chars, h⟩
    exact ⟨_, chars, h, rfl⟩
  · rintro ⟨_, chars, h, -⟩
    exact ⟨chars, h⟩

end StoreSchema.Text.Utf8
