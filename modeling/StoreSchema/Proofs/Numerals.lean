import StoreSchema.Number.Numeral

set_option autoImplicit false

namespace StoreSchema.Number.Numeral

open StoreSchema.Text

def AreDigits (s : List Char) : Prop := ∀ c ∈ s, c.isDigit = true

inductive IsSign : List Char → Prop
  | absent : IsSign []
  | plus : IsSign ['+']
  | minus : IsSign ['-']

/-- Digits, with a point before, among or after them or without one. -/
inductive IsMantissa : List Char → Prop
  | whole {digits : List Char} (hsome : digits ≠ []) (hdigits : AreDigits digits) :
      IsMantissa digits
  | pointed {digits fraction : List Char} (hsome : digits ≠ [] ∨ fraction ≠ [])
      (hdigits : AreDigits digits) (hfraction : AreDigits fraction) :
      IsMantissa (digits ++ '.' :: fraction)

/-- A power of ten, which may be left out. -/
inductive IsPower : List Char → Prop
  | absent : IsPower []
  | present {letter : Char} {sign digits : List Char} (hletter : letter = 'e' ∨ letter = 'E')
      (hsign : IsSign sign) (hsome : digits ≠ []) (hdigits : AreDigits digits) :
      IsPower (letter :: (sign ++ digits))

/-- The words for infinity and for no number, in any case of letters. -/
def IsWord (s : List Char) : Prop :=
  String.ofList (s.map Char.toLower) ∈ ["inf", "infinity", "nan"]

inductive IsUnsigned : List Char → Prop
  | word {s : List Char} (hword : IsWord s) : IsUnsigned s
  | decimal {mantissa power : List Char} (hmantissa : IsMantissa mantissa)
      (hpower : IsPower power) : IsUnsigned (mantissa ++ power)

inductive IsSigned : List Char → Prop
  | mk {sign number : List Char} (hsign : IsSign sign) (hnumber : IsUnsigned number) :
      IsSigned (sign ++ number)

/-- Each underscore stands between two digits. -/
def UnderscoresApart (s : List Char) : Prop :=
  ∀ before after, s = before ++ '_' :: after →
    (∃ c, before.getLast? = some c ∧ c.isDigit = true) ∧
      ∃ c, after.head? = some c ∧ c.isDigit = true

/-- A text is a numeral: spacing, a signed number that may have underscores, and spacing. -/
inductive IsNumeral (s : String) : Prop
  | mk {before number after : List Char} (hspell : plainDigits s = before ++ number ++ after)
      (hbefore : ∀ c ∈ before, Blank.isSpacing c = true)
      (hafter : ∀ c ∈ after, Blank.isSpacing c = true)
      (hunderscores : UnderscoresApart number)
      (hnumber : IsSigned (number.filter (· != '_')))

/-! ### The parts of a number -/

variable {s digits rest : List Char}

theorem AreDigits.ne {c d : Char} (h : AreDigits s) (hc : c ∈ s) (hd : d.isDigit = false) :
    c ≠ d := by
  intro heq
  rw [← heq, h c hc] at hd
  cases hd

theorem takeWhile_digits (hdigits : AreDigits digits)
    (hrest : ∀ c, rest.head? = some c → c.isDigit = false) :
    (digits ++ rest).takeWhile Char.isDigit = digits := by
  have hstop : rest.takeWhile Char.isDigit = [] := by
    cases rest with
    | nil => rfl
    | cons c more => simp [hrest c rfl]
  rw [List.takeWhile_append_of_pos hdigits, hstop, List.append_nil]

theorem dropWhile_digits (hdigits : AreDigits digits)
    (hrest : ∀ c, rest.head? = some c → c.isDigit = false) :
    (digits ++ rest).dropWhile Char.isDigit = rest := by
  rw [List.dropWhile_append_of_pos hdigits]
  cases rest with
  | nil => rfl
  | cons c more => simp [hrest c rfl]

theorem areDigits_takeWhile (s : List Char) : AreDigits (s.takeWhile Char.isDigit) := by
  intro c hc
  exact List.all_eq_true.mp (List.all_takeWhile) c hc

theorem exists_splitSign (s : List Char) : ∃ sign, IsSign sign ∧ s = sign ++ (splitSign s).2 := by
  unfold splitSign
  split
  · exact ⟨['-'], .minus, rfl⟩
  · exact ⟨['+'], .plus, rfl⟩
  · exact ⟨[], .absent, rfl⟩

theorem splitSign_append {sign : List Char} (hsign : IsSign sign)
    (hhead : ∀ c, rest.head? = some c → c ≠ '-' ∧ c ≠ '+') :
    (splitSign (sign ++ rest)).2 = rest := by
  cases hsign with
  | plus => rfl
  | minus => rfl
  | absent =>
    change (splitSign rest).2 = rest
    unfold splitSign
    split
    · exact absurd rfl (hhead '-' rfl).1
    · exact absurd rfl (hhead '+' rfl).2
    · rfl

theorem isSome_exponent?_cons (letter : Char) (rest : List Char) :
    (exponent? (letter :: rest)).isSome ↔ (letter = 'e' ∨ letter = 'E') ∧
      (splitSign rest).2 ≠ [] ∧ AreDigits (splitSign rest).2 := by
  have hletter : (letter == 'e' || letter == 'E') = true ↔ letter = 'e' ∨ letter = 'E' := by
    simp
  have hdigits : ((splitSign rest).2.isEmpty || !(splitSign rest).2.all Char.isDigit) = false ↔
      (splitSign rest).2 ≠ [] ∧ AreDigits (splitSign rest).2 := by
    simp [AreDigits]
  rw [exponent?, ← hletter, ← hdigits]
  dsimp only
  cases letter == 'e' || letter == 'E' with
  | false => simp
  | true =>
    cases (splitSign rest).2.isEmpty || !(splitSign rest).2.all Char.isDigit with
    | false => simp
    | true => simp

theorem isSome_exponent?_iff (s : List Char) : (exponent? s).isSome ↔ IsPower s := by
  cases s with
  | nil => exact ⟨fun _ => .absent, fun _ => rfl⟩
  | cons letter rest =>
    rw [isSome_exponent?_cons]
    constructor
    · rintro ⟨hletter, hsome, hdigits⟩
      obtain ⟨sign, hsign, hrest⟩ := exists_splitSign rest
      rw [hrest]
      exact .present hletter hsign hsome hdigits
    · intro h
      cases h with
      | @present _ sign digits hletter hsign hsome hdigits =>
        have hhead : ∀ c, digits.head? = some c → c ≠ '-' ∧ c ≠ '+' := by
          intro c hc
          have hmem : c ∈ digits := List.mem_of_head? hc
          exact ⟨hdigits.ne hmem (by decide), hdigits.ne hmem (by decide)⟩
        rw [splitSign_append hsign hhead]
        exact ⟨hletter, hsome, hdigits⟩

theorem IsPower.head {power : List Char} (h : IsPower power) {c : Char}
    (hc : power.head? = some c) : c.isDigit = false ∧ c ≠ '.' := by
  cases h with
  | absent => cases hc
  | present hletter =>
    cases hc
    rcases hletter with rfl | rfl
    · decide
    · decide

theorem splitFraction_of_power {power : List Char} (hpower : IsPower power) :
    splitFraction power = ([], power) := by
  unfold splitFraction
  split
  · next more => exact absurd rfl (hpower.head rfl).2
  · rfl

theorem splitFraction_append {fraction power : List Char} (hfraction : AreDigits fraction)
    (hpower : IsPower power) : splitFraction ('.' :: fraction ++ power) = (fraction, power) := by
  have hhead : ∀ c, power.head? = some c → c.isDigit = false := fun c hc => (hpower.head hc).1
  change ((fraction ++ power).takeWhile Char.isDigit,
    (fraction ++ power).dropWhile Char.isDigit) = _
  rw [takeWhile_digits hfraction hhead, dropWhile_digits hfraction hhead]

theorem isSome_decimal?_split (negative : Bool) (s : List Char) : (decimal? negative s).isSome ↔
    (s.takeWhile Char.isDigit ≠ [] ∨ (splitFraction (s.dropWhile Char.isDigit)).1 ≠ []) ∧
      IsPower (splitFraction (s.dropWhile Char.isDigit)).2 := by
  have hsome : ((s.takeWhile Char.isDigit).isEmpty &&
      (splitFraction (s.dropWhile Char.isDigit)).1.isEmpty) = false ↔
      (s.takeWhile Char.isDigit ≠ [] ∨ (splitFraction (s.dropWhile Char.isDigit)).1 ≠ []) := by
    rw [Bool.and_eq_false_iff, List.isEmpty_eq_false_iff, List.isEmpty_eq_false_iff]
  rw [decimal?, ← hsome, ← isSome_exponent?_iff]
  dsimp only
  cases (s.takeWhile Char.isDigit).isEmpty &&
      (splitFraction (s.dropWhile Char.isDigit)).1.isEmpty with
  | false => simp
  | true => simp

theorem isSome_decimal?_iff (negative : Bool) (s : List Char) : (decimal? negative s).isSome ↔
    ∃ mantissa power, s = mantissa ++ power ∧ IsMantissa mantissa ∧ IsPower power := by
  rw [isSome_decimal?_split]
  constructor
  · rintro ⟨hsome, hpower⟩
    have hdigits := areDigits_takeWhile s
    have hsplit : s = s.takeWhile Char.isDigit ++ s.dropWhile Char.isDigit :=
      List.takeWhile_append_dropWhile.symm
    generalize s.takeWhile Char.isDigit = digits at *
    generalize s.dropWhile Char.isDigit = after at *
    unfold splitFraction at hsome hpower
    split at hpower
    · next more =>
      -- A point follows the digits.
      refine ⟨digits ++ '.' :: more.takeWhile Char.isDigit, more.dropWhile Char.isDigit, ?_,
        .pointed hsome hdigits (areDigits_takeWhile more), hpower⟩
      rw [hsplit, List.append_assoc, List.cons_append, List.takeWhile_append_dropWhile]
    · have hwhole : digits ≠ [] := by simpa using hsome
      exact ⟨digits, after, hsplit, .whole hwhole hdigits, hpower⟩
  · rintro ⟨mantissa, power, rfl, hmantissa, hpower⟩
    cases hmantissa with
    | whole hsome hdigits =>
      have hhead : ∀ c, power.head? = some c → c.isDigit = false := fun c hc => (hpower.head hc).1
      rw [takeWhile_digits hdigits hhead, dropWhile_digits hdigits hhead,
        splitFraction_of_power hpower]
      exact ⟨.inl hsome, hpower⟩
    | @pointed digits fraction hsome hdigits hfraction =>
      have hpoint : ∀ c, ('.' :: fraction ++ power).head? = some c → c.isDigit = false := by
        intro c hc
        cases hc
        decide
      rw [List.append_assoc, takeWhile_digits hdigits hpoint, dropWhile_digits hdigits hpoint,
        splitFraction_append hfraction hpower]
      exact ⟨hsome, hpower⟩

theorem isSome_unsigned?_iff (negative : Bool) (s : List Char) :
    (unsigned? negative s).isSome ↔ IsUnsigned s := by
  have hword : IsWord s ↔ (String.ofList (s.map Char.toLower) == "inf" ||
      String.ofList (s.map Char.toLower) == "infinity") = true ∨
      (String.ofList (s.map Char.toLower) == "nan") = true := by
    simp [IsWord, or_assoc]
  have hunsigned : IsUnsigned s ↔ IsWord s ∨ (decimal? negative s).isSome := by
    rw [isSome_decimal?_iff]
    constructor
    · intro h
      cases h with
      | word h => exact .inl h
      | decimal hmantissa hpower => exact .inr ⟨_, _, rfl, hmantissa, hpower⟩
    · rintro (h | ⟨mantissa, power, rfl, hmantissa, hpower⟩)
      · exact .word h
      · exact .decimal hmantissa hpower
  rw [hunsigned, hword, unsigned?]
  split
  · next h => simp [h]
  · next h =>
    split
    · next hnan => simp [hnan]
    · next hnan => simp [h, hnan]

theorem IsMantissa.head {mantissa : List Char} (h : IsMantissa mantissa) :
    ∃ c rest, mantissa = c :: rest ∧ (c.isDigit = true ∨ c = '.') := by
  cases h with
  | whole hsome hdigits =>
    obtain ⟨c, rest, rfl⟩ := List.exists_cons_of_ne_nil hsome
    exact ⟨c, rest, rfl, .inl (hdigits c List.mem_cons_self)⟩
  | @pointed digits fraction hsome hdigits hfraction =>
    cases digits with
    | nil => exact ⟨'.', fraction, rfl, .inr rfl⟩
    | cons c rest => exact ⟨c, _, rfl, .inl (hdigits c List.mem_cons_self)⟩

theorem IsUnsigned.head {number : List Char} (h : IsUnsigned number) {c : Char}
    (hc : number.head? = some c) : c ≠ '-' ∧ c ≠ '+' := by
  cases h with
  | word hword =>
    obtain ⟨rest, rfl⟩ : ∃ rest, number = c :: rest := List.head?_eq_some_iff.mp hc
    have hinitials : ∀ word ∈ ["inf", "infinity", "nan"],
        ∃ d, word.toList.head? = some d ∧ (d = 'i' ∨ d = 'n') := by
      intro word hmem
      simp only [List.mem_cons, List.not_mem_nil, or_false] at hmem
      rcases hmem with rfl | rfl | rfl
      · exact ⟨'i', rfl, .inl rfl⟩
      · exact ⟨'i', rfl, .inl rfl⟩
      · exact ⟨'n', rfl, .inr rfl⟩
    obtain ⟨d, hd, hletter⟩ := hinitials _ hword
    obtain rfl : c.toLower = d := by
      rw [String.toList_ofList] at hd
      exact Option.some.inj hd
    constructor
    · rintro rfl
      revert hletter
      decide
    · rintro rfl
      revert hletter
      decide
  | decimal hmantissa hpower =>
    obtain ⟨d, rest, rfl, hd⟩ := hmantissa.head
    obtain rfl : d = c := Option.some.inj hc
    rcases hd with hd | rfl
    · constructor
      · rintro rfl
        cases hd
      · rintro rfl
        cases hd
    · decide

/-- A number is read behind a sign exactly if the text is a signed number. -/
theorem isSome_signed_iff (s : List Char) :
    (unsigned? (splitSign s).1 (splitSign s).2).isSome ↔ IsSigned s := by
  rw [isSome_unsigned?_iff]
  constructor
  · intro hnumber
    obtain ⟨sign, hsign, hs⟩ := exists_splitSign s
    rw [hs]
    exact .mk hsign hnumber
  · rintro ⟨hsign, hnumber⟩
    rw [splitSign_append hsign fun c hc => hnumber.head hc]
    exact hnumber

/-! ### Underscores -/

def UnderscoresApartAfter (afterDigit : Bool) (s : List Char) : Prop :=
  ∀ before after, s = before ++ '_' :: after →
    (∀ c, before.getLast? = some c → c.isDigit = true) ∧ (before = [] → afterDigit = true) ∧
      ∃ c, after.head? = some c ∧ c.isDigit = true

theorem underscoresApart_iff (s : List Char) :
    UnderscoresApart s ↔ UnderscoresApartAfter false s := by
  unfold UnderscoresApart UnderscoresApartAfter
  refine forall_congr' fun before => forall_congr' fun after => imp_congr_right fun _ => ?_
  cases hlast : before.getLast? with
  | none =>
    rw [List.getLast?_eq_none_iff] at hlast
    simp [hlast]
  | some c =>
    have hne : before ≠ [] := by
      rintro rfl
      cases hlast
    simp [hne]

theorem underscoresApartAfter_cons {c : Char} (hc : c ≠ '_') (afterDigit : Bool) (s : List Char) :
    UnderscoresApartAfter afterDigit (c :: s) ↔ UnderscoresApartAfter c.isDigit s := by
  constructor
  · intro h before after hs
    obtain ⟨hlast, -, hnext⟩ := h (c :: before) after (by rw [hs, List.cons_append])
    refine ⟨fun d hd => hlast d ?_, fun hnil => hlast c ?_, hnext⟩
    · rw [List.getLast?_cons, hd]
      rfl
    · rw [hnil]
      rfl
  · intro h before after hs
    cases before with
    | nil => exact absurd (List.cons.inj hs).1 hc
    | cons d before =>
      obtain ⟨rfl, hrest⟩ := List.cons.inj hs
      obtain ⟨hlast, hfirst, hnext⟩ := h before after hrest
      refine ⟨fun e he => ?_, fun hnil => absurd hnil (List.cons_ne_nil _ _), hnext⟩
      cases hbefore : before.getLast? with
      | none =>
        rw [List.getLast?_cons, hbefore] at he
        cases he
        exact hfirst (List.getLast?_eq_none_iff.mp hbefore)
      | some d =>
        rw [List.getLast?_cons, hbefore] at he
        cases he
        exact hlast d hbefore

theorem underscoresApartAfter_underscore (afterDigit : Bool) (s : List Char) :
    UnderscoresApartAfter afterDigit ('_' :: s) ↔ afterDigit = true ∧
      (∃ c, s.head? = some c ∧ c.isDigit = true) ∧ UnderscoresApartAfter false s := by
  constructor
  · intro h
    obtain ⟨-, hfirst, hnext⟩ := h [] s rfl
    refine ⟨hfirst rfl, hnext, fun before after hs => ?_⟩
    obtain ⟨hlast, -, hafter⟩ := h ('_' :: before) after (by rw [hs, List.cons_append])
    refine ⟨fun d hd => hlast d ?_, fun hnil => ?_, hafter⟩
    · rw [List.getLast?_cons, hd]
      rfl
    · -- The underscore would stand next to another.
      obtain ⟨c, hc, hdigit⟩ := hnext
      rw [hs, hnil] at hc
      cases hc
      cases hdigit
  · rintro ⟨hdigit, hnext, h⟩ before after hs
    cases before with
    | nil =>
      obtain rfl := (List.cons.inj hs).2
      exact ⟨fun c hc => (nomatch hc), fun _ => hdigit, hnext⟩
    | cons d before =>
      obtain ⟨rfl, hrest⟩ := List.cons.inj hs
      obtain ⟨hlast, hfirst, hafter⟩ := h before after hrest
      refine ⟨fun e he => ?_, fun hnil => absurd hnil (List.cons_ne_nil _ _), hafter⟩
      cases hbefore : before.getLast? with
      | none => cases hfirst (List.getLast?_eq_none_iff.mp hbefore)
      | some d =>
        rw [List.getLast?_cons, hbefore] at he
        cases he
        exact hlast d hbefore

theorem dropUnderscores_eq_some_iff (afterDigit : Bool) (s t : List Char) :
    dropUnderscores afterDigit s = some t ↔
      UnderscoresApartAfter afterDigit s ∧ t = s.filter (· != '_') := by
  induction s generalizing afterDigit t with
  | nil =>
    have hapart : UnderscoresApartAfter afterDigit [] := by
      intro before after hs
      cases before <;> cases hs
    simp [dropUnderscores, hapart, eq_comm]
  | cons c rest ih =>
    by_cases hc : c = '_'
    · subst hc
      rw [underscoresApartAfter_underscore]
      cases rest with
      | nil => simp [dropUnderscores]
      | cons d more =>
        rw [dropUnderscores]
        by_cases hdigits : afterDigit = true ∧ d.isDigit = true
        · rw [if_pos (Bool.and_eq_true_iff.mpr hdigits), ih false t]
          simp [hdigits.1, hdigits.2]
        · have hstop : ¬(afterDigit && d.isDigit) = true := by rwa [Bool.and_eq_true_iff]
          rw [if_neg hstop]
          constructor
          · intro h
            cases h
          · rintro ⟨⟨hafter, ⟨e, he, hdigit⟩, -⟩, -⟩
            cases he
            exact absurd ⟨hafter, hdigit⟩ hdigits
    · have hkept : (c :: rest).filter (· != '_') = c :: rest.filter (· != '_') := by
        rw [List.filter_cons_of_pos (by simpa using hc)]
      rw [underscoresApartAfter_cons hc, dropUnderscores, Option.map_eq_some_iff, hkept]
      · constructor
        · rintro ⟨u, hu, rfl⟩
          obtain ⟨hapart, rfl⟩ := (ih c.isDigit u).mp hu
          exact ⟨hapart, rfl⟩
        · rintro ⟨hapart, rfl⟩
          exact ⟨_, (ih c.isDigit _).mpr ⟨hapart, rfl⟩, rfl⟩
      · exact hc

/-! ### Spacing -/

theorem not_spacing_digit {c : Char} (h : c.isDigit = true) : Blank.isSpacing c = false := by
  have hrange : 48 ≤ c.toNat ∧ c.toNat ≤ 57 := Char.isDigit_iff_toNat.mp h
  exact Blank.isSpacing_of_visible (by omega) (by omega)

theorem not_spacing_sign {sign : List Char} (h : IsSign sign) :
    ∀ c ∈ sign, Blank.isSpacing c = false := by
  intro c hc
  cases h with
  | absent => cases hc
  | plus =>
    rw [List.mem_singleton.mp hc]
    decide
  | minus =>
    rw [List.mem_singleton.mp hc]
    decide

theorem not_spacing_mantissa {mantissa : List Char} (h : IsMantissa mantissa) :
    ∀ c ∈ mantissa, Blank.isSpacing c = false := by
  intro c hc
  cases h with
  | whole hsome hdigits => exact not_spacing_digit (hdigits c hc)
  | pointed hsome hdigits hfraction =>
    rcases List.mem_append.mp hc with hc | hc
    · exact not_spacing_digit (hdigits c hc)
    · rcases List.mem_cons.mp hc with rfl | hc
      · decide
      · exact not_spacing_digit (hfraction c hc)

theorem not_spacing_power {power : List Char} (h : IsPower power) :
    ∀ c ∈ power, Blank.isSpacing c = false := by
  intro c hc
  cases h with
  | absent => cases hc
  | present hletter hsign hsome hdigits =>
    rcases List.mem_cons.mp hc with rfl | hc
    · rcases hletter with rfl | rfl
      · decide
      · decide
    · rcases List.mem_append.mp hc with hc | hc
      · exact not_spacing_sign hsign c hc
      · exact not_spacing_digit (hdigits c hc)

theorem not_spacing_word {word : List Char} (h : IsWord word) :
    ∀ c ∈ word, Blank.isSpacing c = false := by
  have hall : (["inf", "infinity", "nan"].all fun word =>
      word.toList.all fun d => decide (97 ≤ d.toNat ∧ d.toNat ≤ 122)) = true := by decide
  intro c hc
  have hlower : c.toLower ∈ (String.ofList (word.map Char.toLower)).toList := by
    rw [String.toList_ofList]
    exact List.mem_map_of_mem hc
  have hrange := of_decide_eq_true (List.all_eq_true.mp (List.all_eq_true.mp hall _ h) _ hlower)
  have hvisible : 65 ≤ c.toNat ∧ c.toNat ≤ 122 := by
    unfold Char.toLower at hrange
    split at hrange
    · next hcapital =>
      have hcapital : 65 ≤ c.toNat ∧ c.toNat ≤ 90 := hcapital
      omega
    · omega
  exact Blank.isSpacing_of_visible (by omega) (by omega)

theorem not_spacing_signed {s : List Char} (h : IsSigned s) :
    ∀ c ∈ s, Blank.isSpacing c = false := by
  obtain ⟨hsign, hnumber⟩ := h
  intro c hc
  rcases List.mem_append.mp hc with hc | hc
  · exact not_spacing_sign hsign c hc
  · cases hnumber with
    | word hword => exact not_spacing_word hword c hc
    | decimal hmantissa hpower =>
      rcases List.mem_append.mp hc with hc | hc
      · exact not_spacing_mantissa hmantissa c hc
      · exact not_spacing_power hpower c hc

theorem exists_trim (s : List Char) : ∃ before after,
    s = before ++ (Blank.trim Blank.isSpacing (String.ofList s)).toList ++ after ∧
      (∀ c ∈ before, Blank.isSpacing c = true) ∧ ∀ c ∈ after, Blank.isSpacing c = true := by
  refine ⟨s.takeWhile Blank.isSpacing,
    ((s.dropWhile Blank.isSpacing).reverse.takeWhile Blank.isSpacing).reverse, ?_, ?_, ?_⟩
  · have hend : s.dropWhile Blank.isSpacing =
        ((s.dropWhile Blank.isSpacing).reverse.dropWhile Blank.isSpacing).reverse ++
          ((s.dropWhile Blank.isSpacing).reverse.takeWhile Blank.isSpacing).reverse := by
      rw [← List.reverse_append, List.takeWhile_append_dropWhile, List.reverse_reverse]
    rw [Blank.trim, String.toList_ofList, String.toList_ofList, List.append_assoc, ← hend,
      List.takeWhile_append_dropWhile]
  · exact List.all_eq_true.mp List.all_takeWhile
  · intro c hc
    exact List.all_eq_true.mp List.all_takeWhile c (List.mem_reverse.mp hc)

theorem dropWhile_eq_self {number : List Char} (h : ∀ c ∈ number, Blank.isSpacing c = false) :
    number.dropWhile Blank.isSpacing = number := by
  cases number with
  | nil => rfl
  | cons c rest => simp [h c List.mem_cons_self]

theorem trim_append {before number after : List Char}
    (hbefore : ∀ c ∈ before, Blank.isSpacing c = true)
    (hafter : ∀ c ∈ after, Blank.isSpacing c = true)
    (hnumber : ∀ c ∈ number, Blank.isSpacing c = false) :
    (Blank.trim Blank.isSpacing (String.ofList (before ++ number ++ after))).toList = number := by
  have hrest : (number ++ after).dropWhile Blank.isSpacing = number ++ after ∨ number = [] := by
    cases number with
    | nil => exact .inr rfl
    | cons c rest =>
      left
      simp [hnumber c List.mem_cons_self]
  have hreversed : number.reverse.dropWhile Blank.isSpacing = number.reverse :=
    dropWhile_eq_self fun c hc => hnumber c (List.mem_reverse.mp hc)
  have hreverse : ∀ c ∈ after.reverse, Blank.isSpacing c = true :=
    fun c hc => hafter c (List.mem_reverse.mp hc)
  rw [Blank.trim, String.toList_ofList, String.toList_ofList, List.append_assoc,
    List.dropWhile_append_of_pos hbefore]
  rcases hrest with hrest | rfl
  · rw [hrest, List.reverse_append, List.dropWhile_append_of_pos hreverse, hreversed,
      List.reverse_reverse]
  · have hempty : (after ++ []).dropWhile Blank.isSpacing = [] := by
      rw [List.dropWhile_append_of_pos hafter, List.dropWhile_nil]
    rw [List.append_nil] at hempty
    rw [List.nil_append, hempty]
    rfl

/-- The text that a number is read from: digits of any script as ASCII digits, and no spacing at the
ends. -/
def trimmed (s : String) : List Char :=
  (Blank.trim Blank.isSpacing (String.ofList (plainDigits s))).toList

theorem read?_eq (s : String) : read? s =
    (dropUnderscores false (trimmed s)).bind fun t => unsigned? (splitSign t).1 (splitSign t).2 :=
  rfl

theorem isSome_read?_trimmed (s : String) : (read? s).isSome ↔
    UnderscoresApart (trimmed s) ∧ IsSigned ((trimmed s).filter (· != '_')) := by
  rw [read?_eq, underscoresApart_iff]
  generalize trimmed s = core
  cases hdrop : dropUnderscores false core with
  | none =>
    constructor
    · intro h
      exact absurd h Bool.false_ne_true
    · rintro ⟨hapart, -⟩
      have hdropped := (dropUnderscores_eq_some_iff _ _ _).mpr ⟨hapart, rfl⟩
      rw [hdrop] at hdropped
      cases hdropped
  | some t =>
    obtain ⟨hapart, rfl⟩ := (dropUnderscores_eq_some_iff _ _ _).mp hdrop
    rw [Option.bind_some, isSome_signed_iff]
    exact ⟨fun h => ⟨hapart, h⟩, fun h => h.2⟩

/-- A number is read from a text exactly if the text is a numeral. -/
theorem isSome_read?_iff (s : String) : (read? s).isSome ↔ IsNumeral s := by
  rw [isSome_read?_trimmed]
  constructor
  · rintro ⟨hapart, hsigned⟩
    obtain ⟨before, after, hspell, hbefore, hafter⟩ := exists_trim (plainDigits s)
    exact .mk hspell hbefore hafter hapart hsigned
  · intro h
    cases h with
    | @mk before number after hspell hbefore hafter hunderscores hnumber =>
      have hvisible : ∀ c ∈ number, Blank.isSpacing c = false := by
        intro c hc
        by_cases hline : c = '_'
        · rw [hline]
          decide
        · apply not_spacing_signed hnumber
          exact List.mem_filter.mpr ⟨hc, by simpa using hline⟩
      have htrimmed : trimmed s = number := by
        rw [trimmed, hspell]
        exact trim_append hbefore hafter hvisible
      rw [htrimmed]
      exact ⟨hunderscores, hnumber⟩

end StoreSchema.Number.Numeral
