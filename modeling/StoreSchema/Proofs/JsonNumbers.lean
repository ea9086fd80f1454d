import StoreSchema.Json.Reader
import StoreSchema.Proofs.Numerals

set_option autoImplicit false

namespace StoreSchema.Json

open StoreSchema.Number.Numeral

/-! ### The grammar -/

/-- Spaces, tabs and line ends, if there are any, stand between a text and what is left of it. -/
inductive Blanks : List Char → List Char → Prop
  | none {l : List Char} : Blanks l l
  | more {c : Char} {l r : List Char} (hspace : c ∈ [' ', '\t', '\n', '\r']) (h : Blanks l r) :
      Blanks (c :: l) r

/-- A zero alone, or digits of which the first is no zero. -/
inductive IsWhole : List Char → Prop
  | zero : IsWhole ['0']
  | digits {d : Char} {more : List Char} (hfirst : d ≠ '0') (hdigits : AreDigits (d :: more)) :
      IsWhole (d :: more)

/-- A point and digits, which may be left out. -/
inductive IsFraction : List Char → Prop
  | absent : IsFraction []
  | present {digits : List Char} (hsome : digits ≠ []) (hdigits : AreDigits digits) :
      IsFraction ('.' :: digits)

inductive IsNumber : List Char → Prop
  | mk {sign whole fraction power : List Char} (hsign : sign = [] ∨ sign = ['-'])
      (hwhole : IsWhole whole) (hfraction : IsFraction fraction) (hpower : IsPower power) :
      IsNumber (sign ++ whole ++ fraction ++ power)

def isHex (c : Char) : Prop :=
  c.isDigit = true ∨ ('a' ≤ c ∧ c ≤ 'f') ∨ ('A' ≤ c ∧ c ≤ 'F')

/-- The rest of a string up to its closing quote. -/
inductive Chars : List Char → List Char → Prop
  | close {r : List Char} : Chars ('"' :: r) r
  | plain {c : Char} {l r : List Char} (hquote : c ≠ '"') (hslash : c ≠ '\\')
      (hvisible : 32 ≤ c.toNat) (h : Chars l r) : Chars (c :: l) r
  | letter {c : Char} {l r : List Char}
      (hletter : c ∈ ['"', '\\', '/', 'b', 'f', 'n', 'r', 't']) (h : Chars l r) :
      Chars ('\\' :: c :: l) r
  | unit {a b c d : Char} {l r : List Char} (ha : isHex a) (hb : isHex b) (hc : isHex c)
      (hd : isHex d) (h : Chars l r) : Chars ('\\' :: 'u' :: a :: b :: c :: d :: l) r

/-- The name of a member and the colon after it. -/
inductive Name : List Char → List Char → Prop
  | mk {n c b r : List Char} (hname : Chars n c) (hcolon : Blanks c (':' :: b))
      (hblanks : Blanks b r) : Name ('"' :: n) r

def literals : List String :=
  ["null", "true", "false", "NaN", "Infinity", "-Infinity"]

mutual
/-- A text starts with a value. -/
inductive Value : List Char → List Char → Prop
  | word {w : String} {r : List Char} (hword : w ∈ literals) : Value (w.toList ++ r) r
  | number {s r : List Char} (hnumber : IsNumber s) : Value (s ++ r) r
  | string {l r : List Char} (h : Chars l r) : Value ('"' :: l) r
  | emptyList {l r : List Char} (h : Blanks l (']' :: r)) : Value ('[' :: l) r
  | list {l r : List Char} (h : Items l r) : Value ('[' :: l) r
  | emptyObject {l r : List Char} (h : Blanks l ('}' :: r)) : Value ('{' :: l) r
  | object {l r : List Char} (h : Members l r) : Value ('{' :: l) r

/-- The items of a list up to its closing bracket. -/
inductive Items : List Char → List Char → Prop
  | last {l v a r : List Char} (hbefore : Blanks l v) (h : Value v a)
      (hafter : Blanks a (']' :: r)) : Items l r
  | more {l v a m r : List Char} (hbefore : Blanks l v) (h : Value v a)
      (hafter : Blanks a (',' :: m)) (hmore : Items m r) : Items l r

/-- The members of an object up to its closing brace. -/
inductive Members : List Char → List Char → Prop
  | last {l n v a r : List Char} (hbefore : Blanks l n) (hname : Name n v) (h : Value v a)
      (hafter : Blanks a ('}' :: r)) : Members l r
  | more {l n v a m r : List Char} (hbefore : Blanks l n) (hname : Name n v) (h : Value v a)
      (hafter : Blanks a (',' :: m)) (hmore : Members m r) : Members l r
end

/-- A text is JSON: one value, which may have blanks before and after it. -/
def IsJson (s : String) : Prop :=
  ∃ v a, Blanks s.toList v ∧ Value v a ∧ Blanks a []

/-! ### Limits -/

/-- A row of digits in the text is longer than a row that is read as an integer. -/
def HasLongRun (l : List Char) : Prop :=
  ∃ digits, digits <:+: l ∧ AreDigits digits ∧ integerDigitLimit < digits.length

/-- The number of opening brackets and braces in a text. -/
def openings (l : List Char) : Nat :=
  l.countP fun c => c == '[' || c == '{'

variable {l l' r : List Char}

theorem HasLongRun.of_suffix (h : HasLongRun r) (hsuffix : r <:+ l) : HasLongRun l := by
  obtain ⟨digits, hdigits, hall, hlong⟩ := h
  exact ⟨digits, hdigits.trans hsuffix.isInfix, hall, hlong⟩

theorem openings_le_of_suffix (hsuffix : r <:+ l) : openings r ≤ openings l :=
  hsuffix.sublist.countP_le

/-- How reading from a text ends: with what is left of it, with a fault at a place, or at a limit
that the text passes. -/
inductive Ends {α : Type} (reads : List Char → List Char → Prop) (depth : Nat) (l : List Char) :
    Except Fault (α × Cursor) → Prop
  | ok {v : α} {after : Cursor} (h : reads l after.rest) : Ends reads depth l (.ok (v, after))
  | malformed (cause : Cause) (position : Nat) :
      Ends reads depth l (.error (.malformed cause position))
  | tooLong (h : HasLongRun l) : Ends reads depth l (.error .integerTooLong)
  | tooDeep (h : depth < openings l) : Ends reads depth l (.error .nestedTooDeep)

section Ends

variable {α β : Type} {reads reads' : List Char → List Char → Prop} {depth depth' : Nat}
  {a : Except Fault (α × Cursor)} {f : α × Cursor → Except Fault (β × Cursor)}

theorem Ends.bind (h : Ends reads depth l a)
    (hf : ∀ v after, reads l after.rest → Ends reads' depth l (f (v, after))) :
    Ends reads' depth l (a >>= f) := by
  cases h with
  | ok h => exact hf _ _ h
  | malformed cause position => exact .malformed cause position
  | tooLong h => exact .tooLong h
  | tooDeep h => exact .tooDeep h

theorem Ends.of_suffix (h : Ends reads depth' l' a) (hsuffix : l' <:+ l)
    (hdepth : depth + openings l' ≤ depth' + openings l)
    (hreads : ∀ r, reads l' r → reads' l r) : Ends reads' depth l a := by
  cases h with
  | ok h => exact .ok (hreads _ h)
  | malformed cause position => exact .malformed cause position
  | tooLong h => exact .tooLong (h.of_suffix hsuffix)
  | tooDeep h => exact .tooDeep (by omega)

theorem Ends.later (h : Ends reads depth l' a) (hsuffix : l' <:+ l)
    (hreads : ∀ r, reads l' r → reads' l r) : Ends reads' depth l a := by
  have hopenings := openings_le_of_suffix hsuffix
  exact h.of_suffix hsuffix (by omega) hreads

theorem Ends.imp (h : Ends reads depth l a) (hreads : ∀ r, reads l r → reads' l r) :
    Ends reads' depth l a :=
  h.later (List.suffix_refl l) hreads

end Ends

/-- Reading comes to what is left of a text, unless it comes to a limit. -/
def Reaches {α : Type} (r : List Char) (outcome : Except Fault (α × Cursor)) : Prop :=
  (∃ v after, outcome = .ok (v, after) ∧ after.rest = r) ∨
    outcome = .error .integerTooLong ∨ outcome = .error .nestedTooDeep

theorem Reaches.ok {α : Type} {v : α} {after : Cursor} (h : after.rest = r) :
    Reaches r (.ok (v, after)) :=
  Or.inl ⟨v, after, rfl, h⟩

theorem Reaches.bind {α β : Type} {r' : List Char} {a : Except Fault (α × Cursor)}
    {f : α × Cursor → Except Fault (β × Cursor)} (h : Reaches r a)
    (hf : ∀ v after, after.rest = r → Reaches r' (f (v, after))) : Reaches r' (a >>= f) := by
  rcases h with ⟨v, after, rfl, hafter⟩ | rfl | rfl
  · exact hf v after hafter
  · exact Or.inr (Or.inl rfl)
  · exact Or.inr (Or.inr rfl)

/-! ### Blanks -/

@[simp] theorem Cursor.rest_advance (c : Cursor) (count : Nat) :
    (c.advance count).rest = c.rest.drop count := rfl

theorem Cursor.isSpace_iff {c : Char} :
    Cursor.isSpace c = true ↔ c ∈ [' ', '\t', '\n', '\r'] := by
  simp [Cursor.isSpace, or_assoc]

theorem drop_of_append {front : List Char} (h : front ++ r = l) :
    l.drop front.length = r := by
  rw [← h, List.drop_left]

theorem Cursor.rest_skipSpace (c : Cursor) :
    c.skipSpace.rest = c.rest.dropWhile Cursor.isSpace :=
  drop_of_append List.takeWhile_append_dropWhile

def NoBlank (l : List Char) : Prop := ∀ c, l.head? = some c → Cursor.isSpace c = false

theorem blanks_dropWhile (l : List Char) : Blanks l (l.dropWhile Cursor.isSpace) := by
  induction l with
  | nil => exact .none
  | cons c rest ih =>
    cases hspace : Cursor.isSpace c with
    | true =>
      rw [List.dropWhile_cons_of_pos hspace]
      exact .more (Cursor.isSpace_iff.mp hspace) ih
    | false =>
      rw [List.dropWhile_cons_of_neg (Bool.eq_false_iff.mp hspace)]
      exact .none

theorem Blanks.dropWhile_eq (h : Blanks l r) (hr : NoBlank r) :
    l.dropWhile Cursor.isSpace = r := by
  induction h with
  | @none l =>
    cases l with
    | nil => rfl
    | cons c rest => exact List.dropWhile_cons_of_neg (Bool.eq_false_iff.mp (hr c rfl))
  | more hspace _ ih =>
    rw [List.dropWhile_cons_of_pos (Cursor.isSpace_iff.mpr hspace)]
    exact ih hr

theorem Blanks.trans {m : List Char} (h : Blanks l m) (h' : Blanks m r) : Blanks l r := by
  induction h with
  | none => exact h'
  | more hspace _ ih => exact .more hspace (ih h')

theorem Blanks.suffix (h : Blanks l r) : r <:+ l := by
  induction h with
  | none => exact List.suffix_refl _
  | more _ _ ih => exact ih.trans (List.suffix_cons _ _)

def NoDigit (l : List Char) : Prop := ∀ c, l.head? = some c → c.isDigit = false

theorem wholeDigits_front (l : List Char) : wholeDigits l <+: l := by
  unfold wholeDigits
  split
  · exact List.prefix_append ['0'] _
  · exact List.takeWhile_prefix _

theorem wholeDigits_of_head (h : l.head? ≠ some '0') :
    wholeDigits l = l.takeWhile Char.isDigit := by
  rw [wholeDigits]
  rintro rest rfl
  exact h rfl

theorem isWhole_wholeDigits (h : wholeDigits l ≠ []) : IsWhole (wholeDigits l) := by
  by_cases hzero : l.head? = some '0'
  · obtain ⟨rest, rfl⟩ := List.head?_eq_some_iff.mp hzero
    exact .zero
  · rw [wholeDigits_of_head hzero] at h ⊢
    have hdigits := areDigits_takeWhile l
    cases l with
    | nil => exact absurd rfl h
    | cons d rest =>
      have hfirst : d ≠ '0' := by
        rintro rfl
        exact hzero rfl
      cases hd : d.isDigit with
      | true =>
        rw [List.takeWhile_cons_of_pos hd] at hdigits ⊢
        exact .digits hfirst hdigits
      | false =>
        rw [List.takeWhile_cons_of_neg (Bool.eq_false_iff.mp hd)] at h
        exact absurd rfl h

theorem wholeDigits_append {whole : List Char} (h : IsWhole whole) (hl : NoDigit l) :
    wholeDigits (whole ++ l) = whole := by
  cases h with
  | zero => rfl
  | @digits d more hfirst hdigits =>
    have hhead : (d :: more ++ l).head? ≠ some '0' := by
      rintro heq
      exact hfirst (Option.some.inj heq)
    rw [wholeDigits_of_head hhead]
    exact takeWhile_digits hdigits hl

def fractionLength (l : List Char) : Nat :=
  if (fractionDigits l).isEmpty then 0 else (fractionDigits l).length + 1

theorem exists_fraction (l : List Char) :
    ∃ t, IsFraction t ∧ t.length = fractionLength l ∧ t <+: l := by
  unfold fractionLength
  cases hempty : (fractionDigits l).isEmpty with
  | true => exact ⟨[], .absent, rfl, List.nil_prefix⟩
  | false =>
    unfold fractionDigits at hempty ⊢
    split at hempty
    · next rest =>
      refine ⟨'.' :: rest.takeWhile Char.isDigit, .present ?_ (areDigits_takeWhile rest), rfl, ?_⟩
      · intro hnil
        rw [hnil] at hempty
        cases hempty
      · exact (List.prefix_cons_inj _).mpr (List.takeWhile_prefix _)
    · cases hempty

theorem fractionDigits_append {fraction : List Char} (h : IsFraction fraction)
    (hl : NoDigit l) (hpoint : l.head? ≠ some '.') :
    fractionDigits (fraction ++ l) = fraction.tail ∧
      fractionLength (fraction ++ l) = fraction.length := by
  have hdigits : fractionDigits (fraction ++ l) = fraction.tail := by
    cases h with
    | absent =>
      cases l with
      | nil => rfl
      | cons c rest =>
        change fractionDigits (c :: rest) = []
        rw [fractionDigits]
        rintro more heq
        exact hpoint (congrArg some (List.cons.inj heq).1)
    | present hsome hdigits => exact takeWhile_digits hdigits hl
  refine ⟨hdigits, ?_⟩
  rw [fractionLength, hdigits]
  cases h with
  | absent => rfl
  | @present digits hsome _ =>
    cases digits with
    | nil => exact absurd rfl hsome
    | cons d more => rfl

def taken (power : Option (Bool × List Char × Nat)) : Nat :=
  (power.map fun p => p.2.2).getD 0

private theorem exists_exponentDigits {letter : Char} {sign rest : List Char} (negative : Bool)
    (hletter : letter = 'e' ∨ letter = 'E') (hsign : IsSign sign) :
    ∃ t, IsPower t ∧ t.length = taken (exponentDigits? negative (sign.length + 1) rest) ∧
      t <+: letter :: (sign ++ rest) := by
  unfold exponentDigits?
  split
  · exact ⟨[], .absent, rfl, List.nil_prefix⟩
  · next digits hsome =>
    refine ⟨letter :: (sign ++ rest.takeWhile Char.isDigit),
      .present hletter hsign hsome (areDigits_takeWhile rest), ?_, ?_⟩
    · simp only [taken, List.length_cons, List.length_append, Option.map_some, Option.getD_some]
      omega
    · apply (List.prefix_cons_inj _).mpr
      exact (List.prefix_append_right_inj _).mpr (List.takeWhile_prefix _)

theorem exists_power (l : List Char) :
    ∃ t, IsPower t ∧ t.length = taken (exponentPart? l) ∧ t <+: l := by
  unfold exponentPart?
  split
  · next letter rest =>
    split
    · next hletter =>
      have hletter : letter = 'e' ∨ letter = 'E' := by simpa using hletter
      split
      · exact exists_exponentDigits false hletter .plus
      · exact exists_exponentDigits true hletter .minus
      · exact exists_exponentDigits false hletter .absent
    · exact ⟨[], .absent, rfl, List.nil_prefix⟩
  · exact ⟨[], .absent, rfl, List.nil_prefix⟩

private theorem exponentDigits?_append {digits : List Char} (negative : Bool) (lead : Nat)
    (hsome : digits ≠ []) (hdigits : AreDigits digits) (hl : NoDigit l) :
    exponentDigits? negative lead (digits ++ l) =
      some (negative, digits, lead + digits.length) := by
  unfold exponentDigits?
  rw [takeWhile_digits hdigits hl]
  cases digits with
  | nil => exact absurd rfl hsome
  | cons d more => rfl

theorem exponentPart?_append {power : List Char} (h : IsPower power) (hl : NoDigit l)
    (hletter : ∀ c, l.head? = some c → c ≠ 'e' ∧ c ≠ 'E') :
    taken (exponentPart? (power ++ l)) = power.length := by
  cases h with
  | absent =>
    cases l with
    | nil => rfl
    | cons c rest =>
      obtain ⟨hlower, hupper⟩ := hletter c rfl
      have hno : ¬(c == 'e' || c == 'E') = true := by simp [hlower, hupper]
      change taken (exponentPart? (c :: rest)) = 0
      unfold exponentPart?
      dsimp only
      rw [if_neg hno]
      rfl
  | @present letter sign digits hpresent hsign hsome hdigits =>
    have hyes : (letter == 'e' || letter == 'E') = true := by simpa using hpresent
    change taken (exponentPart? (letter :: (sign ++ digits ++ l))) = _
    unfold exponentPart?
    dsimp only
    rw [if_pos hyes]
    cases hsign with
    | plus =>
      change taken (exponentDigits? false 2 (digits ++ l)) = _
      rw [exponentDigits?_append false 2 hsome hdigits hl]
      exact Nat.add_comm 2 _
    | minus =>
      change taken (exponentDigits? true 2 (digits ++ l)) = _
      rw [exponentDigits?_append true 2 hsome hdigits hl]
      exact Nat.add_comm 2 _
    | absent =>
      have hread := exponentDigits?_append false 1 hsome hdigits hl
      have hfirst : ∀ c more, digits ++ l = c :: more → c.isDigit = true := by
        intro c more heq
        cases digits with
        | nil => exact absurd rfl hsome
        | cons d rest =>
          rw [← (List.cons.inj heq).1]
          exact hdigits d List.mem_cons_self
      split
      · next heq => exact absurd (hfirst _ _ heq) (by decide)
      · next heq => exact absurd (hfirst _ _ heq) (by decide)
      · rw [List.nil_append, hread]
        exact Nat.add_comm 1 _

def unsigned (l : List Char) : List Char :=
  if l.head? == some '-' then l.drop 1 else l

def numberLength (l : List Char) : Nat :=
  let lead := (wholeDigits (unsigned l)).length
  let rest := (unsigned l).drop lead
  lead + (if l.head? == some '-' then 1 else 0) + fractionLength rest +
    taken (exponentPart? (rest.drop (fractionLength rest)))

theorem readNumber_cases (c : Cursor) :
    (∃ cause position, readNumber c = .error (.malformed cause position) ∧
      wholeDigits (unsigned c.rest) = []) ∨
    wholeDigits (unsigned c.rest) ≠ [] ∧
      (readNumber c = .error .integerTooLong ∧
          integerDigitLimit < (wholeDigits (unsigned c.rest)).length ∨
        ∃ d, readNumber c = .ok (d, c.advance (numberLength c.rest))) := by
  unfold readNumber
  extract_lets negative body whole lead afterWhole fraction fractionLen
  have hlength : numberLength c.rest =
      lead + fractionLen + taken (exponentPart? (afterWhole.drop fractionLen)) := rfl
  split
  · next hempty => exact Or.inl ⟨_, _, rfl, List.isEmpty_iff.mp hempty⟩
  · next hsome =>
    refine Or.inr ⟨fun hnil => hsome (List.isEmpty_iff.mpr hnil), ?_⟩
    rw [hlength]
    split
    · next hpower hfraction =>
      split
      · next hlong => exact Or.inl ⟨rfl, hlong⟩
      · have hnone : fractionLen = 0 := by
          unfold fractionLen
          rw [hfraction]
          rfl
        rw [hpower, hnone]
        exact Or.inr ⟨_, rfl⟩
    · next hpower _ =>
      rw [hpower]
      exact Or.inr ⟨_, rfl⟩
    · next hpower =>
      rw [hpower]
      exact Or.inr ⟨_, rfl⟩

/-! ### Words and numbers -/

def StartsNumber (l r : List Char) : Prop := ∃ s, IsNumber s ∧ l = s ++ r

theorem exists_unsigned (l : List Char) : ∃ sign, (sign = [] ∨ sign = ['-']) ∧
    sign.length = (if l.head? == some '-' then 1 else 0) ∧ l = sign ++ unsigned l := by
  unfold unsigned
  by_cases hminus : l.head? = some '-'
  · obtain ⟨rest, rfl⟩ := List.head?_eq_some_iff.mp hminus
    exact ⟨['-'], Or.inr rfl, rfl, rfl⟩
  · have hno : (l.head? == some '-') = false := beq_eq_false_iff_ne.mpr hminus
    rw [hno]
    exact ⟨[], Or.inl rfl, rfl, rfl⟩

theorem startsNumber_drop (h : wholeDigits (unsigned l) ≠ []) :
    StartsNumber l (l.drop (numberLength l)) := by
  obtain ⟨sign, hsign, hsignLength, hl⟩ := exists_unsigned l
  obtain ⟨more, hmore⟩ := wholeDigits_front (unsigned l)
  have hrest := drop_of_append hmore
  obtain ⟨fraction, hfraction, hfractionLength, later, hlater⟩ := exists_fraction more
  have hdrop := drop_of_append hlater
  obtain ⟨power, hpower, hpowerLength, r, hr⟩ := exists_power later
  have hspell : l = sign ++ wholeDigits (unsigned l) ++ fraction ++ power ++ r := by
    rw [List.append_assoc, hr, List.append_assoc, hlater, List.append_assoc, hmore]
    exact hl
  refine ⟨_, .mk hsign (isWhole_wholeDigits h) hfraction hpower, ?_⟩
  have hlength : numberLength l =
      (sign ++ wholeDigits (unsigned l) ++ fraction ++ power).length := by
    unfold numberLength
    dsimp only
    rw [hrest, ← hfractionLength, hdrop, ← hpowerLength, ← hsignLength]
    simp only [List.length_append]
    omega
  rw [hlength, drop_of_append hspell.symm]
  exact hspell

theorem IsWhole.areDigits {whole : List Char} (h : IsWhole whole) : AreDigits whole := by
  cases h with
  | zero =>
    intro c hc
    rw [List.mem_singleton.mp hc]
    rfl
  | digits _ hdigits => exact hdigits

/-- A number is read from a text that starts with one, unless it comes to the limit of digits. -/
theorem ends_readNumber (c : Cursor) (depth : Nat) :
    Ends StartsNumber depth c.rest (readNumber c) := by
  obtain ⟨cause, position, hfault, -⟩ | ⟨hsome, ⟨hfault, hlong⟩ | ⟨d, hread⟩⟩ := readNumber_cases c
  · rw [hfault]
    exact .malformed cause position
  · rw [hfault]
    have hwhole := isWhole_wholeDigits hsome
    obtain ⟨sign, -, -, hl⟩ := exists_unsigned c.rest
    have hinfix : wholeDigits (unsigned c.rest) <:+: c.rest :=
      (wholeDigits_front _).isInfix.trans ⟨sign, [], by rw [List.append_nil]; exact hl.symm⟩
    exact .tooLong ⟨_, hinfix, hwhole.areDigits, hlong⟩
  · rw [hread]
    exact .ok (startsNumber_drop hsome)

/-- A blank, a comma, a closing bracket or the end: what may stand after a value. -/
def Stops (l : List Char) : Prop :=
  ∀ c, l.head? = some c → c ∈ [' ', '\t', '\n', '\r', ',', ']', '}']

theorem Stops.noNumber (h : Stops l) {c : Char} (hc : l.head? = some c) :
    c.isDigit = false ∧ c ≠ '.' ∧ c ≠ 'e' ∧ c ≠ 'E' := by
  have hmem := h c hc
  simp only [List.mem_cons, List.not_mem_nil, or_false] at hmem
  rcases hmem with rfl | rfl | rfl | rfl | rfl | rfl | rfl
  all_goals decide

private theorem head?_append_of {P : Char → Prop} {front : List Char}
    (hfront : ∀ c, front.head? = some c → P c) (hl : ∀ c, l.head? = some c → P c) :
    ∀ c, (front ++ l).head? = some c → P c := by
  intro c hc
  cases front with
  | nil => exact hl c hc
  | cons d more => exact hfront c hc

theorem unsigned_append {sign whole : List Char} (hsign : sign = [] ∨ sign = ['-'])
    (hwhole : IsWhole whole) (l : List Char) :
    unsigned (sign ++ (whole ++ l)) = whole ++ l ∧
      (if (sign ++ (whole ++ l)).head? == some '-' then 1 else 0) = sign.length := by
  rcases hsign with rfl | rfl
  · cases whole with
    | nil => cases hwhole
    | cons d more =>
      have hd : d ≠ '-' := hwhole.areDigits.ne List.mem_cons_self (by decide)
      have hno : (([] ++ (d :: more ++ l)).head? == some '-') = false := by
        rw [beq_eq_false_iff_ne]
        intro heq
        exact hd (Option.some.inj heq)
      rw [unsigned, hno]
      exact ⟨rfl, rfl⟩
  · exact ⟨rfl, rfl⟩

theorem numberLength_append {s : List Char} (h : IsNumber s) (hr : Stops r) :
    wholeDigits (unsigned (s ++ r)) ≠ [] ∧ numberLength (s ++ r) = s.length := by
  obtain @⟨sign, whole, fraction, power, hsign, hwhole, hfraction, hpower⟩ := h
  have hpowerHead : ∀ c, (power ++ r).head? = some c → c.isDigit = false ∧ c ≠ '.' :=
    head?_append_of (fun c hc => hpower.head hc)
      fun c hc => ⟨(hr.noNumber hc).1, (hr.noNumber hc).2.1⟩
  have hfractionHead : NoDigit (fraction ++ (power ++ r)) := by
    refine head?_append_of (fun c hc => ?_) fun c hc => (hpowerHead c hc).1
    cases hfraction with
    | absent => cases hc
    | present =>
      cases hc
      rfl
  obtain ⟨hunsigned, hsignLength⟩ := unsigned_append hsign hwhole (fraction ++ (power ++ r))
  have hwholeDigits := wholeDigits_append hwhole hfractionHead
  obtain ⟨-, hfractionLength⟩ := fractionDigits_append hfraction (fun c hc => (hpowerHead c hc).1)
    fun hpoint => (hpowerHead '.' hpoint).2 rfl
  have hpowerLength := exponentPart?_append hpower (fun c hc => (hr.noNumber hc).1)
    fun c hc => (hr.noNumber hc).2.2
  have hspell : sign ++ whole ++ fraction ++ power ++ r =
      sign ++ (whole ++ (fraction ++ (power ++ r))) := by
    simp only [List.append_assoc]
  rw [hspell, hunsigned, hwholeDigits]
  constructor
  · intro hnil
    rw [hnil] at hwhole
    cases hwhole
  · unfold numberLength
    rw [hunsigned, hwholeDigits, hsignLength]
    dsimp only
    rw [List.drop_left, hfractionLength, List.drop_left, hpowerLength]
    simp only [List.length_append]
    omega

/-- Before a stop the reading of a number comes to the stop. -/
theorem reaches_readNumber {s : List Char} (h : IsNumber s) (hr : Stops r) {c : Cursor}
    (hc : c.rest = s ++ r) : Reaches r (readNumber c) := by
  obtain ⟨hsome, hlength⟩ := numberLength_append h hr
  rw [← hc] at hsome hlength
  obtain ⟨_, _, -, hnil⟩ | ⟨-, ⟨hfault, -⟩ | ⟨d, hread⟩⟩ := readNumber_cases c
  · exact absurd hnil hsome
  · exact Or.inr (Or.inl hfault)
  · refine Or.inl ⟨d, _, hread, ?_⟩
    rw [Cursor.rest_advance, hlength]
    exact drop_of_append hc.symm

def StartsAtom (l r : List Char) : Prop :=
  (∃ w ∈ literals, l = w.toList ++ r) ∨ StartsNumber l r

theorem ends_readAtom (c : Cursor) (depth : Nat) : Ends StartsAtom depth c.rest (readAtom c) := by
  unfold readAtom
  split
  · next word value hfound =>
    have hword : word ∈ words.map Prod.fst :=
      List.mem_map.mpr ⟨_, List.mem_of_find?_eq_some hfound, rfl⟩
    have hfront := List.find?_some hfound
    obtain ⟨rest, hrest⟩ := List.isPrefixOf_iff_prefix.mp hfront
    refine .ok (Or.inl ⟨word, hword, ?_⟩)
    rw [Cursor.rest_advance, ← String.length_toList, drop_of_append hrest]
    exact hrest.symm
  · exact (ends_readNumber c depth).imp fun r h => Or.inr h

theorem reaches_word {w : String} (hw : w ∈ literals) {c : Cursor} (hc : c.rest = w.toList ++ r) :
    Reaches r (readAtom c) := by
  have hfound : ∃ d, words.find? (fun x => x.1.toList.isPrefixOf c.rest) = some (w, d) := by
    rw [hc]
    simp only [literals, List.mem_cons, List.not_mem_nil, or_false] at hw
    rcases hw with rfl | rfl | rfl | rfl | rfl | rfl
    all_goals exact ⟨_, rfl⟩
  obtain ⟨d, hfound⟩ := hfound
  unfold readAtom
  rw [hfound]
  apply Reaches.ok
  rw [Cursor.rest_advance, ← String.length_toList]
  exact drop_of_append hc.symm

theorem IsNumber.head {s : List Char} (h : IsNumber s) :
    ∃ sign d more, s = sign ++ d :: more ∧ d.isDigit = true ∧ (sign = [] ∨ sign = ['-']) := by
  obtain @⟨sign, whole, fraction, power, hsign, hwhole, -, -⟩ := h
  cases whole with
  | nil => cases hwhole
  | cons d more =>
    refine ⟨sign, d, more ++ fraction ++ power, ?_, hwhole.areDigits d List.mem_cons_self, hsign⟩
    simp only [List.append_assoc, List.cons_append]

theorem find?_words_number {s : List Char} (h : IsNumber s) (r : List Char) :
    words.find? (fun x => x.1.toList.isPrefixOf (s ++ r)) = none := by
  obtain ⟨sign, d, more, rfl, hd, hsign⟩ := h.head
  have hne : ∀ c : Char, c.isDigit = false → (c == d) = false := by
    intro c hc
    rw [beq_eq_false_iff_ne]
    rintro rfl
    rw [hd] at hc
    cases hc
  rw [List.find?_eq_none]
  intro x hx
  simp only [words, List.mem_cons, List.not_mem_nil, or_false] at hx
  rcases hsign with rfl | rfl
  · rcases hx with rfl | rfl | rfl | rfl | rfl | rfl
    all_goals simp [List.isPrefixOf, hne]
  · rcases hx with rfl | rfl | rfl | rfl | rfl | rfl
    all_goals simp [List.isPrefixOf, hne]

theorem reaches_number {s : List Char} (h : IsNumber s) (hr : Stops r) {c : Cursor}
    (hc : c.rest = s ++ r) : Reaches r (readAtom c) := by
  unfold readAtom
  rw [hc, find?_words_number h r]
  exact reaches_readNumber h hr hc

end StoreSchema.Json
