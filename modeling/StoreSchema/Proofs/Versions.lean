import Mathlib.Algebra.Order.Field.Power
import Mathlib.Algebra.Order.Field.Rat
import StoreSchema.Number.Binary64
import StoreSchema.Proofs.Intake
import StoreSchema.Proofs.Numerals

/-!
The version of a document, and the extension key that it selects.

Main statement of this module: whatever a document declares as its version, what is found, what is
warned of and what is raised is told by the declared value alone; and the extension blocks of the
document are those under the older key exactly if no version was found or the version is below 2.
Two kinds of declared values are raised over: values that are no numbers and cannot be shown in the
warning either, and integers beyond the range of binary64, of which 2^1024 - 2^970 is the least. It
lies half a step above the largest finite value, and the tie goes to the even significand.
-/

set_option autoImplicit false

namespace StoreSchema.Number.Binary64

/-! ### Values below a number -/

/-- A value is a number, and less than a rational number. -/
def IsLess (value : Binary64) (bound : Rat) : Prop :=
  match value with
  | .notANumber => False
  | .infinite negative => negative = true
  | .finite negative significand exponent =>
    (if negative then -1 else 1) * ((significand : Rat) * 2 ^ exponent) < bound

theorem magnitude_eq (significand : Nat) (exponent : Int) :
    ((magnitude significand exponent).1 : Rat) / (magnitude significand exponent).2 =
      significand * 2 ^ exponent := by
  cases exponent with
  | ofNat k =>
    change ((significand * 2 ^ k : Nat) : Rat) / (1 : Nat) = significand * 2 ^ (k : Int)
    rw [Nat.cast_mul, Nat.cast_pow, Nat.cast_one, div_one, zpow_natCast]
    rfl
  | negSucc k =>
    change (significand : Rat) / (2 ^ (k + 1) : Nat) = significand * 2 ^ Int.negSucc k
    rw [zpow_negSucc, Nat.cast_pow, div_eq_mul_inv]
    rfl

theorem magnitude_pos (significand : Nat) (exponent : Int) :
    0 < (magnitude significand exponent).2 := by
  cases exponent with
  | ofNat k => exact Nat.one_pos
  | negSucc k => exact Nat.two_pow_pos (k + 1)

theorem isBelow_iff (value : Binary64) (bound : Nat) :
    value.isBelow bound = true ↔ value.IsLess bound := by
  match value with
  | .notANumber => exact ⟨fun h => (nomatch h), fun h => h.elim⟩
  | .infinite negative => exact Iff.rfl
  | .finite false significand exponent =>
    have hpos : (0 : Rat) < (magnitude significand exponent).2 :=
      Nat.cast_pos.mpr (magnitude_pos significand exponent)
    rw [isBelow, decide_eq_true_iff, IsLess, ← magnitude_eq, if_neg Bool.false_ne_true, one_mul,
      div_lt_iff₀ hpos, ← Nat.cast_mul, Nat.cast_lt]
  | .finite true significand exponent =>
    have hpower : (0 : Rat) < 2 ^ exponent := zpow_pos (by decide) exponent
    have hbound : (0 : Rat) ≤ bound := Nat.cast_nonneg bound
    rw [isBelow, decide_eq_true_iff, IsLess, if_pos rfl]
    by_cases hzero : significand = 0
    · rw [hzero, Nat.cast_zero, zero_mul, mul_zero, Nat.cast_pos]
      omega
    · have hmagnitude : (0 : Rat) < significand * 2 ^ exponent :=
        mul_pos (Nat.cast_pos.mpr (Nat.pos_of_ne_zero hzero)) hpower
      constructor
      · intro _
        rw [neg_one_mul]
        exact lt_of_lt_of_le (neg_neg_of_pos hmagnitude) hbound
      · intro _
        exact .inl hzero

/-! ### Integers with a nearest value -/

variable {n : Nat}

theorem roundQuotient_cases (num den : Nat) :
    (roundQuotient num den = num / den ∧ 2 * (num % den) ≤ den) ∨
      (roundQuotient num den = num / den + 1 ∧ den ≤ 2 * (num % den)) := by
  unfold roundQuotient
  dsimp only
  split
  · right
    constructor
    · rfl
    · omega
  · left
    constructor
    · rfl
    · omega

theorem roundQuotient_of_odd (num den : Nat) (hodd : num / den % 2 = 1)
    (hhalf : den ≤ 2 * (num % den)) : roundQuotient num den = num / den + 1 := by
  unfold roundQuotient
  dsimp only
  rw [if_pos]
  omega

theorem scaleDown_natCast (num den k : Nat) :
    scaleDown num den (k : Int) = (num, den * 2 ^ k) := rfl

theorem leadingExponent_one (hpos : 0 < n) : leadingExponent n 1 = (n.log2 : Int) - 52 := by
  have hlog : (1 : Nat).log2 = 0 := by decide
  have hleast : 2 ^ n.log2 ≤ n := Nat.log2_self_le (by omega)
  have hguess : (n.log2 : Int) - ((1 : Nat).log2 : Int) - 52 = (n.log2 : Int) - 52 := by omega
  unfold leadingExponent
  dsimp only
  rw [hguess, if_neg]
  rw [Nat.not_lt]
  cases hexponent : (n.log2 : Int) - 52 with
  | ofNat k =>
    have hk : n.log2 = 52 + k := by
      rw [Int.ofNat_eq_natCast] at hexponent
      omega
    have hscaled : 2 ^ 52 * 2 ^ k ≤ n := by
      rw [← Nat.pow_add, ← hk]
      exact hleast
    change 2 ^ 52 ≤ n / (1 * 2 ^ k)
    rw [Nat.one_mul, Nat.le_div_iff_mul_le (Nat.two_pow_pos k)]
    exact hscaled
  | negSucc k =>
    have hk : 52 = n.log2 + (k + 1) := by omega
    have hscaled : 2 ^ n.log2 * 2 ^ (k + 1) ≤ n * 2 ^ (k + 1) := Nat.mul_le_mul_right _ hleast
    change 2 ^ 52 ≤ n * 2 ^ (k + 1) / 1
    rw [Nat.div_one, hk, Nat.pow_add]
    exact hscaled

theorem roundQuotient_carries_iff {half : Nat} (hpos : 0 < half) (hbelow : n < 2 ^ 54 * half) :
    roundQuotient n (2 * half) = 2 ^ 53 ↔ (2 ^ 54 - 1) * half ≤ n := by
  have hsplit : 2 * half * (n / (2 * half)) + n % (2 * half) = n := Nat.div_add_mod n (2 * half)
  have hrest : n % (2 * half) < 2 * half := Nat.mod_lt n (by omega)
  have hquotient : n / (2 * half) ≤ 2 ^ 53 - 1 := by
    have : n / (2 * half) < 2 ^ 53 := by
      rw [Nat.div_lt_iff_lt_mul (by omega)]
      omega
    omega
  have hcases := roundQuotient_cases n (2 * half)
  have hodd := roundQuotient_of_odd n (2 * half)
  generalize n / (2 * half) = quotient at *
  generalize n % (2 * half) = rest at *
  constructor
  · intro hcarried
    have hlast : quotient = 2 ^ 53 - 1 := by omega
    subst hlast
    omega
  · intro hlarge
    -- A smaller quotient would leave the number more than half a step short.
    have hlast : quotient = 2 ^ 53 - 1 := by
      by_contra hother
      have hsmall : 2 * half * quotient ≤ 2 * half * (2 ^ 53 - 2) :=
        Nat.mul_le_mul_left _ (by omega)
      omega
    subst hlast
    have hhalf : 2 * half ≤ 2 * rest := by omega
    rw [hodd (by decide) hhalf]
    rfl

/-- The value nearest to a natural number is infinite if the number lies beyond the last binade or
is carried beyond it. -/
theorem ofQuotient_one_infinite_iff (negative : Bool) (hpos : 0 < n) :
    ofQuotient negative n 1 = .infinite negative ↔
      1023 < n.log2 ∨ (n.log2 = 1023 ∧ roundQuotient n (2 * 2 ^ 970) = 2 ^ 53) := by
  have hexponent : max (leadingExponent n 1) leastExponent = (n.log2 : Int) - 52 := by
    rw [leadingExponent_one hpos, leastExponent]
    omega
  have hscaled : n.log2 = 1023 → scaleDown n 1 ((n.log2 : Int) - 52) = (n, 2 * 2 ^ 970) := by
    intro hlog
    have hlast : (n.log2 : Int) - 52 = ((970 + 1 : Nat) : Int) := by omega
    rw [hlast, scaleDown_natCast, pow_succ', one_mul]
  have hnonzero : ¬(n = 0 ∨ 1 = 0) := by omega
  have hinfinite : ofQuotient negative n 1 = .infinite negative ↔ greatestExponent <
      if roundQuotient (scaleDown n 1 ((n.log2 : Int) - 52)).1
          (scaleDown n 1 ((n.log2 : Int) - 52)).2 = Nat.pow 2 53
      then (n.log2 : Int) - 52 + 1 else (n.log2 : Int) - 52 := by
    unfold ofQuotient
    dsimp only
    rw [if_neg hnonzero, hexponent]
    constructor
    · intro h
      by_contra hfinite
      rw [if_neg hfinite] at h
      cases h
    · intro h
      exact if_pos h
  rw [hinfinite, greatestExponent]
  constructor
  · intro hlarge
    by_cases hlog : n.log2 = 1023
    · right
      rw [hscaled hlog] at hlarge
      split at hlarge
      · next hcarried => exact ⟨hlog, hcarried⟩
      · omega
    · left
      split at hlarge <;> omega
  · rintro (hlog | ⟨hlog, hcarried⟩)
    · split <;> omega
    · rw [hscaled hlog]
      split
      · omega
      · next hshort => exact absurd hcarried hshort

theorem bound_eq : 2 ^ 1024 - 2 ^ 970 = (2 ^ 54 - 1) * 2 ^ 970 := by
  have hsplit : 2 ^ (54 + 970) = 2 ^ 54 * 2 ^ 970 := pow_add 2 54 970
  generalize 2 ^ 970 = half at *
  omega

theorem one_lt_bound : 1 < 2 ^ 1024 - 2 ^ 970 := by
  have hhalf : 0 < 2 ^ 970 := pow_pos (by decide) 970
  rw [bound_eq]
  omega

/-- The value nearest to a natural number is infinite exactly from 2^1024 - 2^970 on. -/
theorem ofQuotient_one_infinite_iff_le (negative : Bool) (hpos : 0 < n) :
    ofQuotient negative n 1 = .infinite negative ↔ 2 ^ 1024 - 2 ^ 970 ≤ n := by
  have hleast : 2 ^ n.log2 ≤ n := Nat.log2_self_le (by omega)
  have hbelow : n < 2 ^ (n.log2 + 1) := Nat.lt_log2_self
  have hlast : 2 ^ (53 + 970) = 2 ^ 53 * 2 ^ 970 := pow_add 2 53 970
  have hend : 2 ^ (54 + 970) = 2 ^ 54 * 2 ^ 970 := pow_add 2 54 970
  have hhalf : 0 < 2 ^ 970 := pow_pos (by decide) 970
  rw [ofQuotient_one_infinite_iff negative hpos, bound_eq]
  rcases Nat.lt_trichotomy n.log2 1023 with hlog | hlog | hlog
  · have hsmall : n < 2 ^ (53 + 970) := by
      apply Nat.lt_of_lt_of_le hbelow
      apply Nat.pow_le_pow_right (by decide)
      omega
    rw [hlast] at hsmall
    generalize 2 ^ 970 = half at *
    omega
  · have hcarries : roundQuotient n (2 * 2 ^ 970) = 2 ^ 53 ↔ (2 ^ 54 - 1) * 2 ^ 970 ≤ n := by
      apply roundQuotient_carries_iff hhalf
      have hexponent : n.log2 + 1 = 54 + 970 := by omega
      rw [hexponent, hend] at hbelow
      exact hbelow
    rw [← hcarries]
    omega
  · have hlarge : 2 ^ (54 + 970) ≤ n := by
      refine Nat.le_trans ?_ hleast
      apply Nat.pow_le_pow_right (by decide)
      omega
    rw [hend] at hlarge
    generalize 2 ^ 970 = half at *
    omega

theorem ofQuotient_infinite (negative sign : Bool) (num den : Nat)
    (h : ofQuotient negative num den = .infinite sign) : sign = negative := by
  unfold ofQuotient at h
  dsimp only at h
  repeat' split at h
  all_goals cases h
  all_goals rfl

theorem ofInt?_eq_none_iff (n : Int) : ofInt? n = none ↔ 2 ^ 1024 - 2 ^ 970 ≤ n.natAbs := by
  by_cases hzero : n = 0
  · subst hzero
    constructor
    · intro h
      cases h
    · intro h
      exact absurd (Nat.zero_lt_of_lt one_lt_bound) (Nat.not_lt.mpr h)
  · have hpos : 0 < n.natAbs := by omega
    rw [← ofQuotient_one_infinite_iff_le (decide (n < 0)) hpos, ofInt?]
    constructor
    · intro h
      split at h
      · next sign hinfinite => rw [hinfinite, ofQuotient_infinite _ _ _ _ hinfinite]
      · cases h
    · intro h
      rw [h]

end StoreSchema.Number.Binary64

namespace StoreSchema

open StoreSchema.Number (Binary64)
open StoreSchema.Number.Numeral (IsNumeral)

namespace Data

def asciiText (bytes : List UInt8) : String :=
  String.ofList (bytes.map fun b => Char.ofNat b.toNat)

/-- The value reads as a number: it is a truth value or a number, or a numeral as a text or as
ASCII bytes. -/
inductive IsReadable : Data → Prop
  | truth (flag : Bool) : IsReadable (.bool flag)
  | integer (n : Int) : IsReadable (.int n)
  | float (x : Binary64) : IsReadable (.scalar (.float x))
  | text {s : String} (hnumeral : IsNumeral s) : IsReadable (.text s)
  | bytes {value : List UInt8} (hascii : ∀ b ∈ value, b < 128)
      (hnumeral : IsNumeral (asciiText value)) : IsReadable (.scalar (.bytes value))

/-- The value is an integer beyond the range of binary64. -/
def IsOversized : Data → Prop
  | .int n => 2 ^ 1024 - 2 ^ 970 ≤ n.natAbs
  | _ => False

/-- The number that a value reads as. -/
inductive Denotes : Data → Binary64 → Prop
  | truth {flag : Bool} {x : Binary64} (h : Binary64.ofInt? (if flag then 1 else 0) = some x) :
      Denotes (.bool flag) x
  | integer {n : Int} {x : Binary64} (h : Binary64.ofInt? n = some x) : Denotes (.int n) x
  | float (x : Binary64) : Denotes (.scalar (.float x)) x
  | text {s : String} {x : Binary64} (h : Number.Numeral.read? s = some x) : Denotes (.text s) x
  | bytes {value : List UInt8} {x : Binary64}
      (h : Number.Numeral.read? (asciiText value) = some x) : Denotes (.scalar (.bytes value)) x

theorem isReadable_text_iff {s : String} : (Data.text s).IsReadable ↔ IsNumeral s := by
  constructor
  · intro h
    cases h with
    | text hnumeral => exact hnumeral
  · exact .text

theorem isReadable_bytes_iff {value : List UInt8} : (Data.scalar (.bytes value)).IsReadable ↔
    (∀ b ∈ value, b < 128) ∧ IsNumeral (asciiText value) := by
  constructor
  · intro h
    cases h with
    | bytes hascii hnumeral => exact ⟨hascii, hnumeral⟩
  · rintro ⟨hascii, hnumeral⟩
    exact .bytes hascii hnumeral

end Data

namespace Document

/-- What is found of a declared version after earlier warnings, with the warnings then given. -/
inductive Finds (declared : Data) (earlier : List Warning) :
    Except Fault (Option Binary64) × List Warning → Prop
  | absent (hnull : declared = .null) : Finds declared earlier (.ok none, earlier)
  | number {x : Binary64} (hreadable : declared.IsReadable) (hsize : ¬declared.IsOversized)
      (hdenotes : declared.Denotes x) : Finds declared earlier (.ok (some x), earlier)
  | unreadable (hnull : declared ≠ .null) (hunreadable : ¬declared.IsReadable)
      (hshort : declared.isShort = true) :
      Finds declared earlier (.ok none, earlier ++ [.unparseableVersion declared])
  | oversized (hsize : declared.IsOversized) :
      Finds declared earlier (.error (.misuse .tooLarge), earlier)
  | unshown (hnull : declared ≠ .null) (hunreadable : ¬declared.IsReadable)
      (hshort : declared.isShort = false) :
      Finds declared earlier (.error (.misuse .wrongForm), earlier)

variable {declared : Data} {earlier : List Warning}

theorem finds_integer {n : Int} (hreadable : declared.IsReadable)
    (hsize : declared.IsOversized ↔ 2 ^ 1024 - 2 ^ 970 ≤ n.natAbs)
    (hdenotes : ∀ x, Binary64.ofInt? n = some x → declared.Denotes x) :
    Finds declared earlier
      ((match Binary64.ofInt? n with
        | some version => pure (some version)
        | none => throw (.misuse .tooLarge) : Reporting (Option Binary64)).run.run earlier) := by
  rw [← Binary64.ofInt?_eq_none_iff] at hsize
  cases hn : Binary64.ofInt? n with
  | none => exact .oversized (hsize.mpr hn)
  | some x =>
    apply Finds.number hreadable _ (hdenotes x hn)
    rw [hsize, hn]
    exact Option.some_ne_none x

theorem finds_unreadable (hnull : declared ≠ .null) (hunreadable : ¬declared.IsReadable) :
    Finds declared earlier
      ((if declared.isShort then do
          Reporting.warn (.unparseableVersion declared)
          pure none
        else throw (.misuse .wrongForm) : Reporting (Option Binary64)).run.run earlier) := by
  cases hshort : declared.isShort with
  | true => exact .unreadable hnull hunreadable hshort
  | false => exact .unshown hnull hunreadable hshort

theorem finds_text {found : Option Binary64} (hnull : declared ≠ .null)
    (hsize : ¬declared.IsOversized) :
    (declared.IsReadable ↔ found.isSome) → (∀ x, found = some x → declared.Denotes x) →
    Finds declared earlier
      ((match found with
        | some version => pure (some version)
        | none =>
          if declared.isShort then do
            Reporting.warn (.unparseableVersion declared)
            pure none
          else throw (.misuse .wrongForm) : Reporting (Option Binary64)).run.run earlier) := by
  intro hreadable hdenotes
  cases found with
  | none =>
    apply finds_unreadable hnull
    rw [hreadable]
    exact Bool.false_ne_true
  | some x =>
    apply Finds.number _ hsize (hdenotes x rfl)
    rw [hreadable]
    rfl

theorem finds_detectVersion (document : Entries Data) (earlier : List Warning) :
    Finds (Entries.value document "swagger") earlier
      ((detectVersion document).run.run earlier) := by
  unfold detectVersion
  generalize Entries.value document "swagger" = declared
  dsimp only
  match declared with
  | .scalar .null => exact .absent rfl
  | .scalar (.bool flag) =>
    apply finds_integer (.truth flag) _ fun x => .truth
    have hbound : 1 < 2 ^ 1024 - 2 ^ 970 := Binary64.one_lt_bound
    cases flag with
    | true => exact ⟨False.elim, fun h => absurd hbound (Nat.not_lt.mpr h)⟩
    | false => exact ⟨False.elim, fun h => absurd (Nat.zero_lt_of_lt hbound) (Nat.not_lt.mpr h)⟩
  | .scalar (.int n) => exact finds_integer (.integer n) Iff.rfl fun x => .integer
  | .scalar (.float x) => exact .number (.float x) id (.float x)
  | .scalar (.text s) =>
    have hreadable := Data.isReadable_text_iff (s := s)
    have hdenotes : ∀ x, Number.Numeral.read? s = some x → (Data.text s).Denotes x := fun x => .text
    rw [← Number.Numeral.isSome_read?_iff] at hreadable
    dsimp only
    generalize Number.Numeral.read? s = found at hreadable hdenotes ⊢
    exact finds_text (by simp) id hreadable hdenotes
  | .scalar (.bytes value) =>
    dsimp only
    have hall : value.all (· < 128) = true ↔ ∀ b ∈ value, b < 128 := by simp
    split
    · next hascii =>
      have hreadable : (Data.scalar (.bytes value)).IsReadable ↔
          IsNumeral (Data.asciiText value) := by
        rw [Data.isReadable_bytes_iff, and_iff_right (hall.mp hascii)]
      have hdenotes : ∀ x, Number.Numeral.read? (Data.asciiText value) = some x →
          (Data.scalar (.bytes value)).Denotes x := fun x => .bytes
      rw [← Number.Numeral.isSome_read?_iff] at hreadable
      unfold Data.asciiText at hreadable hdenotes
      generalize Number.Numeral.read? _ = found at hreadable hdenotes ⊢
      exact finds_text (by simp) id hreadable hdenotes
    · next hascii =>
      apply finds_unreadable (by simp)
      rw [Data.isReadable_bytes_iff, ← hall]
      exact fun h => hascii h.1
  | .scalar (.stamp value origin) => exact finds_unreadable (by simp) (by rintro ⟨⟩)
  | .list items => exact finds_unreadable (by simp) (by rintro ⟨⟩)
  | .map entries => exact finds_unreadable (by simp) (by rintro ⟨⟩)
  | .pair first second origin => exact finds_unreadable (by simp) (by rintro ⟨⟩)
  | .set members origin => exact finds_unreadable (by simp) (by rintro ⟨⟩)
  | .recurrence isMap => exact finds_unreadable (by simp) (by rintro ⟨⟩)

theorem Finds.oversized_of {found : Except Fault (Option Binary64) × List Warning}
    (h : Finds declared earlier found) (hsize : declared.IsOversized) :
    found = (.error (.misuse .tooLarge), earlier) := by
  have hreadable : declared.IsReadable := by
    match declared, hsize with
    | .int n, _ => exact .integer n
  cases h with
  | absent hnull =>
    rw [hnull] at hsize
    exact hsize.elim
  | number _ hfits => exact absurd hsize hfits
  | unreadable _ hunreadable => exact absurd hreadable hunreadable
  | oversized => rfl
  | unshown _ hunreadable => exact absurd hreadable hunreadable

end Document

namespace Session

/-- The context of a document has the version that is found of the document, and the extension key
that goes with it. -/
structure KeyedByVersion (session : Session) (document : Entries Data) (ctx : Context) : Prop where
  version : (Document.detectVersion document).outcome = .ok ctx.version
  legacy : ctx.isLegacy = true ↔
    ctx.version = none ∨ ∃ x, ctx.version = some x ∧ x.IsLess 2
  key : ctx.extensionKey =
    if ctx.isLegacy then session.settings.compiler.legacyExtensionKey
    else session.settings.compiler.extensionKey

variable {session : Session} {source extraSource : Source} {document : Entries Data}

theorem version_contextOf {ctx : Context} (hdecode : Document.decode source = .ok document)
    (hctx : session.contextOf source extraSource = .ok ctx) :
    (Document.detectVersion document).outcome = .ok ctx.version := by
  rw [contextOf_eq, hdecode, ok_bind] at hctx
  obtain ⟨extra, -, hctx⟩ := exists_of_bind_eq_ok hctx
  obtain ⟨declared, -, hctx⟩ := exists_of_bind_eq_ok hctx
  obtain ⟨version, hversion, hctx⟩ := exists_of_bind_eq_ok hctx
  obtain ⟨⟨whole, laid⟩, -, hctx⟩ := exists_of_bind_eq_ok hctx
  obtain ⟨extensions, validators, -, -, rfl⟩ := Document.equip_eq_ok_iff.mp hctx
  exact hversion

theorem isLegacy_iff (ctx : Context) : ctx.isLegacy = true ↔
    ctx.version = none ∨ ∃ x, ctx.version = some x ∧ x.IsLess 2 := by
  unfold Context.isLegacy
  cases ctx.version with
  | none => simp
  | some x =>
    have hless := Binary64.isBelow_iff x 2
    rw [Nat.cast_ofNat] at hless
    simp [hless]

/-- What is found of the version of a document is told by what the document declares, and the
context of the document goes by it. -/
theorem version_selects_key (hdecode : Document.decode source = .ok document) :
    (∀ earlier, Document.Finds (Entries.value document "swagger") earlier
      ((Document.detectVersion document).run.run earlier)) ∧
      ∀ ctx, session.contextOf source extraSource = .ok ctx →
        session.KeyedByVersion document ctx := by
  constructor
  · exact Document.finds_detectVersion document
  · intro ctx hctx
    have hsettings := settings_contextOf hctx
    refine ⟨version_contextOf hdecode hctx, isLegacy_iff ctx, ?_⟩
    rw [Context.extensionKey, hsettings]

def earlyDocument : Source := .data (.map [(.text "swagger", .int 1)])

def earlyContext : Context where
  definitions := []
  version := some (.finite false (2 ^ 52) (-52))

private theorem contextOf_early :
    ({} : Session).contextOf earlyDocument .absent = .ok earlyContext := rfl

def laterDocument : Source := .data (.map [(.text "swagger", .text "2.0")])

def laterContext : Context where
  definitions := []
  version := some (.finite false (2 ^ 52) (-51))

private theorem contextOf_later :
    ({} : Session).contextOf laterDocument .absent = .ok laterContext := rfl

/-- A version below 2 goes with the legacy key and one from 2 on with the other. A text that is no
numeral is warned of and passed over. -/
theorem early_selects_key :
    (Document.decode earlyDocument = .ok [(.text "swagger", .int 1)] ∧
      ({} : Session).contextOf earlyDocument .absent = .ok earlyContext ∧
      ({} : Session).KeyedByVersion [(.text "swagger", .int 1)] earlyContext ∧
      earlyContext.extensionKey = "_mongoose") ∧
    (Document.decode laterDocument = .ok [(.text "swagger", .text "2.0")] ∧
      ({} : Session).contextOf laterDocument .absent = .ok laterContext ∧
      ({} : Session).KeyedByVersion [(.text "swagger", .text "2.0")] laterContext ∧
      laterContext.extensionKey = "x-swagger-mongoose") ∧
    Document.Finds (.text "latest") [] (.ok none, [.unparseableVersion (.text "latest")]) := by
  have hearly : Document.decode earlyDocument = .ok [(.text "swagger", .int 1)] := rfl
  have hlater : Document.decode laterDocument = .ok [(.text "swagger", .text "2.0")] := rfl
  have hunread : Document.decode (.data (.map [(.text "swagger", .text "latest")])) =
      .ok [(.text "swagger", .text "latest")] := rfl
  exact ⟨⟨hearly, contextOf_early, (version_selects_key hearly).2 earlyContext contextOf_early,
      rfl⟩,
    ⟨hlater, contextOf_later, (version_selects_key hlater).2 laterContext contextOf_later, rfl⟩,
    (@version_selects_key {} _ .absent _ hunread).1 []⟩

/-- A version too large for binary64 is raised over and not warned of. -/
theorem oversized_version_raises :
    (Document.detectVersion [(.text "swagger", .int (2 ^ 1024))]).run.run [] =
      (.error (.misuse .tooLarge), []) := by
  have hsize : 2 ^ 1024 - 2 ^ 970 ≤ ((2 : Int) ^ 1024).natAbs := by
    have htwo : (2 : Int).natAbs = 2 := rfl
    rw [Int.natAbs_pow, htwo]
    apply Nat.sub_le
  exact (Document.finds_detectVersion _ []).oversized_of hsize

end Session

end StoreSchema
