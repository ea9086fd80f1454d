/-!
Binary floating-point numbers of 64 bits, as values of the form m·2^e.

A number is kept by its meaning and not by its bit pattern: a significand below 2^53 and an
exponent of at least -1074, in the one form in which the significand is as large as it may be.
Reading rounds an exact quotient to the nearest such value, a tie going to the even significand. Of
the decimals that round to a value, those with the fewest digits are written, and of these the one
nearest to it.
-/

set_option autoImplicit false

namespace StoreSchema.Number

/-- A binary64 value; `finite` stands for ±significand·2^exponent. -/
inductive Binary64 where
  | notANumber
  | infinite (negative : Bool)
  | finite (negative : Bool) (significand : Nat) (exponent : Int)
deriving DecidableEq, Inhabited

namespace Binary64

def leastExponent : Int := -1074

def greatestExponent : Int := 971

def zero (negative : Bool) : Binary64 := .finite negative 0 leastExponent

/-- The quotient rounded to the nearest natural number, a tie going to the even one. -/
def roundQuotient (num den : Nat) : Nat :=
  let quotient := num / den
  let twice := 2 * (num % den)
  if den < twice ∨ (den = twice ∧ quotient % 2 = 1) then quotient + 1 else quotient

def scaleDown (num den : Nat) (e : Int) : Nat × Nat :=
  match e with
  | .ofNat k => (num, den * Nat.pow 2 k)
  | .negSucc k => (num * Nat.pow 2 (k + 1), den)

/-- The exponent at which the quotient of two positive naturals has 53 binary digits. -/
def leadingExponent (num den : Nat) : Int :=
  let guess : Int := (num.log2 : Int) - (den.log2 : Int) - 52
  let scaled := scaleDown num den guess
  if scaled.1 / scaled.2 < Nat.pow 2 52 then guess - 1 else guess

/-- The value nearest to ±num/den, infinite where that lies beyond the largest finite value. -/
def ofQuotient (negative : Bool) (num den : Nat) : Binary64 :=
  if num = 0 ∨ den = 0 then zero negative
  else
    let exponent := max (leadingExponent num den) leastExponent
    let scaled := scaleDown num den exponent
    let rounded := roundQuotient scaled.1 scaled.2
    let carried := rounded = Nat.pow 2 53
    let significand := if carried then Nat.pow 2 52 else rounded
    let exponent := if carried then exponent + 1 else exponent
    if greatestExponent < exponent then .infinite negative
    else .finite negative significand exponent

def ofDecimal (negative : Bool) (m : Nat) (e : Int) : Binary64 :=
  if m = 0 then zero negative
  else
    let magnitude : Int := (Nat.toDigits 10 m).length + e
    if 400 < magnitude then .infinite negative
    else if magnitude < -400 then zero negative
    else match e with
      | .ofNat k => ofQuotient negative (m * Nat.pow 10 k) 1
      | .negSucc k => ofQuotient negative m (Nat.pow 10 (k + 1))

/-- The value nearest to an integer; none where that is beyond the largest finite value. -/
def ofInt? (n : Int) : Option Binary64 :=
  match ofQuotient (decide (n < 0)) n.natAbs 1 with
  | .infinite _ => none
  | value => some value

def magnitude (significand : Nat) (exponent : Int) : Nat × Nat :=
  match exponent with
  | .ofNat k => (significand * Nat.pow 2 k, 1)
  | .negSucc k => (significand, Nat.pow 2 (k + 1))

/-- The integer that a value is exactly, if it is one. -/
def toInt? : Binary64 → Option Int
  | .finite negative significand exponent =>
    let (num, den) := magnitude significand exponent
    if num % den = 0 then
      let whole : Int := (num / den : Nat)
      some (if negative then -whole else whole)
    else none
  | _ => none

def isZero : Binary64 → Bool
  | .finite _ significand _ => significand == 0
  | _ => false

def isPositive : Binary64 → Bool
  | .notANumber => false
  | .infinite negative => !negative
  | .finite negative significand _ => !negative && significand != 0

/-- The value is a number below a natural number. -/
def isBelow (value : Binary64) (bound : Nat) : Bool :=
  match value with
  | .notANumber => false
  | .infinite negative => negative
  | .finite true significand _ => decide (significand ≠ 0 ∨ 0 < bound)
  | .finite false significand exponent =>
    let (num, den) := magnitude significand exponent
    decide (num < bound * den)

/-! ### Arithmetic -/

def ofDyadic (negative : Bool) (m : Nat) (e : Int) : Binary64 :=
  let (num, den) := magnitude m e
  ofQuotient negative num den

def neg : Binary64 → Binary64
  | .notANumber => .notANumber
  | .infinite negative => .infinite (!negative)
  | .finite negative significand exponent => .finite (!negative) significand exponent

private def aligned (negative : Bool) (significand : Nat) (exponent least : Int) : Int :=
  let shifted : Nat := significand * Nat.pow 2 (exponent - least).toNat
  if negative then -(shifted : Int) else shifted

/-- The value nearest to a sum. A sum that is zero is negative only if both parts are. -/
def add : Binary64 → Binary64 → Binary64
  | .finite n m e, .finite k l f =>
    let least := min e f
    let sum := aligned n m e least + aligned k l f least
    if sum = 0 then zero (n && k && m == 0) else ofDyadic (decide (sum < 0)) sum.natAbs least
  | .infinite n, .infinite k => if n == k then .infinite n else .notANumber
  | .notANumber, _ | _, .notANumber => .notANumber
  | .infinite n, _ | _, .infinite n => .infinite n

def mul : Binary64 → Binary64 → Binary64
  | .finite n m e, .finite k l f => ofDyadic (n != k) (m * l) (e + f)
  | .notANumber, _ | _, .notANumber => .notANumber
  | .infinite n, .infinite k => .infinite (n != k)
  | .infinite n, .finite k l _ => if l == 0 then .notANumber else .infinite (n != k)
  | .finite n m _, .infinite k => if m == 0 then .notANumber else .infinite (n != k)

end Binary64

/-- The exact quotients between which every real rounds to a given value. -/
structure RoundingInterval where
  /-- The value itself, over `den`. -/
  value : Nat
  /-- The lower end, over `den`. -/
  lower : Nat
  /-- The upper end, over `den`. -/
  upper : Nat
  /-- The common denominator. -/
  den : Nat
  /-- Whether the ends themselves round to the value. -/
  closed : Bool

namespace RoundingInterval

/-- The interval of m·2^e; below a power of two the neighbours are half as far away. -/
def ofFinite (significand : Nat) (exponent : Int) : RoundingInterval :=
  let (num, den) := Binary64.magnitude 1 exponent
  let narrow := significand = Nat.pow 2 52 ∧ Binary64.leastExponent < exponent
  { value := 4 * significand * num
    lower := (4 * significand - if narrow then 1 else 2) * num
    upper := (4 * significand + 2) * num
    den := 4 * den
    closed := significand % 2 = 0 }

/-- The decimal num/den lies in the interval. -/
def holds (interval : RoundingInterval) (num den : Nat) : Bool :=
  if interval.closed then
    decide (interval.lower * den ≤ num * interval.den ∧ num * interval.den ≤ interval.upper * den)
  else
    decide (interval.lower * den < num * interval.den ∧ num * interval.den < interval.upper * den)

end RoundingInterval

/-- A positive decimal: `digits·10^exponent`. -/
structure Decimal where
  digits : Nat
  exponent : Int
deriving DecidableEq

namespace Decimal

private def power (k : Int) : Nat × Nat :=
  match k with
  | .ofNat n => (Nat.pow 10 n, 1)
  | .negSucc n => (1, Nat.pow 10 (n + 1))

private def leadingZeros (num den : Nat) : Nat → Nat
  | 0 => 0
  | fuel + 1 => if den ≤ num then 0 else leadingZeros (num * 10) den fuel + 1

private def leadingPlace (num den : Nat) : Int :=
  if den ≤ num then (Nat.toDigits 10 (num / den)).length
  else 1 - (leadingZeros num den 400 : Int)

/-- The nearest decimal of the interval on the grid of multiples of 10^k, if the interval meets
it. -/
private def onGrid? (interval : RoundingInterval) (k : Int) : Option Decimal :=
  let (stepNum, stepDen) := power k
  let scaledNum := interval.value * stepDen
  let scaledDen := interval.den * stepNum
  let below := scaledNum / scaledDen
  let rest := scaledNum % scaledDen
  let fits := fun digits => interval.holds (digits * stepNum) stepDen
  let preferUpper := decide (scaledDen < 2 * rest ∨ (scaledDen = 2 * rest ∧ below % 2 = 1))
  match fits below, fits (below + 1) with
  | true, true => some ⟨if preferUpper then below + 1 else below, k⟩
  | true, false => some ⟨below, k⟩
  | false, true => some ⟨below + 1, k⟩
  | false, false => none

private def search (interval : RoundingInterval) (place : Int) : Nat → Nat → Option Decimal
  | _, 0 => none
  | count, fuel + 1 =>
    match onGrid? interval (place - count) with
    | some found => some found
    | none => search interval place (count + 1) fuel

private def trim (d : Decimal) : Nat → Decimal
  | 0 => d
  | fuel + 1 =>
    if d.digits ≠ 0 ∧ d.digits % 10 = 0 then trim ⟨d.digits / 10, d.exponent + 1⟩ fuel else d

/-- The shortest decimal that rounds to the positive value m·2^e. -/
def shortest (significand : Nat) (exponent : Int) : Decimal :=
  let interval := RoundingInterval.ofFinite significand exponent
  let place := leadingPlace interval.value interval.den
  ((search interval place 1 17).getD ⟨0, 0⟩).trim 20

/-- The text of a decimal: positional between 1e-4 and 1e16, with an exponent elsewhere. -/
def layout (d : Decimal) : String :=
  let digits := Nat.toDigits 10 d.digits
  let point : Int := digits.length + d.exponent
  if point ≤ -4 ∨ 16 < point then
    let exponent := point - 1
    let sign := if exponent < 0 then '-' else '+'
    let places := Nat.toDigits 10 exponent.natAbs
    let places := if places.length < 2 then '0' :: places else places
    let mantissa := match digits with
      | [] => []
      | [only] => [only]
      | first :: rest => first :: '.' :: rest
    String.ofList (mantissa ++ 'e' :: sign :: places)
  else if point ≤ 0 then
    String.ofList ('0' :: '.' :: List.replicate point.natAbs '0' ++ digits)
  else
    let whole := point.toNat
    if digits.length ≤ whole then
      String.ofList (digits ++ List.replicate (whole - digits.length) '0' ++ ['.', '0'])
    else
      String.ofList (digits.take whole ++ '.' :: digits.drop whole)

end Decimal

namespace Binary64

/-- The shortest text that reads back as the value. -/
def text : Binary64 → String
  | .notANumber => "nan"
  | .infinite negative => if negative then "-inf" else "inf"
  | .finite negative significand exponent =>
    let digits :=
      if significand = 0 then "0.0" else (Decimal.shortest significand exponent).layout
    if negative then "-" ++ digits else digits

end Binary64

end StoreSchema.Number
