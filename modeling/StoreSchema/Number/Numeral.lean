import StoreSchema.Number.Binary64
import StoreSchema.Text.Characters

set_option autoImplicit false

namespace StoreSchema.Number.Numeral

open StoreSchema.Text

/-- The text with every decimal digit as an ASCII digit. -/
def plainDigits (s : String) : List Char :=
  s.toList.map fun c =>
    match DecimalDigit.value? c with
    | some d => Char.ofNat (48 + d)
    | none => c

/-- The text without single underscores between digits; none if an underscore stands elsewhere.
`afterDigit` tells whether a digit was just read. -/
def dropUnderscores (afterDigit : Bool) : List Char → Option (List Char)
  | [] => some []
  | '_' :: rest =>
    match rest with
    | d :: _ => if afterDigit && d.isDigit then dropUnderscores false rest else none
    | [] => none
  | c :: rest => (dropUnderscores c.isDigit rest).map (c :: ·)

def natOfDigits (digits : List Char) : Nat :=
  digits.foldl (fun n d => 10 * n + (d.toNat - 48)) 0

/-- Whether a minus sign leads, and what follows the sign if there is one. -/
def splitSign : List Char → Bool × List Char
  | '-' :: rest => (true, rest)
  | '+' :: rest => (false, rest)
  | rest => (false, rest)

/-- The exponent after a mantissa, where the whole rest is one; zero if nothing is left. -/
def exponent? : List Char → Option Int
  | [] => some 0
  | e :: rest =>
    if e == 'e' || e == 'E' then
      let (negative, digits) := splitSign rest
      if digits.isEmpty || !digits.all Char.isDigit then none
      else
        let n : Int := natOfDigits digits
        some (if negative then -n else n)
    else none

/-- The digits after a point that leads, and what follows them. -/
def splitFraction : List Char → List Char × List Char
  | '.' :: more => (more.takeWhile Char.isDigit, more.dropWhile Char.isDigit)
  | rest => ([], rest)

/-- An unsigned decimal: digits with a point somewhere and an exponent, the last two optional. -/
def decimal? (negative : Bool) (s : List Char) : Option Binary64 :=
  let whole := s.takeWhile Char.isDigit
  let (fraction, rest) := splitFraction (s.dropWhile Char.isDigit)
  if whole.isEmpty && fraction.isEmpty then none
  else
    (exponent? rest).map fun power =>
      Binary64.ofDecimal negative (natOfDigits (whole ++ fraction)) (power - fraction.length)

/-- An unsigned number: a word or a decimal. -/
def unsigned? (negative : Bool) (s : List Char) : Option Binary64 :=
  let word := String.ofList (s.map Char.toLower)
  if word == "inf" || word == "infinity" then some (.infinite negative)
  else if word == "nan" then some .notANumber
  else decimal? negative s

def read? (s : String) : Option Binary64 := do
  let trimmed := Blank.trim Blank.isSpacing (String.ofList (plainDigits s))
  let (negative, number) := splitSign (← dropUnderscores false trimmed.toList)
  unsigned? negative number

/-- The number of digits that a number in base ten may be read from or written with. -/
def longest : Nat := 4300

private def baseLetter? : Nat → Option Char
  | 2 => some 'b'
  | 8 => some 'o'
  | 16 => some 'x'
  | _ => none

private def withoutLead (base : Nat) : List Char → List Char
  | '0' :: letter :: rest =>
    if baseLetter? base == some letter.toLower then
      match rest with
      | '_' :: more => more
      | _ => rest
    else '0' :: letter :: rest
  | s => s

private def digit? (base : Nat) (c : Char) : Option Nat :=
  let d := if c.isDigit then c.toNat - 48 else c.toLower.toNat - 87
  if (c.isDigit || ('a' ≤ c.toLower && c.toLower ≤ 'z')) && decide (d < base) then some d else none

private def natural? (base : Nat) (s : List Char) : Option Nat := do
  let groups := (String.ofList s).splitOn "_"
  if groups.any (· == "") then none
  else
    let digits := s.filter (· != '_')
    if base == 10 && decide (longest < digits.length) then none
    else digits.foldlM (fun n c => (digit? base c).map (base * n + ·)) 0

def integer? (base : Nat) (s : String) : Option Int :=
  let trimmed := Blank.trim Blank.isSpacing (String.ofList (plainDigits s))
  match trimmed.toList with
  | '-' :: rest => (natural? base (withoutLead base rest)).map fun n => -(n : Int)
  | '+' :: rest => (natural? base (withoutLead base rest)).map Int.ofNat
  | rest => (natural? base (withoutLead base rest)).map Int.ofNat

/-- An integer in base ten; none where it has too many digits to be written. -/
def text? (n : Int) : Option String :=
  let s := toString n
  let digits := if n < 0 then s.length - 1 else s.length
  if longest < digits then none else some s

end StoreSchema.Number.Numeral
