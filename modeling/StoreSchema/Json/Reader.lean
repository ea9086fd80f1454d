import StoreSchema.Data.Basic
import StoreSchema.Text.CodePoints

set_option autoImplicit false

namespace StoreSchema.Json

open StoreSchema.Number (Binary64)
open StoreSchema.Text

inductive Cause where
  | valueExpected
  | nameExpected
  | colonExpected
  | commaExpected
  | extraData
  | unterminatedString
  | controlCharacter
  | badEscape
  | badUnitEscape
  | byteOrderMark
deriving DecidableEq

namespace Cause

def message : Cause → String
  | valueExpected => "Expecting value"
  | nameExpected => "Expecting property name enclosed in double quotes"
  | colonExpected => "Expecting ':' delimiter"
  | commaExpected => "Expecting ',' delimiter"
  | extraData => "Extra data"
  | unterminatedString => "Unterminated string starting at"
  | controlCharacter => "Invalid control character at"
  | badEscape => "Invalid \\escape"
  | badUnitEscape => "Invalid \\uXXXX escape"
  | byteOrderMark => "Unexpected UTF-8 BOM (decode using utf-8-sig)"

end Cause

/-- Why a JSON text has no value: it is malformed at a place, holds an integer of more digits than
are read, or nests deeper than is read. -/
inductive Fault where
  | malformed (cause : Cause) (position : Nat)
  | integerTooLong
  | nestedTooDeep
deriving DecidableEq

/-- What is left of a text, and how many code points were read before it. -/
structure Cursor where
  rest : List Char
  position : Nat

namespace Cursor

/-- The cursor after a number of characters. What holds one code point is one character. -/
def advance (c : Cursor) (count : Nat) : Cursor :=
  ⟨c.rest.drop count, c.position + Surrogate.count (c.rest.take count)⟩

def isSpace (c : Char) : Bool :=
  c == ' ' || c == '\t' || c == '\n' || c == '\r'

def skipSpace (c : Cursor) : Cursor :=
  c.advance (c.rest.takeWhile isSpace).length

end Cursor

/-- The number of digits beyond which an integer is not read. -/
def integerDigitLimit : Nat := 4300

/-- The number of nested lists and objects beyond which a text is not read. A fixed number stands
here for what is left of the call stack, which depends on where the reader is called from. Compiling
has no such limit: properties are compiled to whatever depth they are nested. -/
def nestingLimit : Nat := 990

def hexDigit? (c : Char) : Option Nat :=
  if c.isDigit then some (c.toNat - 48)
  else if 'a' ≤ c ∧ c ≤ 'f' then some (c.toNat - 87)
  else if 'A' ≤ c ∧ c ≤ 'F' then some (c.toNat - 55)
  else none

def hexUnit? : List Char → Option Nat
  | [a, b, c, d] => do
    let a ← hexDigit? a
    let b ← hexDigit? b
    let c ← hexDigit? c
    let d ← hexDigit? d
    pure (a * 4096 + b * 256 + c * 16 + d)
  | _ => none

/-- The character of a one-letter escape. -/
def shortEscape? : Char → Option Char
  | '"' => some '"'
  | '\\' => some '\\'
  | '/' => some '/'
  | 'b' => some '\x08'
  | 'f' => some '\x0c'
  | 'n' => some '\n'
  | 'r' => some '\r'
  | 't' => some '\t'
  | _ => none

/-- The unit after `\u` and the cursor after it; a character must follow the four digits. -/
def readUnit (c : Cursor) : Except Fault (Nat × Cursor) :=
  match hexUnit? (c.rest.take 4) with
  | some unit =>
    if c.rest.length ≤ 4 then .error (.malformed .badUnitEscape (c.position - 1))
    else .ok (unit, c.advance 4)
  | none => .error (.malformed .badUnitEscape (c.position - 1))

/-- The code point after `\u`: that of the unit, or of two units that are the halves of a pair. -/
def readEscapedUnit (c : Cursor) : Except Fault (Nat × Cursor) := do
  let (unit, after) ← readUnit c
  if Surrogate.isHigh unit then
    match after.rest with
    | '\\' :: 'u' :: more =>
      if 4 < more.length then
        let (low, afterLow) ← readUnit (after.advance 2)
        if Surrogate.isLow low then pure (Surrogate.join unit low, afterLow)
        else pure (unit, after)
      else pure (unit, after)
    | _ => pure (unit, after)
  else pure (unit, after)

/-- The rest of a string that was opened at `start`; `read` holds its characters in reverse. -/
def readStringFrom (start : Nat) (read : List Char) (c : Cursor) :
    Nat → Except Fault (String × Cursor)
  | 0 => .error (.malformed .unterminatedString start)
  | fuel + 1 =>
    match c.rest with
    | [] => .error (.malformed .unterminatedString start)
    | '"' :: _ => .ok (String.ofList read.reverse, c.advance 1)
    | '\\' :: [] => .error (.malformed .unterminatedString start)
    | '\\' :: 'u' :: _ => do
      let (point, after) ← readEscapedUnit (c.advance 2)
      readStringFrom start ((Surrogate.hold point).reverse ++ read) after fuel
    | '\\' :: letter :: _ =>
      match shortEscape? letter with
      | some char => readStringFrom start (char :: read) (c.advance 2) fuel
      | none => .error (.malformed .badEscape c.position)
    | char :: _ =>
      if char.toNat < 32 then .error (.malformed .controlCharacter c.position)
      else readStringFrom start (char :: read) (c.advance 1) fuel

def readString (c : Cursor) : Except Fault (String × Cursor) :=
  readStringFrom (c.position - 1) [] c (c.rest.length + 1)

def digitsToNat (digits : List Char) : Nat :=
  digits.foldl (fun n d => 10 * n + (d.toNat - 48)) 0

/-- The digits of the whole part: a zero alone, or a run that starts with another digit. -/
def wholeDigits : List Char → List Char
  | '0' :: _ => ['0']
  | rest => rest.takeWhile Char.isDigit

/-- The digits after a point, if there is one. -/
def fractionDigits : List Char → List Char
  | '.' :: rest => rest.takeWhile Char.isDigit
  | _ => []

/-- The sign and digits of an exponent after its lead, and the number of characters it takes, if
there is a digit. -/
def exponentDigits? (negative : Bool) (lead : Nat) (rest : List Char) :
    Option (Bool × List Char × Nat) :=
  match rest.takeWhile Char.isDigit with
  | [] => none
  | digits => some (negative, digits, lead + digits.length)

/-- The sign and digits of an exponent and the number of characters it takes, if one is there. -/
def exponentPart? : List Char → Option (Bool × List Char × Nat)
  | e :: rest =>
    if e == 'e' || e == 'E' then
      match rest with
      | '+' :: digits => exponentDigits? false 2 digits
      | '-' :: digits => exponentDigits? true 2 digits
      | digits => exponentDigits? false 1 digits
    else none
  | [] => none

def readNumber (c : Cursor) : Except Fault (Data × Cursor) :=
  let negative := c.rest.head? == some '-'
  let body := if negative then c.rest.drop 1 else c.rest
  let whole := wholeDigits body
  if whole.isEmpty then .error (.malformed .valueExpected c.position)
  else
    let lead := whole.length + if negative then 1 else 0
    let afterWhole := body.drop whole.length
    let fraction := fractionDigits afterWhole
    let fractionLength := if fraction.isEmpty then 0 else fraction.length + 1
    match exponentPart? (afterWhole.drop fractionLength), fraction with
    | none, [] =>
      if integerDigitLimit < whole.length then .error .integerTooLong
      else
        let n : Int := digitsToNat whole
        .ok (.int (if negative then -n else n), c.advance lead)
    | none, _ =>
      .ok (.scalar (.float (Binary64.ofDecimal negative (digitsToNat (whole ++ fraction))
        (-(fraction.length : Int)))), c.advance (lead + fractionLength))
    | some (down, digits, length), _ =>
      let power : Int := digitsToNat digits
      .ok (.scalar (.float (Binary64.ofDecimal negative (digitsToNat (whole ++ fraction))
        ((if down then -power else power) - fraction.length))),
        c.advance (lead + fractionLength + length))

def words : List (String × Data) :=
  [("null", .null), ("true", .bool true), ("false", .bool false),
    ("NaN", .scalar (.float .notANumber)), ("Infinity", .scalar (.float (.infinite false))),
    ("-Infinity", .scalar (.float (.infinite true)))]

def readAtom (c : Cursor) : Except Fault (Data × Cursor) :=
  match words.find? fun w => w.1.toList.isPrefixOf c.rest with
  | some (word, value) => .ok (value, c.advance word.length)
  | none => readNumber c

def readName (c : Cursor) : Except Fault (String × Cursor) :=
  match c.rest with
  | '"' :: _ => do
    let (name, after) ← readString (c.advance 1)
    let after := after.skipSpace
    match after.rest with
    | ':' :: _ => pure (name, (after.advance 1).skipSpace)
    | _ => .error (.malformed .colonExpected after.position)
  | _ => .error (.malformed .nameExpected c.position)

mutual
/-- A value that starts at the cursor, inside `depth` fewer levels than may be nested. -/
def readValue (depth : Nat) (c : Cursor) : Nat → Except Fault (Data × Cursor)
  | 0 => .error .nestedTooDeep
  | fuel + 1 =>
    match c.rest with
    | '"' :: _ => do
      let (s, after) ← readString (c.advance 1)
      pure (.text s, after)
    | '{' :: _ =>
      match depth with
      | 0 => .error .nestedTooDeep
      | depth + 1 =>
        let inner := (c.advance 1).skipSpace
        match inner.rest with
        | '}' :: _ => .ok (.map [], inner.advance 1)
        | _ => readMembers depth [] inner fuel
    | '[' :: _ =>
      match depth with
      | 0 => .error .nestedTooDeep
      | depth + 1 =>
        let inner := (c.advance 1).skipSpace
        match inner.rest with
        | ']' :: _ => .ok (.list [], inner.advance 1)
        | _ => readItems depth [] inner fuel
    | _ => readAtom c

/-- The members of an object from the cursor on, after those already read. -/
def readMembers (depth : Nat) (read : Entries Data) (c : Cursor) :
    Nat → Except Fault (Data × Cursor)
  | 0 => .error .nestedTooDeep
  | fuel + 1 => do
    let (name, at_) ← readName c
    let (value, after) ← readValue depth at_ fuel
    let read := Entries.put read (.text name) value
    let after := after.skipSpace
    match after.rest with
    | '}' :: _ => pure (.map read, after.advance 1)
    | ',' :: _ => readMembers depth read (after.advance 1).skipSpace fuel
    | _ => .error (.malformed .commaExpected after.position)

/-- The items of a list from the cursor on; `read` holds the earlier ones in reverse. -/
def readItems (depth : Nat) (read : List Data) (c : Cursor) :
    Nat → Except Fault (Data × Cursor)
  | 0 => .error .nestedTooDeep
  | fuel + 1 => do
    let (value, after) ← readValue depth c fuel
    let read := value :: read
    let after := after.skipSpace
    match after.rest with
    | ']' :: _ => pure (.list read.reverse, after.advance 1)
    | ',' :: _ => readItems depth read (after.advance 1).skipSpace fuel
    | _ => .error (.malformed .commaExpected after.position)
end

def read (s : String) : Except Fault Data :=
  let chars := s.toList
  match chars with
  | '\uFEFF' :: _ => .error (.malformed .byteOrderMark 0)
  | _ => do
    let start : Cursor := Cursor.skipSpace ⟨chars, 0⟩
    let (value, after) ← readValue nestingLimit start (2 * chars.length + 2)
    let after := after.skipSpace
    if after.rest.isEmpty then pure value
    else .error (.malformed .extraData after.position)

/-- A cause and its place: line and column from 1, character from 0. -/
def describe (s : String) (cause : Cause) (position : Nat) : String :=
  let before := (Surrogate.points s.toList).take position
  let line := before.count 10 + 1
  let column := (before.reverse.takeWhile (· != 10)).length + 1
  cause.message ++ ": line " ++ toString line ++ " column " ++ toString column ++
    " (char " ++ toString position ++ ")"

end StoreSchema.Json
