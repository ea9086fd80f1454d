import StoreSchema.Data.Basic
import StoreSchema.Json.Reader
import StoreSchema.Number.Numeral
import StoreSchema.Text.LowerCase

set_option autoImplicit false

namespace StoreSchema.Yaml

inductive PlainType where
  | null
  | bool
  | int
  | float
  | stamp
  /-- The key that lays other mappings under the one it stands in. -/
  | merge
  /-- The key that names the default value of a mapping. -/
  | defaultValue
  /-- A lone indicator. -/
  | indicator
  | text
deriving DecidableEq

namespace PlainType

def name : PlainType → String
  | null => "null"
  | bool => "bool"
  | int => "int"
  | float => "float"
  | stamp => "timestamp"
  | merge => "merge"
  | defaultValue => "value"
  | indicator => "yaml"
  | text => "str"

def truthWords : List (String × Bool) :=
  [("yes", true), ("Yes", true), ("YES", true), ("no", false), ("No", false), ("NO", false),
    ("true", true), ("True", true), ("TRUE", true), ("false", false), ("False", false),
    ("FALSE", false), ("on", true), ("On", true), ("ON", true), ("off", false), ("Off", false),
    ("OFF", false)]

def nullWords : List String := ["", "~", "null", "Null", "NULL"]

private def unsigned : List Char → List Char
  | '-' :: rest => rest
  | '+' :: rest => rest
  | rest => rest

private def isDigitOrLow (c : Char) : Bool := c.isDigit || c == '_'

private def isRun (p : Char → Bool) (s : List Char) : Bool := !s.isEmpty && s.all p

/-- A digit, then digits and underscores; the rest after them. -/
private def digits? : List Char → Option (List Char)
  | c :: rest => if c.isDigit then some (rest.dropWhile isDigitOrLow) else none
  | [] => none

private def isExponent : List Char → Bool
  | [] => true
  | e :: sign :: rest =>
    (e == 'e' || e == 'E') && (sign == '-' || sign == '+') && isRun Char.isDigit rest
  | _ => false

/-- One or two digits below sixty after each of one or more colons; the rest after them. -/
private def sixties? : Bool → List Char → Option (List Char)
  | _, ':' :: a :: b :: rest =>
    if b.isDigit then
      if '0' ≤ a ∧ a ≤ '5' then sixties? true rest else none
    else if a.isDigit then sixties? true (b :: rest) else none
  | _, [':', a] => if a.isDigit then some [] else none
  | found, rest => if found then some rest else none

def isFloat (s : List Char) : Bool :=
  let body := unsigned s
  let decimal := match digits? body with
    | some ('.' :: rest) => isExponent (rest.dropWhile isDigitOrLow)
    | _ => false
  let fraction := match s with
    | '.' :: rest => match digits? rest with
      | some more => isExponent more
      | none => false
    | _ => false
  let inSixties := match (digits? body).bind (sixties? false) with
    | some ('.' :: rest) => rest.all isDigitOrLow
    | _ => false
  decimal || fraction || inSixties ||
    [".inf", ".Inf", ".INF"].any (fun word => body == word.toList) ||
    [".nan", ".NaN", ".NAN"].any (fun word => s == word.toList)

def isInt (s : List Char) : Bool :=
  match unsigned s with
  | ['0'] => true
  | '0' :: 'b' :: rest => isRun (fun c => c == '0' || c == '1' || c == '_') rest
  | '0' :: 'x' :: rest => isRun (fun c => (Json.hexDigit? c).isSome || c == '_') rest
  | '0' :: rest => isRun (fun c => ('0' ≤ c && c ≤ '7') || c == '_') rest
  | body =>
    match digits? body with
    | some rest => rest.isEmpty || sixties? false rest == some []
    | none => false

/-- So many digits, or between so many; the rest after them. -/
def someDigits? (least most : Nat) (s : List Char) : Option (List Char × List Char) :=
  let taken := (s.take most).takeWhile Char.isDigit
  if taken.length < least then none else some (taken, s.drop taken.length)

def after? (c : Char) : List Char → Option (List Char)
  | d :: rest => if c == d then some rest else none
  | [] => none

/-- A date: its three parts, and the rest after it. -/
def datePart? (s : List Char) : Option (List Char × List Char × List Char × List Char) := do
  let (year, s) ← someDigits? 4 4 s
  let s ← after? '-' s
  let (month, s) ← someDigits? 1 2 s
  let s ← after? '-' s
  let (day, s) ← someDigits? 1 2 s
  pure (year, month, day, s)

private def isZone (s : List Char) : Bool :=
  match s.dropWhile fun c => c == ' ' || c == '\t' with
  | [] => s.isEmpty
  | ['Z'] => true
  | sign :: rest =>
    (sign == '-' || sign == '+') &&
      (match someDigits? 1 2 rest with
        | some (_, []) => true
        | some (_, ':' :: more) => (someDigits? 2 2 more).any fun r => r.2.isEmpty
        | _ => false)

private def isTime (s : List Char) : Bool :=
  let start := match s with
    | 'T' :: rest => some rest
    | 't' :: rest => some rest
    | _ =>
      let rest := s.dropWhile fun c => c == ' ' || c == '\t'
      if rest.length < s.length then some rest else none
  let parts : Option (List Char) := do
    let (_, s) ← someDigits? 1 2 (← start)
    let (_, s) ← someDigits? 2 2 (← after? ':' s)
    let (_, s) ← someDigits? 2 2 (← after? ':' s)
    pure s
  match parts with
  | some ('.' :: rest) => isZone (rest.dropWhile Char.isDigit)
  | some rest => isZone rest
  | none => false

/-- A calendar date, alone or with a time of day; a date alone is `exact` if its month and its day
have two digits each. -/
def isStamp (exact : Bool) (s : List Char) : Bool :=
  match datePart? s with
  | some (_, month, day, []) => !exact || (month.length == 2 && day.length == 2)
  | some (_, _, _, rest) => isTime rest
  | none => false

/-- The type that a scalar of this text has. -/
def ofText (text : String) : PlainType :=
  let chars := text.toList
  let s := if chars.getLast? == some '\n' && chars.length != 1 then chars.dropLast else chars
  let word := String.ofList s
  if (truthWords.lookup word).isSome then .bool
  else if isFloat s then .float
  else if isInt s then .int
  else if word == "<<" then .merge
  else if nullWords.contains word then .null
  else if isStamp true s then .stamp
  else if word == "=" then .defaultValue
  else if ["!", "&", "*"].contains word then .indicator
  else .text

end PlainType

end StoreSchema.Yaml

namespace StoreSchema.Yaml.ScalarValue

open StoreSchema.Number (Binary64)
open StoreSchema.Number.Numeral (integer? read?)
open StoreSchema.Yaml.PlainType (truthWords datePart? someDigits? after? isStamp)

private def denoted {α : Type} (value : Option α) : Except Misuse α :=
  match value with
  | some v => .ok v
  | none => .error .wrongForm

def bool (text : String) : Except Misuse Bool :=
  match truthWords.lookup (Text.LowerCase.lower text) with
  | some value => .ok value
  | none => .error .unknownWord

private def signed (text : String) : Except Misuse (Bool × List Char) :=
  match text.toList.filter (· != '_') with
  | [] => .error .beyondEnd
  | '-' :: rest => .ok (true, rest)
  | '+' :: rest => .ok (false, rest)
  | s => .ok (false, s)

private def groups (s : List Char) : List String := (String.ofList s).splitOn ":"

private def magnitude (s : List Char) : Except Misuse Int :=
  match s with
  | [] => .error .beyondEnd
  | ['0'] => .ok 0
  | '0' :: 'b' :: rest => denoted (integer? 2 (String.ofList rest))
  | '0' :: 'x' :: rest => denoted (integer? 16 (String.ofList rest))
  | '0' :: _ => denoted (integer? 8 (String.ofList s))
  | _ =>
    (groups s).foldlM (fun n g => (denoted (integer? 10 g)).map (60 * n + ·)) 0

def int (text : String) : Except Misuse Int := do
  let (negative, s) ← signed text
  let n ← magnitude s
  pure (if negative then -n else n)

private def sixties (parts : List Binary64) : Except Misuse Binary64 :=
  let step := fun (sum : Binary64 × Int) (part : Binary64) =>
    match Binary64.ofInt? sum.2 with
    | some weight => Except.ok (sum.1.add (part.mul weight), 60 * sum.2)
    | none => Except.error Misuse.tooLarge
  (parts.reverse.foldlM step (Binary64.zero false, 1)).map Prod.fst

def float (text : String) : Except Misuse Binary64 := do
  let (negative, s) ← signed (Text.LowerCase.lower text)
  let value ←
    if s == ".inf".toList then pure (.infinite false)
    else if s == ".nan".toList then pure .notANumber
    else if s.contains ':' then do
      sixties (← (groups s).mapM fun g => denoted (read? g))
    else denoted (read? (String.ofList s))
  pure (if negative then value.neg else value)

private def number (digits : List Char) : Nat :=
  digits.foldl (fun n d => 10 * n + (d.toNat - 48)) 0

private def daysIn (year month : Nat) : Nat :=
  if month = 2 then
    if year % 4 = 0 ∧ (year % 100 ≠ 0 ∨ year % 400 = 0) then 29 else 28
  else if [4, 6, 9, 11].contains month then 30 else 31

private def zoneOf? (s : List Char) : Option (Option Int) :=
  match s.dropWhile fun c => c == ' ' || c == '\t' with
  | [] => some none
  | ['Z'] => some (some 0)
  | sign :: rest => do
    let (hours, rest) ← someDigits? 1 2 rest
    let minutes := 60 * number hours + number (rest.drop 1)
    if minutes < 24 * 60 then some (some (if sign == '-' then -(minutes : Int) else minutes))
    else none

private def timeOf? (s : List Char) : Option ClockTime := do
  let (hour, s) ← someDigits? 1 2 (s.dropWhile fun c => !c.isDigit)
  let (minute, s) ← someDigits? 2 2 (← after? ':' s)
  let (second, s) ← someDigits? 2 2 (← after? ':' s)
  let fraction := match s with
    | '.' :: rest => rest.takeWhile Char.isDigit
    | _ => []
  let rest := match s with
    | '.' :: rest => rest.drop fraction.length
    | _ => s
  let time : ClockTime := {
    hour := number hour
    minute := number minute
    second := number second
    microsecond := number ((fraction ++ List.replicate 6 '0').take 6)
    offset := ← zoneOf? rest }
  if time.hour < 24 ∧ time.minute < 60 ∧ time.second < 60 then some time else none

/-- The date that a text denotes, if there is such a day, and a time of day if it goes on. -/
private def stampOf? (s : List Char) : Option Moment := do
  let (year, month, day, rest) ← datePart? s
  let moment : Moment := {
    year := number year
    month := number month
    day := number day
    time := ← if rest.isEmpty then some none else (timeOf? rest).map some }
  if 1 ≤ moment.year ∧ 1 ≤ moment.month ∧ moment.month ≤ 12 ∧ 1 ≤ moment.day ∧
      moment.day ≤ daysIn moment.year moment.month then some moment
  else none

def stamp (text : String) : Except Misuse Moment :=
  let chars := text.toList
  let s := if chars.getLast? == some '\n' then chars.dropLast else chars
  if isStamp false s then denoted (stampOf? s) else .error .noMember

end StoreSchema.Yaml.ScalarValue
