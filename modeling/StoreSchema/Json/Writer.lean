import StoreSchema.Data.Basic
import StoreSchema.Number.Numeral

set_option autoImplicit false

namespace StoreSchema.Json

open StoreSchema.Number (Binary64)
open StoreSchema.Text

private def escapeUnit (unit : Nat) : List Char :=
  '\\' :: 'u' :: Quoted.hex 4 unit

private def escapePoint (point : Nat) : List Char :=
  let c := Char.ofNat point
  if c == '"' then ['\\', '"']
  else if c == '\\' then ['\\', '\\']
  else if c == '\n' then ['\\', 'n']
  else if c == '\r' then ['\\', 'r']
  else if c == '\t' then ['\\', 't']
  else if c == '\x0c' then ['\\', 'f']
  else if c == '\x08' then ['\\', 'b']
  else if 32 ≤ point && point ≤ 126 then [c]
  else if point < 0x10000 then escapeUnit point
  else
    let (high, low) := Surrogate.split point
    escapeUnit high ++ escapeUnit low

def writeString (s : String) : String :=
  String.ofList ('"' :: (Surrogate.points s.toList).flatMap escapePoint ++ ['"'])

def writeFloat : Binary64 → String
  | .notANumber => "NaN"
  | .infinite negative => if negative then "-Infinity" else "Infinity"
  | x => x.text

/-- Text that is written piece by piece, the last piece first; writing may break off. -/
abbrev Writing := ExceptT Misuse (StateM (List String))

private def put (piece : String) : Writing Unit := modify (piece :: ·)

/-- A scalar; a date and bytes have no JSON form, and a long integer is not written. -/
def scalarText : Scalar → Except Misuse String
  | .null => .ok "null"
  | .bool value => .ok (if value then "true" else "false")
  | .int value =>
    match Number.Numeral.text? value with
    | some s => .ok s
    | none => .error .wrongForm
  | .float value => .ok (writeFloat value)
  | .text value => .ok (writeString value)
  | .stamp _ _ | .bytes _ => .error .wrongKind

/-- A key: a scalar that is no string is put in quotes as it is written. -/
def keyText (key : Scalar) : Except Misuse String :=
  match key with
  | .text value => .ok (writeString value)
  | key => (scalarText key).map fun s => "\"" ++ s ++ "\""

/-- How entries are set apart: all on one line, or one a line. -/
inductive Layout where
  | oneLine
  | indented
deriving DecidableEq

/-- What stands before the first entry inside `level` brackets, and before the end of them. -/
private def margin (layout : Layout) (level : Nat) : String :=
  match layout with
  | .oneLine => ""
  | .indented => "\n" ++ String.ofList (List.replicate (2 * level) ' ')

private def between (layout : Layout) (level : Nat) : String :=
  match layout with
  | .oneLine => ", "
  | .indented => "," ++ margin layout level

/-- A value that is a list or mapping of some kind or has no JSON form, and so is no part of the
piece before it. -/
private def standsAlone : Data → Bool
  | .scalar (.stamp _ _) | .scalar (.bytes _) => true
  | .scalar _ => false
  | _ => true

mutual
private def writeAt (layout : Layout) (level : Nat) (before : String) (d : Data) :
    Writing Unit := do
  if standsAlone d then put before
  match d with
  | .scalar value => do
    let s ← scalarText value
    put (if standsAlone d then s else before ++ s)
  | .list [] => put "[]"
  | .list items => do
    put "["
    writeItems layout (level + 1) (margin layout (level + 1)) items
    put (margin layout level ++ "]")
  | .pair first second _ => do
    put "["
    writeAt layout (level + 1) (margin layout (level + 1)) first
    writeAt layout (level + 1) (between layout (level + 1)) second
    put (margin layout level ++ "]")
  | .map [] => put "\x7b\x7d"
  | .map entries => do
    put "\x7b"
    writeEntries layout (level + 1) (margin layout (level + 1)) entries
    put (margin layout level ++ "\x7d")
  | .set _ _ => throw .wrongKind
  | .recurrence _ => throw .wrongForm

private def writeItems (layout : Layout) (level : Nat) (before : String) :
    List Data → Writing Unit
  | [] => pure ()
  | item :: rest => do
    writeAt layout level before item
    writeItems layout level (between layout level) rest

private def writeEntries (layout : Layout) (level : Nat) (before : String) :
    List (Scalar × Data) → Writing Unit
  | [] => pure ()
  | (key, value) :: rest => do
    let name ← keyText key
    put (before ++ name ++ ": ")
    writeAt layout level "" value
    writeEntries layout level (between layout level) rest
end

/-- The JSON text of a value as far as it can be written, and why it breaks off if it does. -/
def writeParts (layout : Layout) (d : Data) : String × Option Misuse :=
  let (outcome, pieces) := (writeAt layout 0 "" d).run.run []
  ("".intercalate pieces.reverse,
    match outcome with
    | .ok () => none
    | .error cause => some cause)

def write (layout : Layout) (d : Data) : Except Misuse String :=
  match writeParts layout d with
  | (s, none) => .ok s
  | (_, some cause) => .error cause

end StoreSchema.Json
