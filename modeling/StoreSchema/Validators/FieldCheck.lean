import StoreSchema.Fault
import StoreSchema.Storage.Value
import StoreSchema.Text.Characters

set_option autoImplicit false

namespace StoreSchema.FieldCheck

/-- A character that may stand in a part of an address. -/
def isAddressCharacter (c : Char) : Bool :=
  c != '@' && !Text.Blank.isBlank c

/-- A host has a point with something before and after it. -/
def isHost (s : List Char) : Bool :=
  s.all isAddressCharacter && (s.drop 1).dropLast.contains '.'

/-- The text without one line feed at its end. -/
def withoutLastLineFeed (s : List Char) : List Char :=
  if s.getLast? == some '\n' then s.dropLast else s

/-- An address: a name, an at sign and a host; one line feed may follow. -/
def isAddress (s : String) : Bool :=
  let s := withoutLastLineFeed s.toList
  let name := s.takeWhile isAddressCharacter
  match s.drop name.length with
  | '@' :: host => !name.isEmpty && isHost host
  | _ => false

/-- The value is an address. What is empty, null, false or zero is none. -/
def isEmail (value : Value) : Except Misuse Bool :=
  if !value.isTruthy then .ok false
  else match value with
    | .text s => .ok (isAddress s)
    | _ => .error .wrongKind

/-- The value is a number above zero. Null is not. -/
def isPositive (value : Value) : Except Misuse Bool :=
  match value with
  | .scalar .null => .ok false
  | .scalar (.bool flag) => .ok flag
  | .scalar (.int n) => .ok (decide (0 < n))
  | .scalar (.float x) => .ok x.isPositive
  | _ => .error .wrongKind

def all : List (String × (Value → Except Misuse Bool)) :=
  [("isEmail", isEmail), ("isPositive", isPositive)]

end StoreSchema.FieldCheck
