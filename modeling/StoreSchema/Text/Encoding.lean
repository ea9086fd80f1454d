import StoreSchema.Fault
import StoreSchema.Text.CodePoints

set_option autoImplicit false

namespace StoreSchema.Text.Utf8

def isContinuation (b : UInt8) : Bool := 0x80 ≤ b && b ≤ 0xBF

/-- How many bytes follow a first byte, the bits that it holds, and the range of the second. -/
def leadOf? (b : UInt8) : Option (Nat × Nat × UInt8 × UInt8) :=
  if 0xC2 ≤ b && b ≤ 0xDF then some (1, b.toNat - 0xC0, 0x80, 0xBF)
  else if b == 0xE0 then some (2, 0, 0xA0, 0xBF)
  else if b == 0xED then some (2, 0xD, 0x80, 0x9F)
  else if 0xE1 ≤ b && b ≤ 0xEF then some (2, b.toNat - 0xE0, 0x80, 0xBF)
  else if b == 0xF0 then some (3, 0, 0x90, 0xBF)
  else if 0xF1 ≤ b && b ≤ 0xF3 then some (3, b.toNat - 0xF0, 0x80, 0xBF)
  else if b == 0xF4 then some (3, 4, 0x80, 0x8F)
  else none

/-- The number of bytes at the front that may continue a character of `count` more bytes whose
second byte lies in the given range. -/
def continued (low high : UInt8) (count : Nat) (bytes : List UInt8) : Nat :=
  match bytes.take count with
  | [] => 0
  | second :: rest =>
    if low ≤ second && second ≤ high then 1 + (rest.takeWhile isContinuation).length else 0

def codePoint (bits : Nat) (bytes : List UInt8) : Nat :=
  bytes.foldl (fun n b => n * 64 + (b.toNat - 0x80)) bits

/-- Reads on from a position; `read` holds the characters so far in reverse. -/
def decodeFrom (position : Nat) (read : List Char) (bytes : List UInt8) :
    Nat → Except ByteFault (List Char)
  | 0 => .ok read.reverse
  | fuel + 1 =>
    match bytes with
    | [] => .ok read.reverse
    | b :: rest =>
      if b < 0x80 then decodeFrom (position + 1) (Char.ofNat b.toNat :: read) rest fuel
      else match leadOf? b with
        | none => .error ⟨position, [b], .startByte⟩
        | some (count, bits, low, high) =>
          let good := continued low high count rest
          if good = count then
            let c := Surrogate.hold (codePoint bits (rest.take count))
            decodeFrom (position + 1 + count) (c.reverse ++ read) (rest.drop count) fuel
          else
            let cause := if good = rest.length then ByteCause.endOfData else .continuationByte
            .error ⟨position, b :: rest.take good, cause⟩

def decode (bytes : List UInt8) : Except ByteFault String :=
  (decodeFrom 0 [] bytes bytes.length).map String.ofList

end StoreSchema.Text.Utf8

namespace StoreSchema.Text.Base64

def letters : List Char :=
  "ABCDEFGHIJKLMNOPQRSTUVWXYZabcdefghijklmnopqrstuvwxyz0123456789+/".toList

def value? (c : Char) : Option Nat := letters.idxOf? c

inductive Fault where
  /-- A row lacks letters or signs that fill it up. -/
  | padding
  /-- A row has one letter, the one after so many. -/
  | loneLetter (before : Nat)
deriving DecidableEq

def Fault.message : Fault → String
  | padding => "Incorrect padding"
  | loneLetter before => "Invalid base64-encoded string: number of data characters (" ++
      toString (before + 1) ++ ") cannot be 1 more than a multiple of 4"

/-- The bytes read so far in reverse, the place in the row of four, the bits that are left of the
last letter, and the equals signs since then. -/
private structure Reading where
  reversed : List UInt8 := []
  place : Nat := 0
  left : Nat := 0
  signs : Nat := 0

private def Reading.letter (r : Reading) (v : Nat) : Reading :=
  let byte := fun (n : Nat) => UInt8.ofNat n :: r.reversed
  match r.place with
  | 0 => { reversed := r.reversed, place := 1, left := v }
  | 1 => { reversed := byte (4 * r.left + v / 16), place := 2, left := v % 16 }
  | 2 => { reversed := byte (16 * r.left + v / 4), place := 3, left := v % 4 }
  | _ => { reversed := byte (64 * r.left + v) }

private def readFrom (r : Reading) : List Char → Except Fault (List UInt8)
  | [] =>
    if r.place = 0 then .ok r.reversed.reverse
    else if r.place = 1 then .error (.loneLetter (r.reversed.length / 3 * 4))
    else .error .padding
  | '=' :: rest =>
    if 2 ≤ r.place then
      if 4 ≤ r.place + r.signs + 1 then .ok r.reversed.reverse
      else readFrom { r with signs := r.signs + 1 } rest
    else readFrom r rest
  | c :: rest =>
    match value? c with
    | some v => readFrom (r.letter v) rest
    | none => readFrom r rest

def decode (s : String) : Except Fault (List UInt8) := readFrom {} s.toList

private def row : List UInt8 → List Char
  | [] => []
  | bytes =>
    let n := (List.range 3).foldl (fun n k => 256 * n + (bytes.getD k 0).toNat) 0
    let all := [n / 262144, n / 4096 % 64, n / 64 % 64, n % 64].map fun v => letters.getD v '='
    all.take (bytes.length + 1) ++ List.replicate (3 - bytes.length) '='

def encode : List UInt8 → List Char
  | a :: b :: c :: rest => row [a, b, c] ++ encode rest
  | rest => row rest

end StoreSchema.Text.Base64
