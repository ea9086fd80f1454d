import StoreSchema.Compile.Context
import StoreSchema.Data.Basic
import StoreSchema.Definition.Extension
import StoreSchema.Fault
import StoreSchema.Number.Numeral
import StoreSchema.Text.Encoding

set_option autoImplicit false

namespace StoreSchema

/-- What is worth telling and does not stop a run. -/
inductive Warning where
  | unparseableVersion (version : Data)
  | unknownExtra (name : Scalar)
  | replacingModel (name : Scalar)

namespace Warning

def message : Warning → String
  | .unparseableVersion version => "Unparseable swagger version: " ++ version.quoted
  | .unknownExtra name => "Extra definitions name unknown definition: " ++ name.shown
  | .replacingModel name => "Replacing registered model: " ++ name.shown

end Warning

/-- A step that may warn and may fail; the warnings are kept in either case. -/
abbrev Reporting := ExceptT Fault (StateM (List Warning))

namespace Reporting

def ofExcept {α : Type} (outcome : Except Fault α) : Reporting α :=
  match outcome with
  | .ok value => pure value
  | .error fault => throw fault

def warn (warning : Warning) : Reporting Unit :=
  modify fun warnings => warnings ++ [warning]

end Reporting

open StoreSchema.Number (Binary64)

/-- A document as it is handed in. -/
inductive Source where
  | absent
  | text (json : String)
  | bytes (json : List UInt8)
  | data (value : Data)
  /-- Data from a file, and the places in it that hold one mapping. -/
  | file (value : Data) (sharing : Sharing)

/-- The places that hold one mapping, in data from a file. -/
def Source.sharing : Source → Option Sharing
  | .file _ sharing => some sharing
  | _ => none

namespace Document

private def kindOf : Data → String
  | .scalar .null => "NoneType"
  | .scalar (.bool _) => "bool"
  | .scalar (.int _) => "int"
  | .scalar (.float _) => "float"
  | .scalar (.text _) => "str"
  | .scalar (.stamp value _) => if value.time.isSome then "datetime" else "date"
  | .scalar (.bytes _) => "bytes"
  | .list _ => "list"
  | .map _ => "dict"
  | .pair _ _ _ => "tuple"
  | .set _ _ => "set"
  | .recurrence isMap => if isMap then "dict" else "list"

def ofText (json : String) : Except Fault (Entries Data) :=
  match Json.read json with
  | .ok (.map entries) => .ok entries
  | .ok _ => .error .documentNotMapping
  | .error (.malformed cause position) => .error (.documentNotJson json cause position)
  | .error .integerTooLong => .error (.misuse .wrongForm)
  | .error .nestedTooDeep => .error .endless

def decode : Source → Except Fault (Entries Data)
  | .absent => .error .noDocument
  | .text json => ofText json
  | .bytes bytes =>
    match Text.Utf8.decode bytes with
    | .ok json => ofText json
    | .error fault => .error (.documentNotText fault)
  | .data (.map entries) | .file (.map entries) _ => .ok entries
  | .data other | .file other _ => .error (.documentOfKind (kindOf other))

/-- The version that a document declares; a warning that shows what it declares if that is no
number. -/
def detectVersion (document : Entries Data) : Reporting (Option Binary64) :=
  let declared := Entries.value document "swagger"
  let ofInt := fun (n : Int) =>
    match Binary64.ofInt? n with
    | some version => pure (some version)
    | none => throw (.misuse .tooLarge)
  let unreadable :=
    if declared.isShort then do
      Reporting.warn (.unparseableVersion declared)
      pure none
    else throw (.misuse .wrongForm)
  let ofText := fun (s : String) =>
    match Number.Numeral.read? s with
    | some version => pure (some version)
    | none => unreadable
  match declared with
  | .scalar .null => pure none
  | .scalar (.bool flag) => ofInt (if flag then 1 else 0)
  | .scalar (.int n) => ofInt n
  | .scalar (.float x) => pure (some x)
  | .scalar (.text s) => ofText s
  | .scalar (.bytes value) =>
    if value.all (· < 128) then ofText (String.ofList (value.map fun b => Char.ofNat b.toNat))
    else unreadable
  | _ => unreadable

def replaceBlock (definition : Data) (key : String) (block : Data) :
    Except Misuse Data :=
  match definition with
  | .map entries => .ok (.map (Entries.put entries (.text key) block))
  | _ => .error .wrongKind

/-- Definitions with the extension blocks of some replaced; a warning for each name that no
definition has. -/
def applyNamed (key : String) (definitions : Entries Data) :
    Entries Data → Reporting (Entries Data)
  | [] => pure definitions
  | (name, block) :: rest => do
    match Entries.get? definitions name with
    | none =>
      Reporting.warn (.unknownExtra name)
      applyNamed key definitions rest
    | some definition =>
      let replaced ← Reporting.ofExcept (orMisuse (replaceBlock definition key block))
      applyNamed key (Entries.put definitions name replaced) rest

/-- A definition with a block laid under its extension block. -/
def layUnder (key : String) (base definition : Data) : Except Misuse Data := do
  let entries ← definition.members
  let merged ← Extensions.mergeBlocks base (Entries.value entries key)
  pure (.map (Entries.put entries (.text key) (.map merged)))

/-- Definitions with extension blocks from outside the document: a named block replaces that of
its definition, and the `default` block is then laid under every definition's. -/
def applyExtra (definitions : Entries Data) (extra : Data) (key : String) :
    Reporting (Entries Data) := do
  if extra.isTruthy then
    let extra ← Reporting.ofExcept (orMisuse extra.toEntries)
    let base := Entries.value extra "default"
    let named ← applyNamed key definitions (Entries.erase extra (.text "default"))
    if base.isTruthy then
      Reporting.ofExcept (orMisuse (named.mapM fun e => do
        pure (e.1, ← layUnder key base e.2)))
    else pure named
  else pure definitions

end Document

end StoreSchema
