import StoreSchema.Fault
import StoreSchema.Text.Characters
import StoreSchema.Text.LowerCase

set_option autoImplicit false

namespace StoreSchema.EnvironmentFile

open StoreSchema.Text.Blank (isBlank)

private def isLineEnd (c : Char) : Bool := c == '\n' || c == '\r'

private def isInnerBlank (c : Char) : Bool := isBlank c && !isLineEnd c

private def afterLine (s : List Char) : List Char :=
  match s.dropWhile fun c => !isLineEnd c with
  | '\r' :: '\n' :: rest => rest
  | _ :: rest => rest
  | [] => []

/-- A step of reading a line; it fails with what is left at the place of the fault. -/
private abbrev Reading := Except (List Char)

private def finishLine (s : List Char) : Reading (List Char) :=
  match s.dropWhile isInnerBlank with
  | [] => .ok []
  | c :: rest =>
    if c == '#' || isLineEnd c then .ok (afterLine (c :: rest)) else .error (c :: rest)

/-- The text up to a quote, and the rest after it. A backslash makes one pair with a backslash or a
quote after it; if every quote is in a pair, the last one closes all the same. -/
private def quotedPart (quote : Char) (read : List Char) :
    List Char → Option (List Char × List Char)
  | [] => none
  | '\\' :: c :: rest =>
    if c == '\\' then quotedPart quote ('\\' :: '\\' :: read) rest
    else if c == quote then
      match quotedPart quote (c :: '\\' :: read) rest with
      | some found => some found
      | none => some (('\\' :: read).reverse, rest)
    else quotedPart quote ('\\' :: read) (c :: rest)
  | c :: rest => if c == quote then some (read.reverse, rest) else quotedPart quote (c :: read) rest

private def escapes (quote : Char) : List (Char × Char) :=
  let always := [('\\', '\\'), ('\'', '\'')]
  if quote == '"' then
    always ++ [('"', '"'), ('a', '\x07'), ('b', '\x08'), ('f', '\x0c'), ('n', '\n'), ('r', '\r'),
      ('t', '\t'), ('v', '\x0b')]
  else always

private def unescape (quote : Char) : List Char → List Char
  | '\\' :: c :: rest =>
    match (escapes quote).lookup c with
    | some e => e :: unescape quote rest
    | none => '\\' :: unescape quote (c :: rest)
  | c :: rest => c :: unescape quote rest
  | [] => []

private def withoutComment (blank : Bool) : List Char → List Char
  | [] => []
  | c :: rest => if c == '#' && blank then [] else c :: withoutComment (isBlank c) rest

private def value (s : List Char) : Reading (List Char × List Char) :=
  let blanks := s.takeWhile isInnerBlank
  let rest := s.drop blanks.length
  match rest with
  | [] => .ok ([], [])
  | c :: inner =>
    if c == '\'' || c == '"' then
      match quotedPart c [] inner with
      | some (text, after) => .ok (unescape c text, after)
      | none => .error rest
    else
      let line := rest.takeWhile fun c => !isLineEnd c
      let kept := ((withoutComment (!blanks.isEmpty) line).reverse.dropWhile isBlank).reverse
      .ok (kept, rest.drop line.length)

private def name (s : List Char) : Reading (Option (List Char) × List Char) :=
  match s with
  | '#' :: _ => .ok (none, s)
  | '\'' :: rest =>
    let name := rest.takeWhile (· != '\'')
    match rest.drop name.length with
    | _ :: after => if name.isEmpty then .error s else .ok (some name, after)
    | [] => .error s
  | _ =>
    let name := s.takeWhile fun c => c != '=' && c != '#' && !isBlank c
    if name.isEmpty then .error s else .ok (some name, s.drop name.length)

private def skipExport (s : List Char) : List Char :=
  if "export".toList.isPrefixOf s then
    match s.drop 6 with
    | c :: rest => if isInnerBlank c then rest.dropWhile isInnerBlank else s
    | [] => s
  else s

/-- One binding: its name and value, if it has them, and the rest after its line. -/
private def binding (s : List Char) :
    Reading (Option (List Char) × Option (List Char) × List Char) := do
  let (name, s) ← name (skipExport s)
  match s.dropWhile isInnerBlank with
  | '=' :: rest =>
    let (value, after) ← value rest
    pure (name, some value, ← finishLine after)
  | s => pure (name, none, ← finishLine s)

/-- The value that a variable has; its stand-in, or an empty text, if it is not bound. -/
private def valueOf (known : List (String × Option String)) (inner : List Char) : List Char :=
  let name := inner.takeWhile (· != ':')
  match known.lookup (String.ofList name), inner.drop name.length with
  | some value, _ => (value.getD "").toList
  | none, ':' :: '-' :: standIn => standIn
  | none, _ => []

private def substitute (known : List (String × Option String)) (s : List Char) : Nat → List Char
  | 0 => s
  | fuel + 1 =>
    match s with
    | '$' :: '\x7b' :: rest =>
      let inner := rest.takeWhile (· != '\x7d')
      let name := inner.takeWhile (· != ':')
      let tail := inner.drop name.length
      let whole := inner.length < rest.length &&
        (tail.isEmpty || ":-".toList.isPrefixOf tail)
      if whole then
        valueOf known inner ++ substitute known (rest.drop (inner.length + 1)) fuel
      else '$' :: substitute known ('\x7b' :: rest) fuel
    | c :: rest => c :: substitute known rest fuel
    | [] => []

private def bind (bound : List (String × Option String)) (name : String) (value : Option String) :
    List (String × Option String) :=
  if bound.any fun v => v.1 == name then
    bound.map fun v => if v.1 == name then (name, value) else v
  else bound ++ [(name, value)]

/-- The bindings of a text, after those already read. A line that is at fault is left out, from its
start or from the last line that it goes on in. -/
private def parseFrom (outer bound : List (String × Option String)) (s : List Char) :
    Nat → List (String × Option String)
  | 0 => bound
  | fuel + 1 =>
    match s.dropWhile isBlank with
    | [] => bound
    | s =>
      match binding s with
      | .ok (some name, value, rest) =>
        let value := value.map fun value =>
          String.ofList (substitute (bound ++ outer) value (value.length + 1))
        parseFrom outer (bind bound (String.ofList name) value) rest fuel
      | .ok (none, _, rest) => parseFrom outer bound rest fuel
      | .error rest => parseFrom outer bound (afterLine rest) fuel

private def withoutMark : List Char → List Char
  | '\uFEFF' :: rest => rest
  | s => s

/-- The variables that a text binds, in the order of their first bindings; `outer` are those known
outside of it. -/
def parse (outer : List (String × Option String)) (text : String) :
    List (String × Option String) :=
  parseFrom outer [] (withoutMark text.toList) (text.length + 1)

end StoreSchema.EnvironmentFile

namespace StoreSchema

inductive VariableValue where
  /-- Nothing: the variable is named without a value. -/
  | nothing
  | text (value : String)
  /-- The word that stands for null. -/
  | nullWord (value : String)
deriving DecidableEq

/-- How variables name settings. -/
structure VariableForm where
  /-- What the name of every variable starts with; none if no name can start with it. -/
  lead : Option String := some "SWAGGER_ODM_"
  /-- What joins the names of a section and of a field; none if variables name no fields. -/
  joint : Option String := some "__"
  /-- The greatest number of joints in a name, if there is one. -/
  joints : Option Nat := none
  /-- Case counts in the names of variables and settings. -/
  exactCase : Bool := false
  /-- A variable with an empty value counts as not bound. -/
  skipsEmpty : Bool := false
  /-- The word that stands for null, if there is one. -/
  nullWord : Option String := none
  /-- The files that bind variables; of several the last counts. -/
  files : List String := [".env"]
deriving Inhabited

namespace VariableForm

def names : List String :=
  ["_env_prefix", "_env_nested_delimiter", "_env_nested_max_split", "_case_sensitive",
    "_env_ignore_empty", "_env_parse_none_str", "_env_file"]

private def path : Data → Except Misuse String
  | .text s => .ok s
  | _ => .error .wrongKind

private def filesOf (given : Option Data) : Except Misuse (List String) :=
  match given with
  | none => .ok [".env"]
  | some .null => .ok []
  | some (.text s) => .ok [s]
  | some d => do (← d.items).mapM path

private def jointsOf : Data → Except Misuse (Option Nat)
  | .bool true => .ok (some 0)
  | .int n => .ok (if 0 < n then some (n - 1).toNat else none)
  | .text s => if s == "" then .ok none else .error .wrongKind
  | .list items => if items.isEmpty then .ok none else .error .wrongKind
  | .map entries => if entries.isEmpty then .ok none else .error .wrongKind
  | _ => .ok none

/-- The form that is given among settings. -/
def ofEntries (given : Entries Data) : Except Misuse VariableForm := do
  let form : VariableForm := {}
  pure
    { lead := match Entries.value given "_env_prefix" with
        | .null => form.lead
        | .text s => some s
        | _ => none
      joint := match Entries.value given "_env_nested_delimiter" with
        | .null => form.joint
        | .text s => if s == "" then none else some s
        | _ => none
      joints := ← jointsOf (Entries.value given "_env_nested_max_split")
      exactCase := (Entries.value given "_case_sensitive").isTruthy
      skipsEmpty := (Entries.value given "_env_ignore_empty").isTruthy
      nullWord := match Entries.value given "_env_parse_none_str" with
        | .text s => some s
        | _ => none
      files := ← filesOf (Entries.get? given (.text "_env_file")) }

def without (given : Entries Data) : Entries Data :=
  given.filter fun e => !names.any fun name => e.1.same (.text name)

def cased (form : VariableForm) (name : String) : String :=
  if form.exactCase then name else Text.LowerCase.lower name

private def valueOf? (form : VariableForm) : Option String → Option VariableValue
  | none => some .nothing
  | some value =>
    if form.skipsEmpty && value == "" then none
    else if form.nullWord == some value then some (.nullWord value)
    else some (.text value)

/-- Variables by their names as they count; of equal names the last counts. -/
def normalized (form : VariableForm) (bound : List (String × Option String)) :
    List (String × VariableValue) :=
  (bound.filterMap fun v => (form.valueOf? v.2).map fun value => (form.cased v.1, value)).foldl
    (fun acc v =>
      if acc.any fun w => w.1 == v.1 then acc.map fun w => if w.1 == v.1 then v else w
      else acc ++ [v]) []

/-- The names in a row that joints take apart. -/
def split (form : VariableForm) (joint row : String) : List String :=
  let parts := row.splitOn joint
  match form.joints with
  | some n =>
    if n < parts.length then parts.take n ++ [joint.intercalate (parts.drop n)] else parts
  | none => parts

end VariableForm

end StoreSchema
