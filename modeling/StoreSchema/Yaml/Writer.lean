import StoreSchema.Json.Writer
import StoreSchema.Text.Encoding
import StoreSchema.Yaml.ScalarValue

set_option autoImplicit false

namespace StoreSchema.Yaml

open StoreSchema.Number (Binary64)

/-- The column after which a text is folded. -/
def foldColumn : Nat := 80

/-- A value that may be referred to, by how it came about. -/
inductive Referent where
  | stamp (origin : Origin)
  | pair (origin : Origin)
  | set (origin : Origin)
deriving DecidableEq

def Referent.ofScalar? : Scalar → Option Referent
  | .stamp _ origin => if origin.isEmpty then none else some (stamp origin)
  | _ => none

def Referent.ofData? : Data → Option Referent
  | .scalar s => ofScalar? s
  | .pair _ _ origin => if origin.isEmpty then none else some (pair origin)
  | .set _ origin => if origin.isEmpty then none else some (set origin)
  | _ => none

/-- The referents met so far, and those met again in the order in which they were. -/
structure References where
  met : List Referent := []
  repeated : List Referent := []

namespace References

private def meetScalar (r : References) (s : Scalar) : References :=
  match Referent.ofScalar? s with
  | none => r
  | some x =>
    if r.repeated.contains x then r
    else if r.met.contains x then { r with repeated := r.repeated ++ [x] }
    else { r with met := x :: r.met }

mutual
/-- Meets a value and what is in it, unless it was met before. -/
def meet (r : References) (d : Data) : References :=
  match Referent.ofData? d with
  | some x =>
    if r.repeated.contains x then r
    else if r.met.contains x then { r with repeated := r.repeated ++ [x] }
    else inside { r with met := x :: r.met } d
  | none => inside r d
termination_by (sizeOf d, 1)

def inside (r : References) (d : Data) : References :=
  match d with
  | .list items => meetItems r items
  | .map entries => meetEntries r entries
  | .pair first second _ => (r.meet first).meet second
  | .set members _ => members.foldl meetScalar r
  | _ => r
termination_by (sizeOf d, 0)

def meetItems (r : References) (items : List Data) : References :=
  match items with
  | [] => r
  | item :: rest => (r.meet item).meetItems rest
termination_by (sizeOf items, 0)

def meetEntries (r : References) (entries : List (Scalar × Data)) : References :=
  match entries with
  | [] => r
  | (key, value) :: rest => ((r.meetScalar key).meet value).meetEntries rest
termination_by (sizeOf entries, 0)
end

end References

/-- A text being written: its characters in reverse, the column, and whether what was last written
is white space, or indentation with at most indicators after it. -/
structure Pen where
  reversed : List Char := []
  column : Nat := 0
  afterSpace : Bool := true
  indenting : Bool := true
  /-- The referents that come more than once, in the order of their anchors. -/
  anchored : List Referent := []
  /-- The referents that were written. -/
  written : List Referent := []

namespace Pen

def put (pen : Pen) (chars : List Char) : Pen :=
  { pen with reversed := chars.reverse ++ pen.reversed, column := pen.column + chars.length }

def breakLine (pen : Pen) : Pen :=
  { pen with
    reversed := '\n' :: pen.reversed, column := 0, afterSpace := true, indenting := true }

/-- Moves to a column, on a new line unless nothing but indentation stands before it. -/
def indentTo (pen : Pen) (column : Nat) : Pen :=
  let fresh := pen.indenting &&
    (decide (pen.column < column) || (pen.column == column && pen.afterSpace))
  let pen := if fresh then pen else pen.breakLine
  if pen.column < column then
    { pen.put (List.replicate (column - pen.column) ' ') with afterSpace := true }
  else pen

def indicator (pen : Pen) (chars : String) (apart spaceAfter indents : Bool) : Pen :=
  let chars := if pen.afterSpace || !apart then chars.toList else ' ' :: chars.toList
  { pen.put chars with afterSpace := spaceAfter, indenting := pen.indenting && indents }

end Pen

/-! ### Scalars -/

/-- How a scalar may be written. -/
structure ScalarStyle where
  empty : Bool
  multiline : Bool
  plain : Bool
  singleQuoted : Bool

private def breaksLine (c : Char) : Bool :=
  c == '\n' || c == '\u0085' || c == '\u2028' || c == '\u2029'

private def isApart : Option Char → Bool
  | none => true
  | some c => c == ' ' || c == '\t' || c == '\r' || c == '\x00' || breaksLine c

private def hasPair (first second : Char → Bool) : List Char → Bool
  | a :: b :: rest => (first a && second b) || hasPair first second (b :: rest)
  | _ => false

private def leadsWrongly (first : Char) (next : Option Char) : Bool :=
  "#,[]\x7b\x7d&*!|>'\"%@\x60".toList.contains first ||
    ((first == '?' || first == ':' || first == '-') && isApart next)

private def hidesIndicator : List Char → Bool
  | previous :: c :: rest =>
    (c == ':' && isApart rest.head?) || (c == '#' && isApart (some previous)) ||
      hidesIndicator (c :: rest)
  | _ => false

/-- How a text may be written outside of brackets. -/
def ScalarStyle.ofText (s : List Char) : ScalarStyle :=
  match s with
  | [] => ⟨true, false, true, true⟩
  | first :: rest =>
    let isSpace := fun (c : Char) => c == ' '
    let last := s.getLast?
    let edges := isSpace first || breaksLine first ||
      (last.map fun c => isSpace c || breaksLine c).getD false
    let marker := "---".toList.isPrefixOf s || "...".toList.isPrefixOf s
    let special := s.any fun c => !(c == '\n' || (32 ≤ c.toNat && c.toNat ≤ 126))
    let indented := hasPair breaksLine isSpace s
    let trailing := hasPair isSpace breaksLine s
    let lines := s.any breaksLine
    let indicators := marker || leadsWrongly first rest.head? || hidesIndicator s
    { empty := false
      multiline := lines
      plain := !edges && !indented && !trailing && !special && !lines && !indicators
      singleQuoted := !indented && !trailing && !special }

private def writePlain (indent : Nat) (fold : Bool) (pen : Pen) (s : List Char) : Pen :=
  let pen := if pen.afterSpace then pen else pen.put [' ']
  words { pen with afterSpace := false, indenting := false } s (s.length + 1)
where
  /-- Writes the words that are left with the spaces between them. -/
  words (pen : Pen) (s : List Char) : Nat → Pen
    | 0 => pen
    | fuel + 1 =>
      let word := s.takeWhile (· != ' ')
      let spaces := (s.drop word.length).takeWhile (· == ' ')
      let rest := s.drop (word.length + spaces.length)
      let pen := pen.put word
      if spaces.isEmpty then pen
      else if spaces.length == 1 && decide (foldColumn < pen.column) && fold then
        words { pen.indentTo indent with afterSpace := false, indenting := false } rest fuel
      else words (pen.put spaces) rest fuel

private def writeSingleQuoted (indent : Nat) (fold : Bool) (pen : Pen) (s : List Char) : Pen :=
  let pen := pen.indicator "'" true false false
  (parts true pen s (s.length + 1)).indicator "'" false false false
where
  /-- Writes the parts that are left: runs of spaces, of line ends, and of other characters. -/
  parts (first : Bool) (pen : Pen) (s : List Char) : Nat → Pen
    | 0 => pen
    | fuel + 1 =>
      match s with
      | [] => pen
      | ' ' :: _ =>
        let spaces := s.takeWhile (· == ' ')
        let rest := s.drop spaces.length
        if spaces.length == 1 && decide (foldColumn < pen.column) && fold && !first &&
            !rest.isEmpty then
          parts false (pen.indentTo indent) rest fuel
        else parts false (pen.put spaces) rest fuel
      | '\n' :: _ =>
        let breaks := s.takeWhile (· == '\n')
        let pen := (List.range (breaks.length + 1)).foldl (fun pen _ => pen.breakLine) pen
        parts false (pen.indentTo indent) (s.drop breaks.length) fuel
      | '\'' :: rest => parts false (pen.put ['\'', '\'']) rest fuel
      | _ =>
        let run := s.takeWhile fun c => c != ' ' && c != '\n' && c != '\''
        parts false (pen.put run) (s.drop run.length) fuel

private def shortEscape? (c : Char) : Option Char :=
  [('\x00', '0'), ('\x07', 'a'), ('\x08', 'b'), ('\t', 't'), ('\n', 'n'), ('\x0b', 'v'),
    ('\x0c', 'f'), ('\r', 'r'), ('\x1b', 'e'), ('"', '"'), ('\\', '\\'), ('\u0085', 'N'),
    ('\u00a0', '_'), ('\u2028', 'L'), ('\u2029', 'P')].lookup c

private def numberEscape (n : Nat) : List Char :=
  let digits := fun (width : Nat) => (Text.Quoted.hex width n).map Char.toUpper
  if n < 0x100 then '\\' :: 'x' :: digits 2
  else if n < 0x10000 then '\\' :: 'u' :: digits 4
  else '\\' :: 'U' :: digits 8

private def escaped (point : Nat) : List Char :=
  if Text.Surrogate.isLone point then numberEscape point
  else
    let c := Char.ofNat point
    match shortEscape? c with
    | some letter => ['\\', letter]
    | none => if 32 ≤ point && point ≤ 126 then [c] else numberEscape point

private def standsPlain (point : Nat) : Bool := escaped point == [Char.ofNat point]

private def writeDoubleQuoted (indent : Nat) (fold : Bool) (pen : Pen) (s : List Char) : Pen :=
  let pen := pen.indicator "\"" true false false
  (chars 0 [] pen (Text.Surrogate.points s)).indicator "\"" false false false
where
  /-- Writes the characters that are left; `run` holds those before them, in reverse, that are not
  written yet. A text is folded before a space, and after an escape. -/
  chars (place : Nat) (run : List Char) (pen : Pen) : List Nat → Pen
    | [] => pen.put run.reverse
    | point :: rest =>
      let c := Char.ofNat point
      let inner := decide (0 < place) && !rest.isEmpty && fold
      if standsPlain point then
        if inner && (c == ' ' || run.isEmpty) && decide (foldColumn < pen.column + run.length) then
          let pen := foldLine (pen.put (run.reverse ++ ['\\'])) (some c)
          chars (place + 1) [c] pen rest
        else chars (place + 1) (c :: run) pen rest
      else
        let pen := (pen.put run.reverse).put (escaped point)
        if inner && decide (foldColumn + 1 < pen.column) then
          chars (place + 1) [] (foldLine (pen.put ['\\']) (rest.head?.map Char.ofNat)) rest
        else chars (place + 1) [] pen rest
  /-- Goes to the next line; a space that would be lost at its start is escaped. -/
  foldLine (pen : Pen) (next : Option Char) : Pen :=
    let pen := { pen.indentTo indent with afterSpace := false, indenting := false }
    if next == some ' ' then pen.put ['\\'] else pen

private def lines (s : List Char) : Nat → List Char
  | 0 => []
  | fuel + 1 => if s.isEmpty then [] else s.take 76 ++ '\n' :: lines (s.drop 76) fuel

/-- A scalar as it is written: its text, its tag, and whether the text alone decides what it stands
for. -/
private structure Spelling where
  text : String
  tag : String
  plain : Bool := true
  literal : Bool := false

private def spelling : Scalar → Spelling
  | .null => ⟨"null", "!!null", true, false⟩
  | .bool value => ⟨if value then "true" else "false", "!!bool", true, false⟩
  | .int value => ⟨toString value, "!!int", true, false⟩
  | .float .notANumber => ⟨".nan", "!!float", true, false⟩
  | .float (.infinite negative) => ⟨if negative then "-.inf" else ".inf", "!!float", true, false⟩
  | .float x => ⟨withPoint x.text.toList, "!!float", true, false⟩
  | .text s => ⟨s, "!!str", PlainType.ofText s == .text, false⟩
  | .stamp value _ => ⟨value.text, "!!timestamp", true, false⟩
  | .bytes value =>
    let letters := Text.Base64.encode value
    ⟨String.ofList (lines letters letters.length), "!!binary", false, true⟩
where
  /-- A number with a point before its exponent. -/
  withPoint (s : List Char) : String :=
    if s.contains '.' then String.ofList s
    else String.ofList (s.flatMap fun c => if c == 'e' then ['.', '0', 'e'] else [c])

private def anchorName (number : Nat) : String :=
  let digits := toString (number + 1)
  "id" ++ String.ofList (List.replicate (3 - digits.length) '0') ++ digits

private inductive Reference where
  | none
  | anchor (name : String)
  | alias_ (name : String)

private def referenceAt (pen : Pen) (referent : Option Referent) : Reference :=
  match referent with
  | some x =>
    match pen.anchored.idxOf? x with
    | some number =>
      if pen.written.contains x then .alias_ (anchorName number) else .anchor (anchorName number)
    | none => .none
  | none => .none

/-- Writes an anchor or an alias, if there is one; true if nothing more is to be written. -/
private def writeReference (pen : Pen) (referent : Option Referent) : Pen × Bool :=
  match referenceAt pen referent with
  | .none => (pen, false)
  | .anchor name =>
    ({ pen.indicator ("&" ++ name) true false false with
      written := referent.toList ++ pen.written }, false)
  | .alias_ name => (pen.indicator ("*" ++ name) true false false, true)

private def writeLiteral (indent : Nat) (pen : Pen) (s : List Char) : Pen :=
  let rows := ((String.ofList s).splitOn "\n").dropLast
  rows.foldl (fun pen row => ((pen.indentTo indent).put row.toList).breakLine)
    (pen.indicator "|" true false false).breakLine

private def writeScalar (indent : Nat) (key : Bool) (pen : Pen) (scalar : Scalar) : Pen :=
  let (pen, done) := writeReference pen (Referent.ofScalar? scalar)
  let spelled := spelling scalar
  let s := spelled.text.toList
  let style := ScalarStyle.ofText s
  if done then pen
  else if spelled.literal then
    let pen := pen.indicator spelled.tag true false false
    if s.isEmpty then writeDoubleQuoted indent (!key) pen s else writeLiteral indent pen s
  else if spelled.plain && style.plain && !(key && (style.empty || style.multiline)) then
    writePlain indent (!key) pen s
  else if style.singleQuoted && !(key && style.multiline) then
    writeSingleQuoted indent (!key) pen s
  else writeDoubleQuoted indent (!key) pen s

private def isSimpleKey (pen : Pen) (key : Scalar) : Bool :=
  let spelled := spelling key
  let s := spelled.text.toList
  let style := ScalarStyle.ofText s
  let length := Text.Surrogate.count s + spelled.tag.length
  match referenceAt pen (Referent.ofScalar? key) with
  | .alias_ _ => true
  | .anchor name => decide (length + name.length < 128) && !style.empty && !style.multiline
  | .none => decide (length < 128) && !style.empty && !style.multiline

/-! ### Collections -/

private def writeKey (indent : Nat) (pen : Pen) (key : Scalar) : Pen :=
  let pen := pen.indentTo indent
  if isSimpleKey pen key then
    (writeScalar (indent + 2) true pen key).indicator ":" false false false
  else
    let pen := pen.indicator "?" true false true
    let pen := (writeScalar (indent + 2) false pen key).indentTo indent
    pen.indicator ":" true false true

mutual
/-- Writes a value. `outer` is the indentation of the collection around it, if there is one, and
`inMapping` tells whether it is the value of a key. -/
private def writeValue (outer : Option Nat) (inMapping : Bool) (pen : Pen) (d : Data) : Pen :=
  match d with
  | .scalar s => writeScalar ((outer.map (· + 2)).getD 2) false pen s
  | .list [] | .recurrence false =>
    (pen.indicator "[" true true false).indicator "]" false false false
  | .list items => writeItems (itemIndent pen) pen items
  | .map [] | .recurrence true =>
    (pen.indicator "\x7b" true true false).indicator "\x7d" false false false
  | .map entries => writeEntries ((outer.map (· + 2)).getD 0) pen entries
  | .pair first second origin =>
    let (pen, done) := writeReference pen (Referent.ofData? (.pair first second origin))
    if done then pen
    else
      let pen := pen.indicator "!!python/tuple" true false false
      let indent := itemIndent pen
      let pen := (pen.indentTo indent).indicator "-" true false true
      let pen := writeValue (some indent) false pen first
      let pen := (pen.indentTo indent).indicator "-" true false true
      writeValue (some indent) false pen second
  | .set members origin =>
    let (pen, done) := writeReference pen (Referent.ofData? (.set members origin))
    if done then pen
    else
      let pen := pen.indicator "!!set" true false false
      if members.isEmpty then
        (pen.indicator "\x7b" true true false).indicator "\x7d" false false false
      else
        let indent := (outer.map (· + 2)).getD 0
        members.foldl (fun pen key =>
          writeScalar (indent + 2) false (writeKey indent pen key) .null) pen
where
  /-- The indentation of the items of a sequence that starts here. -/
  itemIndent (pen : Pen) : Nat :=
    match outer with
    | none => 0
    | some n => if inMapping && !pen.indenting then n else n + 2

private def writeItems (indent : Nat) (pen : Pen) (items : List Data) : Pen :=
  match items with
  | [] => pen
  | item :: rest =>
    let pen := (pen.indentTo indent).indicator "-" true false true
    writeItems indent (writeValue (some indent) false pen item) rest

private def writeEntries (indent : Nat) (pen : Pen) (entries : List (Scalar × Data)) : Pen :=
  match entries with
  | [] => pen
  | (key, value) :: rest =>
    writeEntries indent (writeValue (some indent) true (writeKey indent pen key) value) rest
end

def write (d : Data) : Except Misuse String :=
  if d.isShort then
    let pen : Pen := { anchored := (References.meet {} d).repeated }
    .ok (String.ofList ((writeValue none false pen d).indentTo 0).reversed.reverse)
  else .error .wrongForm

end StoreSchema.Yaml
