import StoreSchema.Json.Reader
import StoreSchema.Text.CodePoints
import StoreSchema.Yaml.Refusal

set_option autoImplicit false

namespace StoreSchema.Yaml

/-- The rest of a text, the number of code points before it, and its line and column from zero. -/
structure Cursor where
  rest : List Char
  index : Nat := 0
  line : Nat := 0
  column : Nat := 0

/-- The line separator and the paragraph separator. -/
def isSeparator (c : Char) : Bool := c == '\u2028' || c == '\u2029'

def isBreak (c : Char) : Bool := c == '\n' || c == '\r' || c == '\u0085' || isSeparator c

def atLineEnd : Option Char → Bool
  | none => true
  | some c => isBreak c

/-- A space, or the end of a line or of the text. -/
def atSpaceOrEnd : Option Char → Bool
  | some ' ' => true
  | c => atLineEnd c

/-- A space or a tab, or the end of a line or of the text. -/
def atBlankOrEnd : Option Char → Bool
  | some '\t' => true
  | c => atSpaceOrEnd c

/-- A character of anchors, of directives and of tag handles. -/
def isNameChar (c : Char) : Bool := c.isAlphanum || c == '-' || c == '_'

namespace Cursor

def peek (c : Cursor) (n : Nat) : Option Char := c.rest[n]?

def head? (c : Cursor) : Option Char := c.rest.head?

def step (c : Cursor) : Cursor :=
  match c.rest with
  | [] => c
  | ch :: rest =>
    let ends := ch != '\r' && isBreak ch || (ch == '\r' && rest.head? != some '\n')
    if ends then ⟨rest, c.index + 1, c.line + 1, 0⟩
    else if ch == Text.Surrogate.mark then ⟨rest, c.index, c.line, c.column⟩
    else if ch == '\uFEFF' then ⟨rest, c.index + 1, c.line, c.column⟩
    else ⟨rest, c.index + 1, c.line, c.column + 1⟩

def forward (c : Cursor) : Nat → Cursor
  | 0 => c
  | n + 1 => c.step.forward n

def takeWhile (c : Cursor) (p : Char → Bool) : List Char × Cursor :=
  let taken := c.rest.takeWhile p
  (taken, c.forward taken.length)

def skipWhile (c : Cursor) (p : Char → Bool) : Cursor := (c.takeWhile p).2

def skipSpaces (c : Cursor) : Cursor := c.skipWhile (· == ' ')

/-- The cursor after at most so many spaces that a column is reached. -/
def skipSpacesTo (c : Cursor) (column : Nat) : Cursor :=
  c.forward (min (c.rest.takeWhile (· == ' ')).length (column - c.column))

/-- The end of a line, if the cursor is at one, and the cursor after it. A line end counts as a
line feed unless it is a separator. -/
def lineBreak (c : Cursor) : Option Char × Cursor :=
  match c.rest with
  | '\r' :: '\n' :: _ => (some '\n', c.forward 2)
  | ch :: _ =>
    if isSeparator ch then (some ch, c.step)
    else if isBreak ch then (some '\n', c.step)
    else (none, c)
  | [] => (none, c)

/-- The cursor is at three equal characters that stand for themselves: a document marker. -/
def atMarker (c : Cursor) (mark : Char) : Bool :=
  c.rest.take 3 == [mark, mark, mark] && atBlankOrEnd (c.peek 3)

def atAnyMarker (c : Cursor) : Bool := c.atMarker '-' || c.atMarker '.'

def mark (c : Cursor) : Mark := ⟨c.line, c.column⟩

/-- The code point some places on in quotes; the end of the text counts as a NUL. -/
def quotedHead (c : Cursor) (n : Nat) : String :=
  let point := ((Text.Surrogate.points (c.rest.drop n)).head?).getD 0
  Text.Quoted.quoted (String.ofList (Text.Surrogate.hold point))

/-- What was expected at a place and what was found there. -/
def unexpected (c : Cursor) (activity : String) (start : Mark) (expected : String)
    (ahead : Nat) : Failure :=
  .during .tokens activity start ("expected " ++ expected ++ ", but found " ++ c.quotedHead ahead)
    c.mark

def finishLine (c : Cursor) (activity : String) (start : Mark) : Except Failure Cursor :=
  let c := c.skipSpaces
  let c := if c.head? == some '#' then c.skipWhile (!isBreak ·) else c
  if atLineEnd c.head? then .ok c.lineBreak.2
  else .error (c.unexpected activity start "a comment or a line break" 0)

end Cursor

/-- The text read so far in reverse, and where reading goes on. -/
abbrev Reading := List Char × Cursor

private def push (reversed chars : List Char) : List Char := chars.reverse ++ reversed

private def folded (first : Char) (more : List Char) : List Char :=
  if first != '\n' then first :: more else if more.isEmpty then [' '] else more

/-! ### Quoted scalars -/

private def quotedFault (start : Mark) (problem : String) (c : Cursor) : Failure :=
  .during .tokens "while scanning a quoted scalar" start problem c.mark

/-- The line ends at the cursor with the blanks around them; a document marker may not follow. -/
private def quotedBreaks (start : Mark) (breaks : List Char) (c : Cursor) :
    Nat → Except Failure (List Char × Cursor)
  | 0 => .ok (breaks.reverse, c)
  | fuel + 1 =>
    if c.atAnyMarker then .error (quotedFault start "found unexpected document separator" c)
    else
      let c := c.skipWhile fun ch => ch == ' ' || ch == '\t'
      match c.lineBreak with
      | (some b, after) => quotedBreaks start (b :: breaks) after fuel
      | (none, _) => .ok (breaks.reverse, c)

private def quotedSpaces (start : Mark) (c : Cursor) (fuel : Nat) :
    Except Failure (List Char × Cursor) := do
  let (blanks, after) := c.takeWhile fun ch => ch == ' ' || ch == '\t'
  if after.rest.isEmpty then throw (quotedFault start "found unexpected end of stream" after)
  match after.lineBreak with
  | (some b, next) =>
    let (more, next) ← quotedBreaks start [] next fuel
    pure (folded b more, next)
  | (none, _) => pure (blanks, after)

private def letterEscape? : Char → Option Char
  | '0' => some '\x00'
  | 'a' => some '\x07'
  | 'b' => some '\x08'
  | 't' => some '\t'
  | '\t' => some '\t'
  | 'n' => some '\n'
  | 'v' => some '\x0b'
  | 'f' => some '\x0c'
  | 'r' => some '\r'
  | 'e' => some '\x1b'
  | ' ' => some ' '
  | '"' => some '"'
  | '\\' => some '\\'
  | '/' => some '/'
  | 'N' => some '\u0085'
  | '_' => some '\u00a0'
  | 'L' => some '\u2028'
  | 'P' => some '\u2029'
  | _ => none

private def escapeWidth? : Char → Option Nat
  | 'x' => some 2
  | 'u' => some 4
  | 'U' => some 8
  | _ => none

private def doubleQuoted : String := "while scanning a double-quoted scalar"

private def hexNumber (start : Mark) (c : Cursor) (width : Nat) : Except Failure Nat :=
  (List.range width).foldlM (fun n k =>
    match (c.peek k).bind Json.hexDigit? with
    | some d => .ok (16 * n + d)
    | none => .error (c.unexpected doubleQuoted start
        ("escape sequence of " ++ toString width ++ " hexadecimal numbers") k)) 0

private def numbered (code : Nat) : Except Failure (List Char) :=
  if 0x7FFFFFFF < code then .error (.misused .tooLarge)
  else if 0x10FFFF < code then .error (.misused .wrongForm)
  else .ok (Text.Surrogate.hold code)

private def escape (start : Mark) (c : Cursor) (fuel : Nat) :
    Except Failure (List Char × Cursor) :=
  match c.head?.bind letterEscape? with
  | some char => .ok ([char], c.step)
  | none =>
    match c.head?.bind escapeWidth? with
    | some width => do
      let code ← hexNumber start c.step width
      pure (← numbered code, c.step.forward width)
    | none =>
      match c.lineBreak with
      | (some _, after) => quotedBreaks start [] after fuel
      | (none, _) => .error (.during .tokens doubleQuoted start
          ("found unknown escape character " ++ c.quotedHead 0) c.mark)

private def quotedFrom (double : Bool) (start : Mark) (read : List Char) (c : Cursor) :
    Nat → Except Failure (String × Cursor)
  | 0 => .error (quotedFault start "found unexpected end of stream" c)
  | fuel + 1 =>
    match c.rest with
    | [] => .error (quotedFault start "found unexpected end of stream" c)
    | '\'' :: rest =>
      if double then quotedFrom double start ('\'' :: read) c.step fuel
      else if rest.head? == some '\'' then quotedFrom double start ('\'' :: read) (c.forward 2) fuel
      else .ok (String.ofList read.reverse, c.step)
    | '"' :: _ =>
      if double then .ok (String.ofList read.reverse, c.step)
      else quotedFrom double start ('"' :: read) c.step fuel
    | '\\' :: _ =>
      if double then do
        let (chars, after) ← escape start c.step fuel
        quotedFrom double start (push read chars) after fuel
      else quotedFrom double start ('\\' :: read) c.step fuel
    | ch :: _ =>
      if ch == ' ' || ch == '\t' || isBreak ch then do
        let (chars, after) ← quotedSpaces start c fuel
        quotedFrom double start (push read chars) after fuel
      else quotedFrom double start (ch :: read) c.step fuel

/-- The text of a quoted scalar that starts at the cursor. -/
def readQuoted (double : Bool) (c : Cursor) : Except Failure (String × Cursor) :=
  quotedFrom double c.mark [] c.step (c.rest.length + 1)

/-! ### Plain scalars -/

private def plainRun (inFlow : Bool) : List Char → Nat
  | [] => 0
  | ch :: rest =>
    let next := rest.head?
    let closes := fun (c : Option Char) =>
      match c with
      | some c => ",[]\x7b\x7d".toList.contains c
      | none => false
    if atBlankOrEnd (some ch) then 0
    else if ch == ':' && (atBlankOrEnd next || (inFlow && closes next)) then 0
    else if inFlow && ",?[]\x7b\x7d".toList.contains ch then 0
    else plainRun inFlow rest + 1

/-- The line ends and indentation after a first line end; none if a document marker follows one. -/
private def plainBreaks (breaks : List Char) (c : Cursor) : Nat → Option (List Char × Cursor)
  | 0 => none
  | fuel + 1 =>
    match c.rest with
    | ' ' :: _ => plainBreaks breaks c.step fuel
    | _ =>
      match c.lineBreak with
      | (some b, after) =>
        if after.atAnyMarker then none else plainBreaks (b :: breaks) after fuel
      | (none, _) => some (breaks.reverse, c)

/-- What follows a run of a plain scalar: the characters before its next run, if it may have one,
the cursor there, and whether a line end was passed. -/
private structure PlainGap where
  chars : List Char
  cursor : Cursor
  passedLine : Bool

private def plainGap (c : Cursor) (fuel : Nat) : PlainGap :=
  let (blanks, after) := c.takeWhile (· == ' ')
  match after.lineBreak with
  | (some b, next) =>
    if next.atAnyMarker then ⟨[], next, true⟩
    else match plainBreaks [] next fuel with
      | some (more, next) => ⟨folded b more, next, true⟩
      | none => ⟨[], markerAfter next fuel, true⟩
  | (none, _) => ⟨blanks, after, false⟩
where
  /-- The cursor at the document marker that ends the breaks. -/
  markerAfter (c : Cursor) : Nat → Cursor
    | 0 => c
    | fuel + 1 =>
      match c.rest with
      | ' ' :: _ => markerAfter c.step fuel
      | _ =>
        match c.lineBreak with
        | (some _, after) => if after.atAnyMarker then after else markerAfter after fuel
        | (none, _) => c

/-- The text of a plain scalar from the cursor on. The flag tells whether a simple key may follow:
it may after a line end. -/
private def plainFrom (inFlow : Bool) (indent : Int) (read gap : List Char) (simple : Bool)
    (c : Cursor) : Nat → String × Cursor × Bool
  | 0 => (String.ofList read.reverse, c, simple)
  | fuel + 1 =>
    let length := plainRun inFlow c.rest
    if c.head? == some '#' || length == 0 then (String.ofList read.reverse, c, simple)
    else
      let read := push (push read gap) (c.rest.take length)
      let next := plainGap (c.forward length) fuel
      let dedented := !inFlow && decide ((next.cursor.column : Int) < indent)
      if next.chars.isEmpty || next.cursor.head? == some '#' || dedented then
        (String.ofList read.reverse, next.cursor, next.passedLine)
      else plainFrom inFlow indent read next.chars next.passedLine next.cursor fuel

/-- The text of a plain scalar that starts at the cursor, the cursor after it, and whether a simple
key may follow. -/
def readPlain (inFlow : Bool) (indent : Int) (c : Cursor) : String × Cursor × Bool :=
  plainFrom inFlow indent [] [] false c (c.rest.length + 1)

/-! ### Literal and folded scalars -/

/-- What becomes of the line ends at the end of a block scalar. -/
inductive Chomping where
  | strip
  | clip
  | keep
deriving DecidableEq

private def chompingOf? : Option Char → Option Chomping
  | some '+' => some .keep
  | some '-' => some .strip
  | _ => none

private def blockActivity : String := "while scanning a block scalar"

/-- The indentation that a digit at the cursor asks for; zero is refused. -/
private def incrementAt (start : Mark) (c : Cursor) : Except Failure (Option Nat) :=
  match c.head? with
  | some ch =>
    if ch == '0' then
      .error (.during .tokens blockActivity start
        "expected indentation indicator in the range 1-9, but found 0" c.mark)
    else .ok (if ch.isDigit then some (ch.toNat - 48) else none)
  | none => .ok none

private def blockHeader (start : Mark) (c : Cursor) :
    Except Failure (Chomping × Option Nat × Cursor) := do
  let (chomping, increment, c) ←
    match chompingOf? c.head? with
    | some chomping =>
      let c := c.step
      match ← incrementAt start c with
      | some n => pure (chomping, some n, c.step)
      | none => pure (chomping, none, c)
    | none =>
      match ← incrementAt start c with
      | some n =>
        let c := c.step
        match chompingOf? c.head? with
        | some chomping => pure (chomping, some n, c.step)
        | none => pure (Chomping.clip, some n, c)
      | none => pure (Chomping.clip, none, c)
  if atSpaceOrEnd c.head? then pure (chomping, increment, c)
  else throw (c.unexpected blockActivity start "chomping or indentation indicators" 0)

private def blockIndentation (breaks : List Char) (widest : Nat) (c : Cursor) :
    Nat → List Char × Nat × Cursor
  | 0 => (breaks.reverse, widest, c)
  | fuel + 1 =>
    match c.rest with
    | ' ' :: _ => blockIndentation breaks (max widest c.step.column) c.step fuel
    | _ =>
      match c.lineBreak with
      | (some b, after) => blockIndentation (b :: breaks) widest after fuel
      | (none, _) => (breaks.reverse, widest, c)

private def blockBreaks (indent : Nat) (breaks : List Char) (c : Cursor) :
    Nat → List Char × Cursor
  | 0 => (breaks.reverse, c)
  | fuel + 1 =>
    let c := c.skipSpacesTo indent
    match c.lineBreak with
    | (some b, after) => blockBreaks indent (b :: breaks) after fuel
    | (none, _) => (breaks.reverse, c)

private def startsBlank (c : Cursor) : Bool :=
  c.head? == some ' ' || c.head? == some '\t'

/-- The lines of a block scalar from the cursor on; the last line end and the breaks after it. -/
private def blockLines (fold : Bool) (indent : Nat) (read breaks : List Char) (last : List Char)
    (c : Cursor) : Nat → List Char × List Char × List Char × Cursor
  | 0 => (read, last, breaks, c)
  | fuel + 1 =>
    if c.column == indent && !c.rest.isEmpty then
      let (line, after) := c.takeWhile (!isBreak ·)
      let read := push (push read breaks) line
      let (ending, after) := after.lineBreak
      let last := ending.toList
      let (more, after) := blockBreaks indent [] after fuel
      if after.column == indent && !after.rest.isEmpty then
        let joins := fold && last == ['\n'] && !startsBlank c && !startsBlank after
        let read := push read (if joins then (if more.isEmpty then [' '] else []) else last)
        blockLines fold indent read more last after fuel
      else (read, last, more, after)
    else (read, last, breaks, c)

/-- The text of a literal or folded scalar whose indicator is at the cursor, inside a block of the
given indentation. -/
def readBlock (fold : Bool) (outer : Int) (c : Cursor) : Except Failure (String × Cursor) := do
  let fuel := c.rest.length + 1
  let start := c.mark
  let (chomping, increment, c) ← blockHeader start c.step
  let c ← c.finishLine blockActivity start
  let least := max (outer + 1) 1
  let (indent, breaks, c) :=
    match increment with
    | none =>
      let (breaks, widest, c) := blockIndentation [] 0 c fuel
      (max least.toNat widest, breaks, c)
    | some n =>
      let indent := (least + n - 1).toNat
      let (breaks, c) := blockBreaks indent [] c fuel
      (indent, breaks, c)
  let (read, last, breaks, c) := blockLines fold indent [] breaks [] c fuel
  let read := if chomping == .strip then read else push read last
  let read := if chomping == .keep then push read breaks else read
  pure (String.ofList read.reverse, c)

end StoreSchema.Yaml
