import StoreSchema.Text.Encoding
import StoreSchema.Yaml.ScalarText

/-!
Tokens of a YAML text, split off one by one as they are asked for.

Indentation opens and closes blocks. Whether a scalar is a key shows only at the colon after it, so
that a token that may start a key is handed out only once this is settled, and the tokens of a key
are put in front of it when the colon is met. A key stands on one line and is at most 1024
characters long.
-/

set_option autoImplicit false

namespace StoreSchema.Yaml

/-- A tag as it is written: a handle, unless it is given in full, and the rest. -/
structure TagText where
  handle : Option String
  suffix : String

inductive Directive where
  | version (major : Nat)
  | tagHandle (handle lead : String)
  | other

private def isUriChar (c : Char) : Bool :=
  c.isAlphanum || "-;/?:@&=+$,_.!~*'()[]%".toList.contains c

private def uriBytes (activity : String) (start : Mark) (bytes : List UInt8) (c : Cursor) :
    Nat → Except Failure (List UInt8 × Cursor)
  | 0 => .ok (bytes.reverse, c)
  | fuel + 1 =>
    if c.head? == some '%' then do
      let digits := c.step
      let digit := fun (k : Nat) =>
        match (digits.peek k).bind Json.hexDigit? with
        | some d => Except.ok d
        | none => .error (digits.unexpected activity start
            "URI escape sequence of 2 hexadecimal numbers" k)
      let high ← digit 0
      let low ← digit 1
      uriBytes activity start (UInt8.ofNat (16 * high + low) :: bytes) (digits.forward 2) fuel
    else .ok (bytes.reverse, c)

/-- The rest of a tag or of the tags that a handle stands for, while `what` is being read. -/
private def uriFrom (what : String) (start : Mark) (read : List Char) (some_ : Bool) (c : Cursor) :
    Nat → Except Failure (String × Cursor)
  | 0 => .ok (String.ofList read.reverse, c)
  | fuel + 1 =>
    let activity := "while scanning a " ++ what
    match c.head? with
    | some '%' => do
      let (bytes, after) ← uriBytes activity start [] c (fuel + 1)
      match Text.Utf8.decode bytes with
      | .ok text => uriFrom what start (text.toList.reverse ++ read) true after fuel
      | .error fault => throw (.during .tokens activity start fault.message c.mark)
    | some ch =>
      if isUriChar ch then uriFrom what start (ch :: read) true c.step fuel else finish
    | none => finish
where
  /-- The rest of a tag is not empty. -/
  finish : Except Failure (String × Cursor) :=
    if some_ then .ok (String.ofList read.reverse, c)
    else .error (c.unexpected ("while parsing a " ++ what) start "URI" 0)

private def readUri (what : String) (start : Mark) (c : Cursor) :
    Except Failure (String × Cursor) :=
  uriFrom what start [] false c (c.rest.length + 1)

/-- A tag handle: one exclamation mark, or a name between two. -/
private def readHandle (what : String) (start : Mark) (c : Cursor) :
    Except Failure (String × Cursor) :=
  let missing := fun (c : Cursor) =>
    Except.error (c.unexpected ("while scanning a " ++ what) start "'!'" 0)
  match c.rest with
  | '!' :: rest =>
    if rest.head? == some ' ' then .ok ("!", c.step)
    else
      let name := rest.takeWhile isNameChar
      if (rest.drop name.length).head? == some '!' then
        .ok (String.ofList ('!' :: name ++ ['!']), c.forward (name.length + 2))
      else missing (c.forward (name.length + 1))
  | _ => missing c

def readTag (c : Cursor) : Except Failure (TagText × Cursor) := do
  let start := c.mark
  let (tag, after) ←
    match c.peek 1 with
    | some '<' => do
      let (suffix, after) ← readUri "tag" start (c.forward 2)
      if after.head? == some '>' then pure (TagText.mk none suffix, after.step)
      else throw (after.unexpected "while parsing a tag" start "'>'" 0)
    | next =>
      if atBlankOrEnd next then pure (TagText.mk none "!", c.step)
      else
        let word := c.rest.tail.takeWhile fun ch => !atSpaceOrEnd (some ch)
        let (handle, after) ←
          if word.contains '!' then readHandle "tag" start c else pure ("!", c.step)
        let (suffix, after) ← readUri "tag" start after
        pure (TagText.mk (some handle) suffix, after)
  if atSpaceOrEnd after.head? then pure (tag, after)
  else throw (after.unexpected "while scanning a tag" start "' '" 0)

private def directiveActivity : String := "while scanning a directive"

private def readNumber (start : Mark) (c : Cursor) : Except Failure (Nat × Cursor) :=
  let (digits, after) := c.takeWhile Char.isDigit
  if digits.isEmpty then .error (c.unexpected directiveActivity start "a digit" 0)
  else .ok (digits.foldl (fun n d => 10 * n + (d.toNat - 48)) 0, after)

def readDirective (c : Cursor) : Except Failure (Directive × Mark × Cursor) := do
  let start := c.mark
  let need := fun (holds : Bool) (expected : String) (c : Cursor) =>
    if holds then Except.ok () else .error (c.unexpected directiveActivity start expected 0)
  let (name, c) := c.step.takeWhile isNameChar
  need (!name.isEmpty && atSpaceOrEnd c.head?) "alphabetic or numeric character" c
  let (directive, stop, c) ←
    if name == "YAML".toList then do
      let (major, c) ← readNumber start c.skipSpaces
      need (c.head? == some '.') "a digit or '.'" c
      let (_, c) ← readNumber start c.step
      need (atSpaceOrEnd c.head?) "a digit or ' '" c
      pure (Directive.version major, c.mark, c)
    else if name == "TAG".toList then do
      let (handle, c) ← readHandle "directive" start c.skipSpaces
      need (c.head? == some ' ') "' '" c
      let (lead, c) ← readUri "directive" start c.skipSpaces
      need (atSpaceOrEnd c.head?) "' '" c
      pure (Directive.tagHandle handle lead, c.mark, c)
    else pure (Directive.other, c.mark, c.skipWhile (!isBreak ·))
  pure (directive, stop, ← c.finishLine directiveActivity start)

def readName (what : String) (c : Cursor) : Except Failure (String × Cursor) :=
  let (name, after) := c.step.takeWhile isNameChar
  let closes := match after.head? with
    | some ch => "?:,]\x7d%@\x60".toList.contains ch
    | none => false
  if name.isEmpty || !(atBlankOrEnd after.head? || closes) then
    .error (after.unexpected ("while scanning an " ++ what) c.mark
      "alphabetic or numeric character" 0)
  else .ok (String.ofList name, after)

inductive TokenForm where
  | directive (directive : Directive)
  | documentStart
  | documentEnd
  | streamEnd
  | blockSequenceStart
  | blockMappingStart
  | blockEnd
  | flowSequenceStart
  | flowSequenceEnd
  | flowMappingStart
  | flowMappingEnd
  | flowEntry
  | blockEntry
  | key
  | value
  | alias_ (name : String)
  | anchor (name : String)
  | tag (text : TagText)
  | scalar (text : String) (plain : Bool)

/-- The name of a kind of token in quotes. -/
def TokenForm.label : TokenForm → String
  | directive _ => "'<directive>'"
  | documentStart => "'<document start>'"
  | documentEnd => "'<document end>'"
  | streamEnd => "'<stream end>'"
  | blockSequenceStart => "'<block sequence start>'"
  | blockMappingStart => "'<block mapping start>'"
  | blockEnd => "'<block end>'"
  | flowSequenceStart => "'['"
  | flowSequenceEnd => "']'"
  | flowMappingStart => "'\x7b'"
  | flowMappingEnd => "'\x7d'"
  | flowEntry => "','"
  | blockEntry => "'-'"
  | key => "'?'"
  | value => "':'"
  | alias_ _ => "'<alias>'"
  | anchor _ => "'<anchor>'"
  | tag _ => "'<tag>'"
  | scalar _ _ => "'<scalar>'"

structure Token where
  form : TokenForm
  start : Mark
  stop : Mark

/-- A token that may turn out to be a key: how many tokens come before it, and where it stands. -/
structure PossibleKey where
  place : Nat
  required : Bool
  index : Nat
  mark : Mark

/-- The state of splitting a text into tokens. -/
structure Scan where
  cursor : Cursor
  /-- More steps than splitting the whole text takes. -/
  limit : Nat
  /-- The tokens that were split off and not taken yet. -/
  queue : List Token := []
  /-- The number of tokens taken. -/
  taken : Nat := 0
  /-- The end of the text has been reached. -/
  finished : Bool := false
  /-- The column of the innermost block; -1 outside of all blocks. -/
  indent : Int := -1
  /-- The columns of the outer blocks, innermost first. -/
  outer : List Int := []
  /-- The number of brackets and braces opened less that of those closed. -/
  flow : Int := 0
  /-- A key may start here. -/
  keyAllowed : Bool := true
  /-- The tokens that may turn out to be keys, by the number of brackets open at them. -/
  keys : List (Int × PossibleKey) := []

namespace Scan

/-- A step of the state that may refuse the text. -/
abbrev Step := Scan → Except Failure Scan

/-- The start of a text. A byte order mark is passed. -/
def ofText (text : String) : Scan :=
  let chars := text.toList
  let chars := if chars.head? == some '\uFEFF' then chars.tail else chars
  { cursor := { rest := chars }, limit := chars.length + 2 }

def emit (s : Scan) (form : TokenForm) (start stop : Mark) : Scan :=
  { s with queue := s.queue ++ [⟨form, start, stop⟩] }

def emitHere (s : Scan) (form : TokenForm) : Scan := s.emit form s.cursor.mark s.cursor.mark

def insert (s : Scan) (number : Nat) (form : TokenForm) (mark : Mark) : Scan :=
  let place := number - s.taken
  { s with queue := s.queue.take place ++ ⟨form, mark, mark⟩ :: s.queue.drop place }

/-- Closes the blocks whose column is beyond the given one. -/
def unwind (s : Scan) (column : Int) : Nat → Scan
  | 0 => s
  | fuel + 1 =>
    if s.flow == 0 && decide (column < s.indent) then
      let s := s.emitHere .blockEnd
      { s with indent := s.outer.headD (-1), outer := s.outer.tail }.unwind column fuel
    else s

def unwindTo (s : Scan) (column : Int) : Scan := s.unwind column (s.outer.length + 1)

/-- Opens a block at a column, unless one is open there. -/
def indentTo (s : Scan) (column : Int) : Option Scan :=
  if s.indent < column then some { s with indent := column, outer := s.indent :: s.outer }
  else none

private def missingColon (s : Scan) (k : PossibleKey) : Failure :=
  .during .tokens "while scanning a simple key" k.mark "could not find expected ':'" s.cursor.mark

/-- Forgets the possible key at the current depth; a required one has to be a key. -/
def dropKey : Step := fun s =>
  match s.keys.lookup s.flow with
  | some k =>
    if k.required then .error (s.missingColon k)
    else .ok { s with keys := s.keys.filter fun e => e.1 != s.flow }
  | none => .ok s

/-- Forgets the possible keys that are on another line or too far back. -/
def dropStale : Step := fun s =>
  let isStale := fun (k : PossibleKey) =>
    k.mark.line != s.cursor.line || decide (1024 < s.cursor.index - k.index)
  match s.keys.find? fun e => isStale e.2 && e.2.required with
  | some e => .error (s.missingColon e.2)
  | none => .ok { s with keys := s.keys.filter fun e => !isStale e.2 }

/-- Remembers the next token as a possible key, where one is allowed. -/
def saveKey : Step := fun s =>
  if s.keyAllowed then do
    let s ← dropKey s
    let c := s.cursor
    let required := s.flow == 0 && decide (s.indent = (c.column : Int))
    let key : PossibleKey := ⟨s.taken + s.queue.length, required, c.index, c.mark⟩
    pure { s with keys := (s.flow, key) :: s.keys }
  else .ok s

/-- Skips spaces, comments and line ends; a key may start after a line end outside of brackets. -/
def skipToToken (s : Scan) : Nat → Scan
  | 0 => s
  | fuel + 1 =>
    let c := s.cursor.skipSpaces
    let c := if c.head? == some '#' then c.skipWhile (!isBreak ·) else c
    match c.lineBreak with
    | (some _, after) =>
      { s with cursor := after, keyAllowed := s.keyAllowed || s.flow == 0 }.skipToToken fuel
    | (none, _) => { s with cursor := c }

/-! ### One token -/

private def indicator (form : TokenForm) (length : Nat) (keyAllowed : Bool) (s : Scan) : Scan :=
  let after := s.cursor.forward length
  { s with keyAllowed, cursor := after }.emit form s.cursor.mark after.mark

private def streamEnd : Step := fun s => do
  let s ← dropKey (s.unwindTo (-1))
  pure ({ s with keyAllowed := false, keys := [], finished := true }.emitHere .streamEnd)

private def directive : Step := fun s => do
  let s ← dropKey (s.unwindTo (-1))
  let (directive, stop, cursor) ← readDirective s.cursor
  pure ({ s with keyAllowed := false, cursor }.emit (.directive directive) s.cursor.mark stop)

private def marker (form : TokenForm) : Step := fun s => do
  pure (indicator form 3 false (← dropKey (s.unwindTo (-1))))

private def flowStart (form : TokenForm) : Step := fun s => do
  let s ← saveKey s
  pure (indicator form 1 true { s with flow := s.flow + 1 })

private def flowEnd (form : TokenForm) : Step := fun s => do
  let s ← dropKey s
  pure (indicator form 1 false { s with flow := s.flow - 1 })

private def flowEntry : Step := fun s => do
  pure (indicator .flowEntry 1 true (← dropKey { s with keyAllowed := true }))

/-- Opens a block where an indicator stands outside of brackets, if one may stand there. -/
private def openBlock (form : TokenForm) (what : String) : Step := fun s =>
  if s.flow == 0 then
    if s.keyAllowed then
      match s.indentTo s.cursor.column with
      | some opened => .ok (opened.emitHere form)
      | none => .ok s
    else .error (.alone .tokens (what ++ " are not allowed here") s.cursor.mark)
  else .ok s

private def blockEntry : Step := fun s => do
  let s ← dropKey (← openBlock .blockSequenceStart "sequence entries" s)
  pure (indicator .blockEntry 1 true s)

private def explicitKey : Step := fun s => do
  let s ← dropKey (← openBlock .blockMappingStart "mapping keys" s)
  pure (indicator .key 1 (s.flow == 0) s)

/-- A colon. The possible key at this depth turns out to be one; the tokens of a key are put in
front of it. -/
private def mappingValue : Step := fun s =>
  match s.keys.lookup s.flow with
  | some k =>
    let s := { s with keys := s.keys.filter fun e => e.1 != s.flow }.insert k.place .key k.mark
    let s :=
      if s.flow == 0 then
        match s.indentTo k.mark.column with
        | some opened => opened.insert k.place .blockMappingStart k.mark
        | none => s
      else s
    .ok (indicator .value 1 false s)
  | none => do
    let s ← dropKey (← openBlock .blockMappingStart "mapping values" s)
    pure (indicator .value 1 (s.flow == 0) s)

private def keyPart {α : Type} (read : Cursor → Except Failure (α × Cursor))
    (form : α → TokenForm) : Step := fun s => do
  let s ← saveKey s
  let (part, cursor) ← read s.cursor
  pure ({ s with keyAllowed := false, cursor }.emit (form part) s.cursor.mark cursor.mark)

private def blockScalar (fold : Bool) : Step := fun s => do
  let s ← dropKey { s with keyAllowed := true }
  let (text, cursor) ← readBlock fold s.indent s.cursor
  pure ({ s with cursor }.emit (.scalar text false) s.cursor.mark cursor.mark)

private def plainScalar : Step := fun s => do
  let s ← saveKey s
  let (text, cursor, keyAllowed) := readPlain (s.flow != 0) (s.indent + 1) s.cursor
  pure ({ s with keyAllowed, cursor }.emit (.scalar text true) s.cursor.mark cursor.mark)

private def startsPlain (s : Scan) (ch : Char) : Bool :=
  let next := s.cursor.peek 1
  !(atBlankOrEnd (some ch) || "-?:,[]\x7b\x7d#&*!|>'\"%@\x60".toList.contains ch) ||
    (!atBlankOrEnd next && (ch == '-' || (s.flow == 0 && (ch == '?' || ch == ':'))))

private def tokenAt (ch : Char) : Step := fun s =>
  let c := s.cursor
  let apart := atBlankOrEnd (c.peek 1)
  let quotedScalar := fun (double : Bool) => keyPart (readQuoted double) (.scalar · false) s
  if ch == '%' && c.column == 0 then directive s
  else if c.column == 0 && c.atMarker '-' then marker .documentStart s
  else if c.column == 0 && c.atMarker '.' then marker .documentEnd s
  else if ch == '[' then flowStart .flowSequenceStart s
  else if ch == '\x7b' then flowStart .flowMappingStart s
  else if ch == ']' then flowEnd .flowSequenceEnd s
  else if ch == '\x7d' then flowEnd .flowMappingEnd s
  else if ch == ',' then flowEntry s
  else if ch == '-' && apart then blockEntry s
  else if ch == '?' && (s.flow != 0 || apart) then explicitKey s
  else if ch == ':' && (s.flow != 0 || apart) then mappingValue s
  else if ch == '*' then keyPart (readName "alias") .alias_ s
  else if ch == '&' then keyPart (readName "anchor") .anchor s
  else if ch == '!' then keyPart readTag .tag s
  else if ch == '|' && s.flow == 0 then blockScalar false s
  else if ch == '>' && s.flow == 0 then blockScalar true s
  else if ch == '\'' then quotedScalar false
  else if ch == '"' then quotedScalar true
  else if startsPlain s ch then plainScalar s
  else .error (.at_ .tokens "while scanning for the next token"
    ("found character " ++ c.quotedHead 0 ++ " that cannot start any token") c.mark)

def fetch : Step := fun s => do
  let s ← dropStale (s.skipToToken s.limit)
  let s := s.unwindTo s.cursor.column
  match s.cursor.head? with
  | none => streamEnd s
  | some ch => tokenAt ch s

private def isOpen (s : Scan) : Bool :=
  (s.keys.map fun e => e.2.place).min? == some s.taken

private def settle : Nat → Step
  | 0, s => .ok s
  | fuel + 1, s => do
    if s.finished then pure s
    else if s.queue.isEmpty then settle fuel (← fetch s)
    else
      let s ← dropStale s
      if s.isOpen then settle fuel (← fetch s) else pure s

def next (s : Scan) : Except Failure (Token × Scan) := do
  let s ← settle s.limit s
  match s.queue with
  | token :: _ => pure (token, s)
  | [] => pure (⟨.streamEnd, s.cursor.mark, s.cursor.mark⟩, s)

def advance (s : Scan) : Scan := { s with queue := s.queue.tail, taken := s.taken + 1 }

end Scan

end StoreSchema.Yaml
