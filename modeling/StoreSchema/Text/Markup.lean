import StoreSchema.Text.Characters
import StoreSchema.Text.CodePoints
import StoreSchema.Text.Emoji
import StoreSchema.Text.LowerCase

set_option autoImplicit false

namespace StoreSchema.Text.Literal

/-- What a literal is, as far as the values around it ask. -/
inductive Kind where
  | number (imaginary signed : Bool)
  | other (canBeKey : Bool)

private def Kind.canBeKey : Kind → Bool
  | .number .. => true
  | .other canBeKey => canBeKey

private def endsLine (c : Char) : Bool := c == '\n' || c == '\r'

/-- The text after its blanks and comments; line ends are blanks only inside brackets. -/
private def skip (inside comment : Bool) : List Char → List Char
  | [] => []
  | c :: rest =>
    if endsLine c then if inside then skip inside false rest else c :: rest
    else if comment then skip inside true rest
    else if c == '#' then skip inside true rest
    else if [' ', '\t', '\x0c'].contains c then skip inside false rest
    else
      match c, rest with
      | '\\', '\n' :: after => skip inside false after
      | _, _ => c :: rest

/-! ### Numbers -/

private def isNameChar (c : Char) : Bool := c.isAlphanum || c == '_' || 128 ≤ c.toNat

private def isPlaceChar (c : Char) : Bool := c.isDigit || c == '_'

private def areDigits (isDigit : Char → Bool) (s : List Char) : Bool :=
  (s.splitOn '_').all fun run => !run.isEmpty && run.all isDigit

private def afterBased (isDigit : Char → Bool) (s : List Char) : Option (List Char) :=
  let run := s.takeWhile fun c => c.isAlphanum || c == '_'
  let digits := if run.head? == some '_' then run.drop 1 else run
  if areDigits isDigit digits then some (s.drop run.length) else none

private def afterPower (s : List Char) : Option (List Char) :=
  match s with
  | c :: rest =>
    if c == 'e' || c == 'E' then
      let digits := match rest with
        | '+' :: after | '-' :: after => after
        | _ => rest
      let run := digits.takeWhile isPlaceChar
      if areDigits Char.isDigit run then some (digits.drop run.length) else none
    else some s
  | [] => some []

private def decimal? (s : List Char) : Option (Kind × List Char) := do
  let whole := s.takeWhile isPlaceChar
  let afterWhole := s.drop whole.length
  let (fraction, afterFraction) := match afterWhole with
    | '.' :: rest => (some (rest.takeWhile isPlaceChar), rest.dropWhile isPlaceChar)
    | _ => (none, afterWhole)
  guard (whole.isEmpty || areDigits Char.isDigit whole)
  guard ((fraction.getD []).isEmpty || areDigits Char.isDigit (fraction.getD []))
  guard (!whole.isEmpty || !(fraction.getD []).isEmpty)
  let rest ← afterPower afterFraction
  let isWhole := fraction.isNone && rest.length == afterFraction.length
  let (imaginary, rest) := match rest with
    | 'j' :: after | 'J' :: after => (true, after)
    | _ => (false, rest)
  let isZero := whole.all fun c => c == '0' || c == '_'
  guard (!isWhole || imaginary || whole.head? != some '0' || isZero)
  some (.number imaginary false, rest)

/-- The kind of a number and the text after it; no name may follow it directly. -/
private def number? (s : List Char) : Option (Kind × List Char) := do
  let based := fun isDigit digits =>
    (afterBased isDigit digits).map fun rest => (Kind.number false false, rest)
  let isHex := fun (c : Char) => c.isDigit || ('a' ≤ c.toLower && c.toLower ≤ 'f')
  let (kind, rest) ← match s with
    | '0' :: 'x' :: r | '0' :: 'X' :: r => based isHex r
    | '0' :: 'o' :: r | '0' :: 'O' :: r => based (fun c => '0' ≤ c && c ≤ '7') r
    | '0' :: 'b' :: r | '0' :: 'B' :: r => based (fun c => c == '0' || c == '1') r
    | _ => decimal? s
  guard (!rest.head?.any isNameChar)
  some (kind, rest)

/-! ### Quoted texts -/

private structure Quoting where
  quote : Char
  triple : Bool
  raw : Bool
  bytes : Bool

/-- The text starts with so many hexadecimal digits, which denote no more than a limit. -/
private def startsWithHex (count limit : Nat) (s : List Char) : Bool :=
  let digits := (s.take count).map fun c =>
    let c := c.toLower
    if c.isDigit then some (c.toNat - 48)
    else if 'a' ≤ c && c ≤ 'f' then some (c.toNat - 87)
    else none
  digits.length == count && digits.all (·.isSome) &&
    digits.foldl (fun n d => 16 * n + d.getD 0) 0 ≤ limit

private def isEscape (quoting : Quoting) (c : Char) (rest : List Char) : Bool :=
  if quoting.raw then true
  else
    match c with
    | 'x' => startsWithHex 2 0xFF rest
    | 'u' => quoting.bytes || startsWithHex 4 0xFFFF rest
    | 'U' => quoting.bytes || startsWithHex 8 0x10FFFF rest
    | 'N' => quoting.bytes || (rest.head? == some '\x7b' && rest.contains '\x7d')
    | _ => true

private def afterQuoted (quoting : Quoting) : List Char → Option (List Char)
  | [] => none
  | '\\' :: c :: rest =>
    if isEscape quoting c rest && !(quoting.bytes && 128 ≤ c.toNat) then afterQuoted quoting rest
    else none
  | c :: rest =>
    if c == quoting.quote && !quoting.triple then some rest
    else if c == quoting.quote && rest.take 2 == [c, c] then some (rest.drop 2)
    else if (endsLine c && !quoting.triple) || (quoting.bytes && 128 ≤ c.toNat) then none
    else afterQuoted quoting rest

private def quoted? (s : List Char) : Option (Bool × List Char) :=
  let lead := s.takeWhile Char.isAlpha
  let style := String.ofList (lead.map Char.toLower)
  match s.drop lead.length with
  | c :: rest =>
    if (c == '"' || c == '\'') && ["", "r", "u", "b", "br", "rb"].contains style then
      let triple := rest.take 2 == [c, c]
      let quoting : Quoting :=
        { quote := c, triple, raw := style.contains 'r', bytes := style.contains 'b' }
      (afterQuoted quoting (if triple then rest.drop 2 else rest)).map (quoting.bytes, ·)
    else none
  | [] => none

/-- The text after the quoted texts that follow one of the same kind; one of another kind may not
follow it. -/
private def moreQuoted (inside bytes : Bool) (s : List Char) : Nat → Option (List Char)
  | 0 => none
  | fuel + 1 =>
    match quoted? (skip inside false s) with
    | some (more, rest) => if more == bytes then moreQuoted inside bytes rest fuel else none
    | none => some s

/-! ### Values -/

private def simple? (inside : Bool) (s : List Char) : Option (Kind × List Char) := do
  if let some (bytes, rest) := quoted? s then
    return (.other true, ← moreQuoted inside bytes rest (rest.length + 1))
  if let '.' :: '.' :: '.' :: rest := s then return (.other true, rest)
  let name := s.takeWhile isNameChar
  let rest := s.drop name.length
  if ["None", "True", "False"].contains (String.ofList name) then return (.other true, rest)
  if String.ofList name == "set" then
    let '(' :: inner := skip inside false rest | failure
    let ')' :: after := skip true false inner | failure
    return (.other false, after)
  number? s

mutual

private def value? (inside : Bool) (s : List Char) : Nat → Option (Kind × List Char)
  | 0 => none
  | fuel + 1 =>
    match s with
    | '(' :: rest => do
      let (kinds, comma, after) ← members? ')' (some false) rest fuel
      match kinds, comma with
      | [kind], false => some (kind, after)
      | _, _ => some (.other (kinds.all Kind.canBeKey), after)
    | '[' :: rest => do
      let (_, _, after) ← members? ']' (some false) rest fuel
      some (.other false, after)
    | '\x7b' :: rest => do
      let (kinds, _, after) ← members? '\x7d' none rest fuel
      guard (kinds.all Kind.canBeKey)
      some (.other false, after)
    | _ => simple? inside s

/-- The kind of a value, which may be a signed number or the sum of a real and an imaginary one, and
the text after it. -/
private def expression? (inside : Bool) (s : List Char) : Nat → Option (Kind × List Char)
  | 0 => none
  | fuel + 1 => do
    let s := skip inside false s
    let isSign := fun (s : List Char) => s.head?.any fun c => c == '+' || c == '-'
    let (kind, rest) ← if isSign s then do
        let (kind, rest) ← value? inside (skip inside false (s.drop 1)) fuel
        let .number imaginary false := kind | failure
        some (Kind.number imaginary true, rest)
      else value? inside s fuel
    let rest := skip inside false rest
    if isSign rest then
      let .number false _ := kind | failure
      let (addend, after) ← value? inside (skip inside false (rest.drop 1)) fuel
      let .number true false := addend | failure
      some (.other true, skip inside false after)
    else some (kind, rest)

/-- The kinds of the members up to a closing bracket, whether a comma stands among them, and the
text after the bracket. Either all members have a colon and a value after them or none has; the
first decides where both are possible. -/
private def members? (close : Char) (paired : Option Bool) (s : List Char) :
    Nat → Option (List Kind × Bool × List Char)
  | 0 => none
  | fuel + 1 => do
    let s := skip true false s
    if s.head? == some close then return ([], false, s.drop 1)
    let (kind, afterKind) ← expression? true s fuel
    let hasValue := afterKind.head? == some ':'
    guard (paired.getD hasValue == hasValue)
    let after ← if hasValue then (expression? true (afterKind.drop 1) fuel).map Prod.snd
      else some afterKind
    if after.head? == some ',' then
      let (kinds, _, rest) ← members? close (some hasValue) (after.drop 1) fuel
      some (kind :: kinds, true, rest)
    else if after.head? == some close then some ([kind], false, after.drop 1)
    else failure

end

private def isRow (fuel : Nat) (s : List Char) : Nat → Bool
  | 0 => false
  | count + 1 =>
    match expression? false s fuel with
    | some (_, ',' :: rest) => (skip true false rest).isEmpty || isRow fuel rest count
    | some (_, rest) => (skip true false rest).isEmpty
    | none => false

def isLiteral (s : List Char) : Bool :=
  !s.contains '\x00' && !(Surrogate.points s).any Surrogate.isLone &&
    isRow (4 * s.length + 4) (skip true false s) (s.length + 1)

end StoreSchema.Text.Literal

namespace StoreSchema.Text

namespace Style

inductive Cause where
  /-- A word that is none of a style, or one that another word should follow. -/
  | unknown
  /-- A colour that lacks one of its three numbers. -/
  | colourNumber
deriving DecidableEq

private def splitWords (s : String) : List String :=
  ((s.toList.splitOnP Blank.isBlank).filter (!·.isEmpty)).map String.ofList

private def attributeNames : List String :=
  ["bold", "dim", "italic", "underline", "blink", "blink2", "reverse", "conceal", "strike",
    "underline2", "frame", "encircle", "overline"]

private def shortNames : List (String × String) :=
  [("b", "bold"), ("d", "dim"), ("i", "italic"), ("u", "underline"), ("r", "reverse"),
    ("c", "conceal"), ("s", "strike"), ("uu", "underline2"), ("o", "overline")]

private def attribute? (word : String) : Option String :=
  if attributeNames.contains word then some word else shortNames.lookup word

private def colourNames : List String := splitWords "
  default black red green yellow blue magenta cyan white bright_black bright_red bright_green
  bright_yellow bright_blue bright_magenta bright_cyan bright_white grey0 gray0 navy_blue
  dark_blue blue3 blue1 dark_green deep_sky_blue4 dodger_blue3 dodger_blue2 green4 spring_green4
  turquoise4 deep_sky_blue3 dodger_blue1 green3 spring_green3 dark_cyan light_sea_green
  deep_sky_blue2 deep_sky_blue1 spring_green2 cyan3 dark_turquoise turquoise2 green1 spring_green1
  medium_spring_green cyan2 cyan1 dark_red deep_pink4 purple4 purple3 blue_violet orange4 grey37
  gray37 medium_purple4 slate_blue3 royal_blue1 chartreuse4 dark_sea_green4 pale_turquoise4
  steel_blue steel_blue3 cornflower_blue chartreuse3 cadet_blue sky_blue3 steel_blue1 pale_green3
  sea_green3 aquamarine3 medium_turquoise chartreuse2 sea_green2 sea_green1 aquamarine1
  dark_slate_gray2 dark_magenta dark_violet purple light_pink4 plum4 medium_purple3 slate_blue1
  yellow4 wheat4 grey53 gray53 light_slate_grey light_slate_gray medium_purple light_slate_blue
  dark_olive_green3 dark_sea_green light_sky_blue3 sky_blue2 dark_sea_green3 dark_slate_gray3
  sky_blue1 chartreuse1 light_green pale_green1 dark_slate_gray1 red3 medium_violet_red magenta3
  dark_orange3 indian_red hot_pink3 medium_orchid3 medium_orchid medium_purple2 dark_goldenrod
  light_salmon3 rosy_brown grey63 gray63 medium_purple1 gold3 dark_khaki navajo_white3 grey69
  gray69 light_steel_blue3 light_steel_blue yellow3 dark_sea_green2 light_cyan3 light_sky_blue1
  green_yellow dark_olive_green2 dark_sea_green1 pale_turquoise1 deep_pink3 magenta2 hot_pink2
  orchid medium_orchid1 orange3 light_pink3 pink3 plum3 violet light_goldenrod3 tan misty_rose3
  thistle3 plum2 khaki3 light_goldenrod2 light_yellow3 grey84 gray84 light_steel_blue1 yellow2
  dark_olive_green1 honeydew2 light_cyan1 red1 deep_pink2 deep_pink1 magenta1 orange_red1
  indian_red1 hot_pink dark_orange salmon1 light_coral pale_violet_red1 orchid2 orchid1 orange1
  sandy_brown light_salmon1 light_pink1 pink1 plum1 gold1 navajo_white1 misty_rose1 thistle1
  yellow1 light_goldenrod1 khaki1 wheat1 cornsilk1 grey100 gray100 grey3 gray3 grey7 gray7 grey11
  gray11 grey15 gray15 grey19 gray19 grey23 gray23 grey27 gray27 grey30 gray30 grey35 gray35
  grey39 gray39 grey42 gray42 grey46 gray46 grey50 gray50 grey54 gray54 grey58 gray58 grey62
  gray62 grey66 gray66 grey70 gray70 grey74 gray74 grey78 gray78 grey82 gray82 grey85 gray85
  grey89 gray89 grey93 gray93
"

private def inside? (start : String) (word : String) : Option (List Char) :=
  let body := word.toList.drop start.length
  if start.toList.isPrefixOf word.toList && body.getLast? == some ')' then some body.dropLast
  else none

private def number? (s : List Char) : Option Nat :=
  if s.isEmpty then none
  else (s.mapM DecimalDigit.value?).map fun digits => digits.foldl (fun n d => 10 * n + d) 0

/-- The three parts of a colour between commas: numbers of any script's digits, below 256. -/
private def checkParts (body : List Char) : Except Cause Unit :=
  if body.isEmpty || !body.all fun c => c == ',' || (DecimalDigit.value? c).isSome then
    throw .unknown
  else
    match body.splitOn ',' with
    | [red, green, blue] =>
      match number? red, number? green, number? blue with
      | some red, some green, some blue =>
        if red ≤ 255 && green ≤ 255 && blue ≤ 255 then pure () else throw .unknown
      | _, _, _ => throw .colourNumber
    | _ => throw .unknown

private def isSmallHex (c : Char) : Bool :=
  c.isDigit || ('a' ≤ c && c ≤ 'f')

/-- The colour that a word names, in small letters: a known name, six hexadecimal digits after a
hash, a number below 256, or three of them. -/
def readColour (word : String) : Except Cause String := do
  let word := LowerCase.lower word
  if colourNames.contains word then return word
  if let '#' :: digits := word.toList then
    if digits.length = 6 && digits.all isSmallHex then return word
  if let some body := inside? "color(" word then
    if body.length ≤ 3 && body.all Char.isDigit && (number? body).any (· ≤ 255) then return word
  if let some body := inside? "rgb(" word then
    checkParts body
    return word
  throw .unknown

end Style

/-- What a definition says. -/
structure Style where
  /-- The attributes that are on or off, the last said first. -/
  attributes : List (String × Bool) := []
  colour : Option String := none
  background : Option String := none
  link : Option String := none

namespace Style

private def readWords (style : Style) : List String → Except Cause Style
  | [] => pure style
  | word :: rest =>
    match LowerCase.lower word, rest with
    | "on", name :: rest => do readWords { style with background := some (← readColour name) } rest
    | "not", name :: rest =>
      match attribute? name with
      | some name => readWords { style with attributes := (name, false) :: style.attributes } rest
      | none => throw .unknown
    | "link", address :: rest => readWords { style with link := some address } rest
    | "on", [] | "not", [] | "link", [] => throw .unknown
    | small, rest =>
      match attribute? small with
      | some name => readWords { style with attributes := (name, true) :: style.attributes } rest
      | none => do readWords { style with colour := some (← readColour small) } rest

def read (s : String) : Except Cause Style :=
  if Blank.trim Blank.isBlank s == "none" then pure {} else readWords {} (splitWords s)

def text (style : Style) : String :=
  let attributes := attributeNames.filterMap fun name =>
    (style.attributes.lookup name).map fun on => if on then name else "not " ++ name
  let colours := style.colour.toList ++ style.background.toList.map ("on " ++ ·)
  let words := attributes ++ colours ++ style.link.toList.map ("link " ++ ·)
  if words.isEmpty then "none" else " ".intercalate words

/-- The normal form of a definition; that of a text that defines no style is the text in small
letters. -/
def normalForm (s : String) : Except Cause String :=
  match read s with
  | .ok style => pure style.text
  | .error .unknown => pure (LowerCase.lower (Blank.trim Blank.isBlank s))
  | .error .colourNumber => throw .colourNumber

end Style

end StoreSchema.Text

namespace StoreSchema.Text.Markup

inductive Cause where
  | closesNothing
  /-- The parameters of an action are no literal. -/
  | parametersUnreadable
  | colourUnreadable
deriving DecidableEq

/-- A mark: its name, and what stands after an equals sign. -/
structure Mark where
  name : String
  parameters : Option String

/-- A part of a marked text. -/
inductive Piece where
  | plain (text : List Char)
  | opening (mark : Mark)
  /-- A closing mark; without a name it closes the last open mark. -/
  | closing (name : String)

private def startsMark (c : Char) : Bool :=
  ('a' ≤ c && c ≤ 'z') || c == '#' || c == '/' || c == '@'

/-- What stands in the brackets that a text starts with, if that is a mark, and the rest. -/
private def mark? : List Char → Option (List Char × List Char)
  | '[' :: c :: rest =>
    let inner := rest.takeWhile fun c => c != '[' && c != ']'
    match startsMark c, rest.drop inner.length with
    | true, ']' :: after => some (c :: inner, after)
    | _, _ => none
  | _ => none

private def ofInner (inner : List Char) : Piece :=
  let name := inner.takeWhile (· != '=')
  match name with
  | '/' :: name => .closing (Blank.trim Blank.isBlank (String.ofList name))
  | _ =>
    let parameters := match inner.drop name.length with
      | _ :: rest => some (String.ofList rest)
      | [] => none
    .opening { name := String.ofList name, parameters }

private def unescape : List Char → List Char
  | '\\' :: '[' :: rest => '[' :: unescape rest
  | c :: rest => c :: unescape rest
  | [] => []

/-- The parts of a text after the plain characters `seen`, last first. Of two backslashes before a
mark one stays; an odd one makes the mark plain. -/
private def piecesFrom (seen s : List Char) : Nat → List Piece
  | 0 => [.plain (unescape (seen.reverse ++ s))]
  | fuel + 1 =>
    let slashes := s.takeWhile (· == '\\')
    let after := s.drop slashes.length
    match mark? after, after with
    | some (inner, rest), _ =>
      let mark := if slashes.length % 2 = 1 then Piece.plain ('[' :: inner ++ [']'])
        else ofInner inner
      .plain (unescape seen.reverse) :: .plain (slashes.take (slashes.length / 2)) :: mark ::
        piecesFrom [] rest fuel
    | none, [] => [.plain (unescape (seen.reverse ++ slashes))]
    | none, c :: rest => piecesFrom (c :: (slashes ++ seen)) rest fuel

def pieces (s : String) : List Piece :=
  piecesFrom [] s.toList (s.length + 1)

namespace Mark

/-- The mark starts an action instead of a style. -/
def isAction (mark : Mark) : Bool := mark.name.startsWith "@"

def definition (mark : Mark) : String :=
  match mark.parameters with
  | none => mark.name
  | some parameters => mark.name ++ " " ++ parameters

/-- The literal that the parameters of an action are to hold: what stands in parentheses after a
name, or all of it if that is not its form. A name alone takes none. -/
private def argument? (parameters : List Char) : Option (List Char) :=
  match parameters.dropWhile fun c => WordCharacter.isWord c || c == '.' with
  | [] => none
  | rest =>
    if rest.length ≥ 2 && rest.head? == some '(' && rest.getLast? == some ')' &&
        !rest.contains '\n' then some rest
    else some parameters

/-- The parameters of an action can be read. -/
def isReadable (mark : Mark) : Bool :=
  match mark.parameters with
  | none | some "" => true
  | some parameters =>
    (argument? (Blank.trim Blank.isBlank parameters).toList).all Literal.isLiteral

end Mark

private def normalName (name : String) : Except Cause String :=
  (Style.normalForm name).mapError fun _ => .colourUnreadable

/-- The open marks without the one of a name, or without the last if no name is given; and that
mark. -/
private def close (name : String) (open_ : List Mark) : Except Cause (Mark × List Mark) := do
  let found ← if name == "" then pure open_.head?
    else do
      let name ← normalName name
      pure (open_.find? (·.name == name))
  match found with
  | some mark => pure (mark, open_.eraseP (·.name == mark.name))
  | none => throw .closesNothing

/-- The plain text of the pieces and the definitions of the styles in it, given the open marks, last
first. -/
private def showPieces (open_ : List Mark) :
    List Piece → Except Cause (List Char × List String)
  | [] => pure ([], open_.map Mark.definition)
  | .plain text :: rest => do
    let (shown, styles) ← showPieces open_ rest
    pure (Emoji.replace text ++ shown, styles)
  | .opening mark :: rest => do
    let mark := { mark with name := ← normalName mark.name }
    showPieces (mark :: open_) rest
  | .closing name :: rest => do
    let (mark, open_) ← close name open_
    if mark.isAction then
      if mark.isReadable then showPieces open_ rest else throw .parametersUnreadable
    else
      let (shown, styles) ← showPieces open_ rest
      pure (shown, mark.definition :: styles)

/-- The text as it is shown without a screen to style. -/
def plain (s : String) : Except Cause String := do
  let (shown, styles) ← showPieces [] (pieces s)
  if styles.any fun style => Style.read style matches .error .colourNumber then
    throw .colourUnreadable
  pure (String.ofList shown)

end StoreSchema.Text.Markup
