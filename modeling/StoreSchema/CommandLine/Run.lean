import StoreSchema.Files.Documents
import StoreSchema.Session
import StoreSchema.Text.LineBreak
import StoreSchema.Text.Markup

set_option autoImplicit false

namespace StoreSchema.CommandLine

/-- An option: its long name, its short name if it has one, and whether a value follows. -/
structure OptionForm where
  long : String
  short : Option Char := none
  takesValue : Bool := true

structure CommandForm where
  options : List OptionForm
  /-- The number of words besides the options; none if the first of them ends the options. -/
  operands : Option Nat

/-- The words of a command line, told apart. -/
structure Arguments where
  /-- The options by their long names, in order, each with its value. -/
  values : List (String × String) := []
  operands : List String := []
deriving Inhabited

namespace Arguments

def value? (arguments : Arguments) (long : String) : Option String :=
  arguments.values.reverse.lookup long

private structure Reading where
  read : Arguments := {}
  /-- The option that the next word is the value of. -/
  awaiting : Option String := none
  /-- No more options are expected. -/
  closed : Bool := false

private def Reading.setting (reading : Reading) (long value : String) : Reading :=
  { reading with
    read := { reading.read with values := reading.read.values ++ [(long, value)] }
    awaiting := none }

private def Reading.operand (reading : Reading) (closes : Bool) (word : String) : Reading :=
  { reading with
    read := { reading.read with operands := reading.read.operands ++ [word] }
    closed := reading.closed || closes }

private def Reading.long? (form : CommandForm) (reading : Reading) (word : String) :
    Option Reading := do
  let chars := word.toList
  let name := chars.takeWhile (· != '=')
  let option ← form.options.find? fun option => option.long == String.ofList name
  match chars.drop name.length, option.takesValue with
  | _ :: value, true => some (reading.setting option.long (String.ofList value))
  | _ :: _, false => none
  | [], true => some { reading with awaiting := some option.long }
  | [], false => some (reading.setting option.long "")

private def Reading.short? (form : CommandForm) (reading : Reading) (letter : Char)
    (value : List Char) : Option Reading := do
  let option ← form.options.find? fun option => option.short == some letter
  if value.isEmpty then some { reading with awaiting := some option.long }
  else some (reading.setting option.long (String.ofList value))

/-- One more word; none if it is an option that the command does not take. -/
private def Reading.word? (form : CommandForm) (reading : Reading) (word : String) :
    Option Reading :=
  match reading.awaiting with
  | some long => some (reading.setting long word)
  | none =>
    if reading.closed then some (reading.operand false word)
    else match word.toList with
      | ['-', '-'] => some { reading with closed := true }
      | '-' :: '-' :: _ => reading.long? form word
      | '-' :: letter :: value => reading.short? form letter value
      | _ => some (reading.operand form.operands.isNone word)

/-- The words of a command, told apart; none if they do not have the form that it takes. -/
def read? (form : CommandForm) (words : List String) : Option Arguments := do
  let reading ← words.foldlM (Reading.word? form) {}
  if reading.awaiting.isSome then none else some reading.read

end Arguments

end StoreSchema.CommandLine

namespace StoreSchema.Screen

open StoreSchema.Text

def width : Nat := 5000

/-- A control that is never printed: bell, backspace, line tabulation, form feed, carriage
return. -/
private def isDropped (c : Char) : Bool :=
  [7, 8, 11, 12, 13].contains c.toNat

def plain (marked : String) : Except Markup.Cause String :=
  (Markup.plain marked).map fun s => String.ofList (s.toList.filter fun c => !isDropped c)

def lines (marked : String) : Except Markup.Cause (List String) :=
  (plain marked).map (LineBreak.lines width .fold)

private def blanks (n : Nat) : String := String.ofList (List.replicate n ' ')

private def padded (width : Nat) (s : String) : String :=
  s ++ blanks (width - DisplayWidth.ofString s)

private def centred (width : Nat) (s : String) : String :=
  let spare := width - DisplayWidth.ofString s
  blanks (spare / 2) ++ s ++ blanks (spare - spare / 2)

structure Column where
  head : String
  cells : List String

structure Table where
  title : String
  columns : List Column

private def endsLine (c : Char) : Bool :=
  [10, 28, 29, 30, 133, 8232, 8233].contains c.toNat

private def cellWidth (cell : String) : Nat :=
  ((cell.toList.splitOnP endsLine).map DisplayWidth.ofChars).foldl max 0

namespace Column

/-- The width that the head and the cells ask for, with a blank on each side. -/
def naturalWidth (column : Column) : Nat :=
  (column.cells.map cellWidth).foldl max (cellWidth column.head) + 2

end Column

/-! ### Widths -/

/-- A quotient, rounded to the nearest whole number, and from the middle to the even one. -/
def roundedQuotient (n d : Nat) : Nat :=
  let q := n / d
  let r := n % d
  if 2 * r < d || (2 * r == d && q % 2 == 0) then q else q + 1

/-- Takes an excess from those of the widths that are as wide as the widest, in equal shares, but no
more than a limit from each; `sharers` counts them. -/
private def narrow (widest limit : Nat) : Nat → Nat → List Nat → List Nat
  | _, _, [] => []
  | excess, sharers, w :: rest =>
    if w = widest then
      let share := min limit (roundedQuotient excess sharers)
      (w - share) :: narrow widest limit (excess - share) (sharers - 1) rest
    else w :: narrow widest limit excess sharers rest

private def total (widths : List Nat) : Nat := widths.foldl (· + ·) 0

/-- The widths after the widest have given way until their sum is no more than a limit. -/
private def fitted (limit : Nat) (widths : List Nat) : Nat → List Nat
  | 0 => widths
  | fuel + 1 =>
    let excess := total widths - limit
    let widest := widths.foldl max 0
    let second := (widths.filter (· != widest)).foldl max 0
    if excess = 0 || widest = second then widths
    else
      let most := min excess (widest - second)
      fitted limit (narrow widest most excess (widths.count widest) widths) fuel

namespace Table

/-- The width of each column; the walls between and beside them take one each. -/
def widths (table : Table) : List Nat :=
  let natural := table.columns.map Column.naturalWidth
  let limit := width - (natural.length + 1)
  fitted limit (natural.map (min limit)) (total natural)

private def rule (widths : List Nat) (left line crossing right : String) : String :=
  left ++ crossing.intercalate (widths.map fun w => "".intercalate (List.replicate w line)) ++ right

private def rowLines (widths : List Nat) (wall : String) (cells : List String) : List String :=
  let columns := List.zipWith (fun w cell => LineBreak.lines (w - 2) .ellipsis cell) widths cells
  let height := (columns.map List.length).foldl max 1
  (List.range height).map fun n =>
    let parts := List.zipWith (fun w lines => " " ++ padded (w - 2) (lines.getD n "") ++ " ") widths
      columns
    wall ++ wall.intercalate parts ++ wall

private def height (table : Table) : Nat :=
  (table.columns.map fun column => column.cells.length).foldl max 0

def lines (table : Table) : List String :=
  let widths := table.widths
  let total := total widths + widths.length + 1
  let rows := (List.range table.height).map fun n =>
    table.columns.map fun column => column.cells.getD n ""
  centred total table.title :: rule widths "┏" "━" "┳" "┓" ::
    rowLines widths "┃" (table.columns.map Column.head) ++ [rule widths "┡" "━" "╇" "┩"] ++
    rows.flatMap (rowLines widths "│") ++ [rule widths "└" "─" "┴" "┘"]

end Table

end StoreSchema.Screen

namespace StoreSchema.CommandLine

/-- Why a run ends early. -/
inductive Stop where
  | exit (code : Nat)
  | fault (fault : Fault)

/-- The files of a run and what it has printed. -/
structure Run where
  library : ValidatorLibrary := {}
  printed : List String := []
deriving Inhabited

abbrev Step := ExceptT Stop (StateM Run)

namespace Run

def text (run : Run) : String := "".intercalate run.printed.reverse

end Run

namespace Step

variable {α : Type}

def line (s : String) : Step Unit :=
  if Text.Surrogate.occursIn s then throw (.fault .unprintable)
  else modify fun run => { run with printed := (s ++ "\n") :: run.printed }

/-- What a text with style marks comes to; a fault of the marks ends the run. -/
def shown {β : Type} : Except Text.Markup.Cause β → Step β
  | .ok value => pure value
  | .error cause => throw (.fault (.mark cause))

def say (marked : String) : Step Unit := do
  line ("\n".intercalate (← shown (Screen.lines marked)))

/-- Ends the run because the command line has the wrong form. -/
def refuse : Step α := throw (.exit 2)

/-- The value of an outcome; a fault ends the run. -/
def ofExcept : Except Fault α → Step α
  | .ok value => pure value
  | .error fault => throw (.fault fault)

/-- The value of an outcome; a fault of the document is printed with its reason. -/
def compiled : Except Fault α → Step α
  | .ok value => pure value
  | .error fault =>
    if fault.isReported then do
      say ("[red]Compilation failed:[/red] " ++ fault.message)
      throw (.exit 1)
    else throw (.fault fault)

def tree : Step FileTree := do pure (← get).library.tree

def change (step : FileTree.Change Unit) : Step Unit := do
  let (outcome, tree) := step.run.run (← Step.tree)
  modify fun run => { run with library := { run.library with tree } }
  ofExcept outcome

def json (layout : Json.Layout) (d : Data) : Step String :=
  ofExcept ((Json.write layout d).mapError .misuse)

def render (value : Value) : Step Data :=
  if value.isEndless then throw (.fault .endless) else pure value.toData

end Step

/-! ### Forms -/

private def helpOption : OptionForm := { long := "--help", takesValue := false }

private def extraOption : OptionForm := { long := "--extra", short := some 'e' }

/-- What stands before the name of a command. -/
def leadForm : CommandForm where
  options := [{ long := "--version", takesValue := false }, helpOption,
    { long := "--config", short := some 'c' }, { long := "--log-level" }]
  operands := none

/-- The commands by name, each with the words it takes. -/
def commandForms : List (String × CommandForm) :=
  [("compile", {
      options := [helpOption, extraOption, { long := "--format", short := some 'f' },
        { long := "--output", short := some 'o' }]
      operands := some 1 }),
    ("inspect", { options := [helpOption, extraOption], operands := some 2 }),
    ("init-config", {
      options := [helpOption, { long := "--path", short := some 'p' }]
      operands := some 0 })]

def usage : String := "Usage: swagger-odm [OPTIONS] COMMAND [ARGS]..."

def versionLine : String := "swagger-odm, version 0.1.0"

/-! ### Commands -/

/-- A path on the command line has to be one, and to lead to a file or directory if that is asked
for. -/
private def checkPath (mustExist : Bool) (word : String) : Step Unit := do
  match (← Step.tree).reach word with
  | .ok _ => pure ()
  | .error .nullCharacter => throw (.fault (.file .nullCharacter))
  | .error .loneSurrogate => throw (.fault (.file .loneSurrogate))
  | .error _ => if mustExist then Step.refuse

private def checkWord (known : List String) (word : String) : Step Unit :=
  if known.contains word then pure () else Step.refuse

private def optionChecks : List (String × (String → Step Unit)) :=
  [("--config", checkPath true), ("--log-level", checkWord (LogLevel.all.map LogLevel.word)),
    ("--extra", checkPath true), ("--format", checkWord ["table", "json"]),
    ("--output", checkPath false), ("--path", checkPath false)]

private def checkOptions (arguments : Arguments) : Step Unit :=
  (arguments.values.map Prod.fst).eraseDups.forM fun long =>
    match optionChecks.lookup long, arguments.value? long with
    | some check, some value => check value
    | _, _ => pure ()

private def inputs (tree : FileTree) (document : String) (extra : Option String) :
    Except Fault (Source × Source) := do
  let load := fun (path : String) (role : Role) => do
    let loaded ← tree.loadDocument (Path.ofString path) role
    pure (Source.file loaded.data loaded.sharing)
  let source ← load document .document
  match extra with
  | some path => pure (source, ← load path .extra)
  | none => pure (source, .absent)

/-- The session of a command; validator modules are found from the directory of the document,
unless the settings name another. -/
private def sessionFor (settings : Settings) (library : ValidatorLibrary) (document : String) :
    Session :=
  let directory := (library.tree.resolve (Path.ofString document)).dropLast
  let base := settings.compiler.validatorsBaseDir.getD (ValidatorLibrary.placeText directory)
  { settings := { settings with
      compiler := { settings.compiler with validatorsBaseDir := some base } }
    library }

private def names (ns : List Scalar) : Step String := do
  let texts ← ns.mapM fun n =>
    match n with
    | .text s => pure s
    | _ => throw (.fault (.misuse .wrongKind))
  pure (", ".intercalate texts)

/-- An index in a cell of the table: its fields, and a word if they are unique. -/
private def indexCell (index : Index) : Step String := do
  let fields ← Step.json .oneLine (Value.map index.fields).toData
  pure (fields ++ if index.unique then " unique" else "")

private def schemaRow (schema : Schema) : Step (List String) := do
  let indexes ← schema.indexes.mapM indexCell
  let fields ← names schema.fieldNames
  let options ← if schema.options.isEmpty then pure ""
    else Step.json .oneLine (← Step.render (.map schema.options))
  pure [schema.name, fields, options, ", ".intercalate indexes]

private def tableHeads : List String := ["Schema", "Fields", "Options", "Indexes"]

private def showTable (schemas : List Schema) : Step Unit := do
  let rows ← schemas.mapM schemaRow
  let columns ← tableHeads.zipIdx.mapM fun (head, n) => do
    let cells ← rows.mapM fun row => Step.shown (Screen.plain (row.getD n ""))
    pure { head, cells : Screen.Column }
  Step.line ("\n".intercalate (Screen.Table.lines { title := "Compiled Schemas", columns }))

def compile (settings : Settings) (arguments : Arguments) (document : String) : Step Unit := do
  let library := (← get).library
  let outcome : Except Fault CompilationResult := do
    let (source, extra) ← inputs library.tree document (arguments.value? "--extra")
    ((sessionFor settings library document).compile source extra).1
  let result ← Step.compiled outcome
  let output := (arguments.value? "--output").getD ""
  if output != "" then
    Step.change (FileTree.saveSchemas (Path.ofString output) result.schemas)
    Step.say ("[green]Wrote " ++ toString result.schemas.length ++ " schemas to " ++ output ++
      "[/green]")
  if arguments.value? "--format" == some "json" then
    let entries ← result.schemas.mapM fun e => do
      pure (e.1, ← Step.render (.map e.2.definition))
    Step.line (← Step.json .indented (.map entries))
  else if result.schemas.isEmpty then
    Step.say "[yellow]No schemas compiled[/yellow]"
  else
    showTable (result.schemas.map Prod.snd)
    Step.say ("[green]Registered models:[/green] " ++ (← names (result.models.map Prod.fst)))

def inspect (settings : Settings) (arguments : Arguments) (document definition : String) :
    Step Unit := do
  let library := (← get).library
  let outcome : Except Fault (List Compiled) := do
    let (source, extra) ← inputs library.tree document (arguments.value? "--extra")
    (((sessionFor settings library document).compileDefinitions source extra).run.run []).1
  let found ← Step.compiled outcome
  match found.find? fun c => c.name == .text definition with
  | none =>
    Step.say ("[red]Definition not compiled: " ++ definition ++ "[/red]")
    throw (.exit 1)
  | some c =>
    Step.say ("[bold]Definition: " ++ definition ++ "[/bold]")
    let options ← Step.render (.map (Value.ofEntries c.options))
    Step.say ("  Options: " ++ (← Step.json .oneLine options))
    if let some index := c.index then
      Step.say ("  Index: " ++ (Value.map index.fields).quoted ++ " (unique=" ++
        (Scalar.bool index.unique).shown ++ ")")
    Step.say (← Step.json .indented (← Step.render c.properties))

def initConfig (environment : List (String × String)) (arguments : Arguments) : Step Unit := do
  let path := Path.ofString ((arguments.value? "--path").getD "swagger-odm.yaml")
  let tree ← Step.tree
  let settings ← Step.ofExcept (tree.loadSettings "" environment)
  Step.change (FileTree.saveSettings path settings)
  Step.say ("[green]Configuration written to " ++ path.toString ++ "[/green]")

private def command (environment : List (String × String)) (settings : Settings)
    (name : String) (arguments : Arguments) : Step Unit := do
  checkOptions arguments
  match name, arguments.operands with
  | "compile", document :: more => do
    checkPath true document
    if more.isEmpty then compile settings arguments document else Step.refuse
  | "inspect", document :: more => do
    checkPath true document
    match more with
    | [definition] => inspect settings arguments document definition
    | _ => Step.refuse
  | "init-config", [] => initConfig environment arguments
  | _, _ => Step.refuse

/-- Answers the options that only ask something; true if one of them was given. -/
private def answersQuestion (arguments : Arguments) : Step Bool := do
  match arguments.values.find? fun v => v.1 == "--version" || v.1 == "--help" with
  | some (name, _) =>
    Step.line (if name == "--version" then versionLine else usage)
    pure true
  | none => pure false

def run (environment : List (String × String)) (words : List String) : Step Unit := do
  let some arguments := Arguments.read? leadForm words | Step.refuse
  if ← answersQuestion arguments then return
  checkOptions arguments
  let config := (arguments.value? "--config").getD ""
  match arguments.operands with
  | [] => Step.refuse
  | name :: rest =>
    match commandForms.lookup name with
    | none =>
      if let some arguments := Arguments.read? leadForm (name :: rest) then
        if ← answersQuestion arguments then return
      Step.refuse
    | some form =>
      let settings ← Step.ofExcept ((← Step.tree).loadSettings config environment)
      let some arguments := Arguments.read? form rest | Step.refuse
      if ← answersQuestion arguments then return
      command environment settings name arguments

/-- How a run ends: its exit code, and the fault that it ends in if it is not a reported one. -/
structure Outcome where
  exitCode : Nat
  fault : Option Fault
  printed : String
  library : ValidatorLibrary

/-- Runs a command line from its start to its end. -/
def outcome (library : ValidatorLibrary) (environment : List (String × String))
    (words : List String) : Outcome :=
  let (result, after) := (run environment words).run.run { library }
  let (exitCode, fault) : Nat × Option Fault := match result with
    | .ok () => (0, none)
    | .error (.exit code) => (code, none)
    | .error (.fault fault) => (1, some fault)
  ⟨exitCode, fault, after.text, after.library⟩

end StoreSchema.CommandLine
