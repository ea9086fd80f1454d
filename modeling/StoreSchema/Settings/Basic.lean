import StoreSchema.Number.Numeral
import StoreSchema.Text.Characters
import StoreSchema.Text.Encoding

set_option autoImplicit false

namespace StoreSchema

inductive LogLevel where
  | debug
  | info
  | warning
  | error
deriving DecidableEq, Inhabited

namespace LogLevel

def word : LogLevel → String
  | debug => "DEBUG"
  | info => "INFO"
  | warning => "WARNING"
  | error => "ERROR"

def all : List LogLevel := [debug, info, warning, error]

def ofWord? (word : String) : Option LogLevel :=
  all.find? fun level => level.word == word

end LogLevel

structure CompilerSettings where
  /-- The key of extension blocks in documents of version 2 and above. -/
  extensionKey : String := "x-swagger-mongoose"
  /-- The key of extension blocks in older documents and in those without a version. -/
  legacyExtensionKey : String := "_mongoose"
  /-- The fields that belong to the store and are never compiled. -/
  reservedFields : List String := ["_id", "__v"]
  /-- References into a definition that is being compiled are stored and not embedded. -/
  detectCycles : Bool := false
  /-- The directory that validator modules are found from. -/
  validatorsBaseDir : Option String := none
deriving Inhabited

structure MemorySettings where
  /-- A model registered again replaces the earlier one. -/
  replaceModels : Bool := true
deriving Inhabited

structure DatabaseSettings where
  uri : String := "mongodb://localhost:27017"
  database : String := "swagger_odm"
  serverSelectionTimeout : Int := 5000
  createIndexes : Bool := true
  applyValidation : Bool := false
deriving Inhabited

structure StoreSettings where
  kind : String := "memory"
  memory : MemorySettings := {}
  database : DatabaseSettings := {}
deriving Inhabited

structure Settings where
  logLevel : LogLevel := .info
  compiler : CompilerSettings := {}
  store : StoreSettings := {}
deriving Inhabited

end StoreSchema

namespace StoreSchema.Word

def trueWords : List String := ["1", "on", "t", "true", "y", "yes"]

def falseWords : List String := ["0", "off", "f", "false", "n", "no"]

/-- The truth value that a word stands for, in any case of its ASCII letters. -/
def truth? (word : String) : Option Bool :=
  let lower := String.ofList (word.toList.map Char.toLower)
  if trueWords.contains lower then some true
  else if falseWords.contains lower then some false
  else none

/-- Why a word denotes no integer. -/
inductive IntegerCause where
  | malformed
  /-- It has more digits than are read. -/
  | tooLong

/-- The natural number that a row of digits denotes: a zero alone, or digits of which the first is
no zero. A row that starts with too many digits is too long whatever follows. -/
private def naturalOf (s : List Char) : Except IntegerCause Nat :=
  let digits := s.takeWhile Char.isDigit
  if digits.isEmpty || (digits.head? == some '0' && 1 < digits.length) then .error .malformed
  else if Number.Numeral.longest < digits.length then .error .tooLong
  else if digits.length < s.length then .error .malformed
  else .ok (digits.foldl (fun n d => 10 * n + (d.toNat - 48)) 0)

/-- The integer that a strict row of digits denotes, with a minus sign at most before it. -/
private def strictInteger : List Char → Except IntegerCause Int
  | '-' :: digits => (naturalOf digits).map fun n => -(n : Int)
  | digits => (naturalOf digits).map Int.ofNat

/-- The row after the zeros and underscores at its start, the first of which is a zero. A zero stays
before a point and where nothing follows. -/
private def afterZeros (last : Char) : List Char → Option (List Char)
  | [] => some [last]
  | c :: rest =>
    if c == '0' || c == '_' then afterZeros c rest
    else if c == '.' then some (last :: c :: rest)
    else if c.isDigit || c == '-' then some (c :: rest)
    else none

private def withoutZeros? : List Char → Option (List Char)
  | '0' :: rest => afterZeros '0' rest
  | c :: rest => if c.isDigit || c == '-' then some (c :: rest) else none
  | [] => none

private def withoutFraction (s : List Char) : List Char :=
  let whole := s.takeWhile (· != '.')
  let fraction := s.drop (whole.length + 1)
  if !fraction.isEmpty && fraction.all (· == '0') then whole else s

private def hasSingleUnderscores (s : List Char) : Bool :=
  ((String.ofList s).splitOn "_").all (· != "") && !s.isEmpty

private def strictOf? (s : List Char) : Option (List Char) := do
  let s := (Text.Blank.trim Text.Blank.isSpacing (String.ofList s)).toList
  let s ← match s with
    | '+' :: '-' :: _ => none
    | '+' :: rest => some rest
    | s => some s
  let s := withoutFraction (← withoutZeros? s)
  if hasSingleUnderscores s then pure (s.filter (· != '_')) else none

def integer (word : String) : Except IntegerCause Int :=
  match strictInteger word.toList with
  | .error .malformed =>
    match strictOf? word.toList with
    | some s => strictInteger s
    | none => .error .malformed
  | outcome => outcome

end StoreSchema.Word

namespace StoreSchema

/-- A value read from data, and the faults met on the way; with faults the value is a stand-in. -/
structure Checked (α : Type) where
  faults : List FieldFault
  value : α

namespace Checked

variable {α β : Type}

def pure (value : α) : Checked α := ⟨[], value⟩

/-- A stand-in for a value that does not meet a demand. -/
def refuse (location : List Scalar) (demand : Demand) (standIn : α) : Checked α :=
  ⟨[⟨location, demand⟩], standIn⟩

def both (f : Checked (α → β)) (x : Checked α) : Checked β :=
  ⟨f.faults ++ x.faults, f.value x.value⟩

/-- Two to the 63rd power, the bound on the size of a number that is counted by a machine word. -/
private def wordBound : Int := 9223372036854775808

/-- A key as a place in a location: a text as it stands, a small integer as a number, any other key
as reports show it. -/
def place (key : Scalar) : Scalar :=
  match key with
  | .text s => .text s
  | .bool flag => .int (if flag then 1 else 0)
  | .int n => if -wordBound ≤ n && n < wordBound then .int n else .text (Scalar.int n).quoted
  | key => .text key.quoted

def toExcept (checked : Checked α) : Except Fault α :=
  match checked.faults with
  | [] => .ok checked.value
  | faults => .error (.invalidFields faults)

/-- A text; bytes are read as UTF-8. -/
def text (location : List Scalar) : Data → Checked String
  | .text s => pure s
  | .scalar (.bytes bytes) =>
    match Text.Utf8.decode bytes with
    | .ok s => pure s
    | .error _ => refuse location .characters ""
  | _ => refuse location .text ""

def optionalText (location : List Scalar) : Data → Checked (Option String)
  | .null => pure none
  | d => let s := text location d; ⟨s.faults, some s.value⟩

/-- A value read from a word without lone surrogates; bytes are read as UTF-8, and those that are
none do not meet the demand `broken`. -/
def word (location : List Scalar) (broken : Demand) (standIn : α) (read : String → Checked α) :
    Scalar → Option (Checked α)
  | .text s =>
    some (if Text.Surrogate.occursIn s then refuse location .characters standIn else read s)
  | .bytes bytes =>
    some (match Text.Utf8.decode bytes with
      | .ok s => read s
      | .error _ => refuse location broken standIn)
  | _ => none

def truthOfInt? (n : Int) : Option Bool :=
  if n = 0 then some false else if n = 1 then some true else none

def truthValue (location : List Scalar) (d : Data) : Checked Bool :=
  let ofOption := fun (read : Option Bool) =>
    match read with
    | some flag => pure flag
    | none => refuse location .truthWord false
  let ofScalar := fun (s : Scalar) =>
    match word location .truthWord false (fun s => ofOption (Word.truth? s)) s with
    | some checked => checked
    | none =>
      match s with
      | .bool flag => pure flag
      | .int n =>
        if -wordBound ≤ n && n < wordBound then ofOption (truthOfInt? n)
        else refuse location .truthValue false
      | .float x =>
        match x.toInt? with
        | some n =>
          if -wordBound < n && n < wordBound then ofOption (truthOfInt? n)
          else refuse location .truthValue false
        | none => refuse location .truthValue false
      | _ => refuse location .truthValue false
  match d with
  | .scalar s => ofScalar s
  | _ => refuse location .truthValue false

private def integerOfWord (location : List Scalar) (s : String) : Checked Int :=
  match Word.integer s with
  | .ok n => pure n
  | .error .malformed => refuse location .integerWord 0
  | .error .tooLong => refuse location .integerSize 0

def integer (location : List Scalar) (d : Data) : Checked Int :=
  let ofScalar := fun (s : Scalar) =>
    match word location .integerWord 0 (integerOfWord location) s with
    | some checked => checked
    | none =>
      match s with
      | .bool flag => pure (if flag then 1 else 0)
      | .int n => pure n
      | .float .notANumber | .float (.infinite _) => refuse location .finiteNumber 0
      | .float x =>
        match x.toInt? with
        | some n =>
          if -wordBound < n && n < wordBound then pure n else refuse location .integerSize 0
        | none => refuse location .wholeNumber 0
      | _ => refuse location .integer 0
  match d with
  | .scalar s => ofScalar s
  | _ => refuse location .integer 0

private def textItems (location : List Scalar) : Nat → List Data → Checked (List String)
  | _, [] => pure []
  | place, item :: rest =>
    ((pure List.cons).both (text (location ++ [.int place]) item)).both
      (textItems location (place + 1) rest)

/-- A list of texts; a pair or set may stand for it. -/
def texts (location : List Scalar) : Data → Checked (List String)
  | .list items => textItems location 0 items
  | .pair first second _ => textItems location 0 [first, second]
  | .set members _ => textItems location 0 (members.map .scalar)
  | _ => refuse location .list []

/-- The field of a section, or its default if the section does not have it. -/
def field (location : List Scalar) (entries : Entries Data) (name : String) (default : α)
    (read : List Scalar → Data → Checked α) : Checked α :=
  match Entries.get? entries (.text name) with
  | some d => read (location ++ [.text name]) d
  | none => pure default

def section_ (standIn : α) (read : List Scalar → Entries Data → Checked α)
    (location : List Scalar) : Data → Checked α
  | .map entries => read location entries
  | _ => refuse location .section standIn

end Checked

namespace LogLevel

def check (location : List Scalar) (d : Data) : Checked LogLevel :=
  let refusal : Checked LogLevel := .refuse location .listedWord .info
  let ofWord := fun (word : String) => ((ofWord? word).map Checked.pure).getD refusal
  match d with
  | .scalar s => (Checked.word location .listedWord .info ofWord s).getD refusal
  | _ => refusal

end LogLevel

namespace CompilerSettings

def check (location : List Scalar) (entries : Entries Data) : Checked CompilerSettings :=
  let defaults : CompilerSettings := {}
  (((((Checked.pure CompilerSettings.mk).both
    (.field location entries "extension_key" defaults.extensionKey .text)).both
    (.field location entries "legacy_extension_key" defaults.legacyExtensionKey .text)).both
    (.field location entries "reserved_fields" defaults.reservedFields .texts)).both
    (.field location entries "detect_cycles" defaults.detectCycles .truthValue)).both
    (.field location entries "validators_base_dir" defaults.validatorsBaseDir .optionalText)

def toData (settings : CompilerSettings) : Data :=
  .map [(.text "extension_key", .text settings.extensionKey),
    (.text "legacy_extension_key", .text settings.legacyExtensionKey),
    (.text "reserved_fields", .list (settings.reservedFields.map .text)),
    (.text "detect_cycles", .bool settings.detectCycles),
    (.text "validators_base_dir", (settings.validatorsBaseDir.map .text).getD .null)]

end CompilerSettings

namespace MemorySettings

def check (location : List Scalar) (entries : Entries Data) : Checked MemorySettings :=
  (Checked.pure MemorySettings.mk).both
    (.field location entries "replace_models" true .truthValue)

def toData (settings : MemorySettings) : Data :=
  .map [(.text "replace_models", .bool settings.replaceModels)]

end MemorySettings

namespace DatabaseSettings

def check (location : List Scalar) (entries : Entries Data) : Checked DatabaseSettings :=
  let defaults : DatabaseSettings := {}
  (((((Checked.pure DatabaseSettings.mk).both
    (.field location entries "uri" defaults.uri .text)).both
    (.field location entries "database" defaults.database .text)).both
    (.field location entries "server_selection_timeout_ms" defaults.serverSelectionTimeout
      .integer)).both
    (.field location entries "create_indexes" defaults.createIndexes .truthValue)).both
    (.field location entries "apply_validation" defaults.applyValidation .truthValue)

def toData (settings : DatabaseSettings) : Data :=
  .map [(.text "uri", .text settings.uri), (.text "database", .text settings.database),
    (.text "server_selection_timeout_ms", .int settings.serverSelectionTimeout),
    (.text "create_indexes", .bool settings.createIndexes),
    (.text "apply_validation", .bool settings.applyValidation)]

end DatabaseSettings

namespace StoreSettings

def check (location : List Scalar) (entries : Entries Data) : Checked StoreSettings :=
  let defaults : StoreSettings := {}
  (((Checked.pure StoreSettings.mk).both
    (.field location entries "backend" defaults.kind .text)).both
    (.field location entries "memory" {} (.section_ {} MemorySettings.check))).both
    (.field location entries "mongo" {} (.section_ {} DatabaseSettings.check))

def toData (settings : StoreSettings) : Data :=
  .map [(.text "backend", .text settings.kind), (.text "memory", settings.memory.toData),
    (.text "mongo", settings.database.toData)]

def ofEntries (entries : Entries Data) : Except Fault StoreSettings :=
  (check [] entries).toExcept

end StoreSettings

namespace Settings

def ofEntries (entries : Entries Data) : Except Fault Settings :=
  ((((Checked.pure Settings.mk).both
    (.field [] entries "log_level" .info LogLevel.check)).both
    (.field [] entries "compiler" {} (.section_ {} CompilerSettings.check))).both
    (.field [] entries "backend" {} (.section_ {} StoreSettings.check))).toExcept

def toData (settings : Settings) : Data :=
  .map [(.text "log_level", .text settings.logLevel.word),
    (.text "compiler", settings.compiler.toData), (.text "backend", settings.store.toData)]

end Settings

end StoreSchema
