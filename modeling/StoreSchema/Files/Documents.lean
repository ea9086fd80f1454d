import StoreSchema.Document.Intake
import StoreSchema.Files.Tree
import StoreSchema.Json.Writer
import StoreSchema.Settings.Environment
import StoreSchema.Storage.Value
import StoreSchema.Store.Basic
import StoreSchema.Yaml.Reader
import StoreSchema.Yaml.Writer

set_option autoImplicit false

namespace StoreSchema

namespace Path

def isYaml (path : Path) : Bool :=
  let suffix := Text.LowerCase.lower path.suffix
  suffix == ".yaml" || suffix == ".yml"

end Path

/-- What a file hands in. -/
inductive Role where
  | document
  | extra

namespace Role

/-- The number that tells the data of one role from that of the other. -/
def number : Role → Nat
  | document => 0
  | extra => 1

end Role

/-- A step that changes the files; what was changed before a fault stays. -/
abbrev FileTree.Change := ExceptT Fault (StateM FileTree)

namespace FileTree

private def ofYaml (text : String) (number : Nat) (refused : Yaml.Refusal → Fault) :
    Except Fault Yaml.Loaded :=
  match Yaml.read text number with
  | .ok loaded => .ok loaded
  | .error (.refused refusal) => .error (refused refusal)
  | .error (.misused cause) => .error (.misuse cause)
  | .error .endless => .error .endless

private def ofJson (text : String) : Except Fault Data :=
  match Json.read text with
  | .ok d => .ok d
  | .error (.malformed cause position) => .error (.fileNotJson text cause position)
  | .error .integerTooLong => .error (.misuse .wrongForm)
  | .error .nestedTooDeep => .error .endless

private def readData (tree : FileTree) (path : Path) (role : Role) : Except Fault Yaml.Loaded := do
  let text ← tree.readText path
  if path.isYaml then ofYaml text role.number (.fileNotYaml path.toString)
  else pure { data := ← ofJson text }

/-- The document in a file, which has to be a mapping. -/
def loadDocument (tree : FileTree) (path : Path) (role : Role) : Except Fault Yaml.Loaded := do
  if !(← (tree.exists_ path).mapError .file) then throw (.documentAbsent path.toString)
  let loaded ← tree.readData path role
  match loaded.data with
  | .map _ => pure loaded
  | _ => throw (.fileNotMapping path.toString)

def environmentFile (tree : FileTree) (path : String) : Except Fault (Option String) := do
  let path := Path.ofString path
  match tree.locate path with
  | .ok place => if tree.isFile place then some <$> tree.textAt place else pure none
  | .error .tooLong => throw (.file .tooLong)
  | .error _ => pure none

private def settingsAt (tree : FileTree) (path : String) : Except Fault (Entries Data) := do
  let place ← (tree.reach path).mapError .file
  let loaded ← ofYaml (← tree.textAt place) 0 fun refusal => .settingsNotYaml refusal
  if !loaded.data.isTruthy then pure []
  else match loaded.data with
    | .map entries =>
      if entries.all fun e => e.1 matches .text _ then pure entries
      else throw (.misuse .wrongKind)
    | _ => throw (.misuse .wrongKind)

/-- The settings in a file; without a path or with an empty one, those of the environment alone. -/
def loadSettings (tree : FileTree) (path : String) (environment : List (String × String)) :
    Except Fault Settings := do
  let given ← if path == "" then pure [] else tree.settingsAt path
  Settings.load given environment tree.environmentFile

end FileTree

namespace Index

def toData (index : Index) : Data :=
  .map [(.text "fields", (Value.map index.fields).toData), (.text "unique", .bool index.unique)]

end Index

namespace Schema

def toData (schema : Schema) : Data :=
  .map [(.text "properties", (Value.map schema.definition).toData),
    (.text "options", (Value.map schema.options).toData),
    (.text "indexes", .list (schema.indexes.map Index.toData))]

/-- Why a schema cannot be rendered to its end, if it cannot. -/
def renderFault? (schema : Schema) : Option Fault :=
  if (Value.map schema.definition).isEndless || (Value.map schema.options).isEndless then
    some .endless
  else if schema.indexes.any fun index => (Value.map index.fields).isEndless then
    some (.misuse .wrongForm)
  else none

end Schema

namespace FileTree

private def Change.ofExcept {α : Type} (outcome : Except FileCause α) : Change α :=
  match outcome with
  | .ok value => pure value
  | .error cause => throw (.file cause)

private def writeText (path : Path) (text : String) (broken : Option Misuse) : Change Unit := do
  let place ← Change.ofExcept ((← get).placeToWrite path)
  modify fun tree => tree.write place text.toUTF8.toList
  if let some cause := broken then throw (.misuse cause)

/-- Writes data to a YAML file; nothing is written if not all of it can be. -/
private def writeYaml (path : Path) (d : Data) : Change Unit :=
  match Yaml.write d with
  | .ok text => writeText path text none
  | .error cause => writeText path "" (some cause)

def saveSettings (path : Path) (settings : Settings) : Change Unit :=
  writeYaml path settings.toData

def saveSchemas (path : Path) (schemas : List (Scalar × Schema)) : Change Unit := do
  set (← Change.ofExcept ((← get).makeDirectories path.parent))
  if let some fault := schemas.findSome? fun e => e.2.renderFault? then throw fault
  let d := Data.map (schemas.map fun e => (e.1, e.2.toData))
  if path.isYaml then writeYaml path d
  else
    let (text, broken) := Json.writeParts .indented d
    writeText path text broken

end FileTree

end StoreSchema
