import StoreSchema.Compile.Definition
import StoreSchema.Data.Basic
import StoreSchema.Document.Intake
import StoreSchema.Store.Basic
import StoreSchema.Validators.Library

set_option autoImplicit false

namespace StoreSchema.Document

/-- The numbers of the definitions among the places of a group; `row` is the number of the entry
that holds the definitions. -/
def members (row : Nat) (group : List Place) : List Nat :=
  group.filterMap fun place =>
    match place with
    | [n, k] => if n == row then some k else none
    | _ => none

/-- The names of the definitions that are one mapping, for each group of two or more. -/
def classes (row : Nat) (definitions : Entries Data) (sharing : Sharing) :
    List (List Scalar) :=
  let names := Entries.keys definitions
  (sharing.map fun group => (members row group).filterMap fun k => names[k]?).filter fun names =>
    decide (1 < names.length)

/-- The named blocks with those of one class replaced by the last that is given to it. -/
def spread (extra : Entries Data) (names : List Scalar) : Entries Data :=
  match (extra.filter fun e => names.any (·.same e.1)).getLast? with
  | some (_, block) => names.foldl (fun extra name => Entries.put extra name block) extra
  | none => extra

/-- A document whose definitions have extension blocks from elsewhere, where they share mappings:
the document and its definitions. -/
def applyShared (sharing : Sharing) (document definitions : Entries Data) (extra : Data)
    (key : String) : Reporting (Entries Data × Entries Data) := do
  let row := (Entries.keys document).findIdx fun k => k.same (.text "definitions")
  let entries ← Reporting.ofExcept (orMisuse (if extra.isTruthy then extra.toEntries else .ok []))
  let named := (classes row definitions sharing).foldl spread entries
  let laid ← applyExtra definitions (.map named) key
  let copies := (Entries.value entries "default").isTruthy
  let laid := if copies then laid.mapIdx fun k e =>
      (e.1, e.2.changeAt (fun own => Entries.put own (.text key)
        ((Entries.value own key).copied (k + 1))) [])
    else laid
  let withDefinitions := Data.map (Entries.put document (.text "definitions") (.map laid))
  let whole := sharing.foldl (fun whole group =>
    match (members row group).head?.bind (laid[·]?) with
    | some (_, definition) =>
      let write := fun (own : Entries Data) =>
        match definition with
        | .map entries =>
          match Entries.get? entries (.text key) with
          | some block => Entries.put own (.text key) block
          | none => own
        | _ => own
      group.foldl (fun whole place => whole.changeAt write place) whole
    | none => whole) withDefinitions
  match whole with
  | .map document =>
    match Entries.value document "definitions" with
    | .map definitions => pure (document, definitions)
    | _ => pure (document, laid)
  | _ => pure (document, laid)

end StoreSchema.Document

namespace StoreSchema

namespace Document

def decodeExtra : Source → Except Fault Data
  | .absent => .ok .null
  | .data value | .file value _ => .ok value
  | text => (decode text).map .map

def gatherExtensions (key : String) (document : Data) (definitions : Entries Data) :
    Extensions.Gather Unit := do
  Extensions.registerGlobal document
  definitions.forM fun e => Extensions.register e.1 (e.2.value key)

/-- Gathers what one compilation run is about. -/
def buildContext (settings : CompilerSettings) (library : ValidatorLibrary)
    (validators : List (String × String)) (source extraSource : Source) : Reporting Context := do
  let document ← Reporting.ofExcept (decode source)
  let extra ← Reporting.ofExcept (decodeExtra extraSource)
  let declared := Entries.value document "definitions"
  let definitions ←
    if declared.isTruthy then
      match declared with
      | .map entries => pure entries
      | _ => throw .definitionsNotMapping
    else pure []
  let version ← detectVersion document
  let bare : Context := { definitions, settings, version, validators }
  let key := bare.extensionKey
  let (document, definitions) ← match source.sharing with
    | none => do
      let definitions ← applyExtra definitions extra key
      pure (if declared.isTruthy then Entries.put document (.text "definitions") (.map definitions)
        else document, definitions)
    | some sharing => applyShared sharing document definitions extra key
  let (gathered, extensions) :=
    (gatherExtensions key (Entries.value document key) definitions).run.run {}
  Reporting.ofExcept (orMisuse gathered)
  let validators ← Reporting.ofExcept
    (library.loadAll settings.validatorsBaseDir validators extensions.validatorPaths)
  pure { bare with definitions, extensions, validators }

end Document

/-- The schemas and models of one document, in the order of its definitions. -/
structure CompilationResult where
  schemas : List (Scalar × Schema)
  models : List (Scalar × Model)
deriving Inhabited

structure Session where
  settings : Settings := {}
  /-- Validators that are there from the start, each with the name of its function. -/
  validators : List (String × String) := []
  /-- The validator modules that documents may name. -/
  library : ValidatorLibrary := {}
  /-- The client that a database store uses. -/
  client : DatabaseClient := default
  store : Option SchemaStore := none
deriving Inhabited

namespace Session

def compileDefinitions (session : Session) (source extra : Source) :
    Reporting (List Compiled) := do
  let ctx ← Document.buildContext session.settings.compiler session.library session.validators
    source extra
  Reporting.ofExcept ctx.compileAll

def schemaOf (compiled : Compiled) : Except Fault Schema := do
  let schema ← Schema.make compiled.name compiled.properties
    (.map (Value.ofEntries compiled.options))
  match compiled.index with
  | some index => pure (schema.addIndex index)
  | none => pure schema

def registerAll : List (Scalar × Schema) → SchemaStore.Step (List (Scalar × Model))
  | [] => pure []
  | (name, schema) :: rest => do
    let model ← SchemaStore.register (.scalar name) schema
    let more ← registerAll rest
    pure ((name, model) :: more)

/-- Hands compiled definitions to a store: all schemas first, then all models. -/
def handOver (compiled : List Compiled) : SchemaStore.Step CompilationResult := do
  if !(← get).store.isConnected then SchemaStore.connect
  let schemas ← match compiled.mapM fun c => do pure (c.name, ← schemaOf c) with
    | .ok schemas => pure schemas
    | .error fault => throw fault
  let models ← registerAll schemas
  pure ⟨schemas, models⟩

/-- Compiles a document and registers its models: the outcome, the warnings, and the session
afterwards. -/
def compile (session : Session) (source extra : Source) :
    Except Fault CompilationResult × List Warning × Session :=
  match (session.compileDefinitions source extra).run.run [] with
  | (.error fault, warnings) => (.error fault, warnings, session)
  | (.ok compiled, warnings) =>
    let ready : Except Fault SchemaStore := match session.store with
      | some store => .ok store
      | none => SchemaStore.ofSettings session.settings.store session.client
    match ready with
    | .error fault => (.error fault, warnings, session)
    | .ok store =>
      let (outcome, log) := (handOver compiled).run.run { store, warnings }
      (outcome, log.warnings, { session with store := some log.store })

end Session

end StoreSchema
