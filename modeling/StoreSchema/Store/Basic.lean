import StoreSchema.Document.Intake
import StoreSchema.Fault
import StoreSchema.Settings.Basic
import StoreSchema.Storage.CollectionRule
import StoreSchema.Storage.IndexForm
import StoreSchema.Storage.Value
import StoreSchema.Text.LowerCase

set_option autoImplicit false

namespace StoreSchema

inductive DatabaseCall where
  | open_ (uri : String) (timeout : Int)
  | ping
  | database (name : String)
  | collection (name : Value)
  | listCollections
  | changeValidator (collection validator : Value)
  | createCollection (collection validator : Value)
  | createIndex (collection : Value) (keys : List (Scalar × Value)) (unique : Bool)
  | close

/-- A client, by its answer to a call after the calls before it: the names that the call asks for,
or the reason why it fails. -/
structure DatabaseClient where
  answer : List DatabaseCall → DatabaseCall → Except String (List Value)

namespace DatabaseCall

def kind : DatabaseCall → String
  | .open_ _ _ => "client"
  | .ping => "ping"
  | .database _ => "database"
  | .collection _ => "collection"
  | .listCollections => "list_collection_names"
  | .changeValidator _ _ => "collMod"
  | .createCollection _ _ => "create_collection"
  | .createIndex _ _ _ => "create_index"
  | .close => "close"

def created? : DatabaseCall → Option Value
  | .createCollection name _ => some name
  | _ => none

end DatabaseCall

namespace DatabaseClient

/-- A client of a database with some collections. Calls of the listed kinds fail; any other
succeeds, and a collection that was created is there from then on. -/
def scripted (existing : List String) (failures : List (String × String)) : DatabaseClient where
  answer history call :=
    match failures.lookup call.kind with
    | some reason => .error reason
    | none =>
      match call with
      | .listCollections =>
        let created := if (failures.lookup "create_collection").isSome then []
          else history.filterMap DatabaseCall.created?
        .ok (existing.map .text ++ created)
      | _ => .ok []

def unreachable_ : DatabaseClient where
  answer _ _ := .error "No servers found yet"

instance : Inhabited DatabaseClient := ⟨unreachable_⟩

end DatabaseClient

structure Schema where
  name : String
  definition : Entries Value
  options : Entries Value
  indexes : List Index
deriving Inhabited

namespace Schema

/-- The faults of a value that should be a mapping with texts as keys, under a field's name. -/
def mappingFaults (field : String) (v : Value) : List FieldFault :=
  match v.entries? with
  | some entries => Index.keyFaults field entries
  | none => [⟨[.text field], .mapping⟩]

/-- The name of a schema, which should be a text. -/
def checkName (name : Scalar) : Checked String :=
  .text [.text "name"] (.scalar name)

/-- A key of a definition as a text, if it can be one. -/
def fieldKey (key : Scalar) : Scalar :=
  match key with
  | .bytes _ => .text (Checked.text [] (.scalar key)).value
  | key => key

/-- A schema without indexes; options that are empty or absent are none. -/
def make (name : Scalar) (definition options : Value) : Except Fault Schema :=
  let options := if options.isTruthy then options else .map []
  let name := checkName name
  let faults := name.faults ++ mappingFaults "definition" definition ++
    mappingFaults "options" options
  let keyed := fun (entries : Entries Value) => entries.map fun e => (fieldKey e.1, e.2)
  match faults, definition.entries?, options.entries? with
  | [], some definition, some options => .ok ⟨name.value, keyed definition, keyed options, []⟩
  | faults, _, _ => .error (.invalidFields faults)

def addIndex (schema : Schema) (index : Index) : Schema :=
  { schema with indexes := schema.indexes ++ [index] }

def fieldNames (schema : Schema) : List Scalar :=
  Entries.keys schema.definition

end Schema

/-- A schema registered under a name, and the collection it is bound to if it is bound to one. -/
structure Model where
  name : Scalar
  schema : Schema
  collection : Option Value
deriving Inhabited

structure MemoryStore where
  settings : MemorySettings := {}
  models : Entries Model := []
  connected : Bool := false
deriving Inhabited

namespace MemoryStore

/-- The store ready for registering, without models. -/
def connect (store : MemoryStore) : MemoryStore :=
  { store with models := [], connected := true }

def disconnect (store : MemoryStore) : MemoryStore :=
  { store with models := [], connected := false }

/-- Registers a schema under a name. A name that is taken is refused or, if models are replaced,
taken over with a warning. -/
def register (store : MemoryStore) (name : Scalar) (schema : Schema) :
    Except Fault (Model × List Warning × MemoryStore) :=
  let taken := Entries.has store.models name
  if taken && !store.settings.replaceModels then .error (.modelRegistered name)
  else
    let model : Model := ⟨name, schema, none⟩
    .ok (model, if taken then [.replacingModel name] else [],
      { store with models := Entries.put store.models name model })

end MemoryStore

structure DatabaseStore where
  settings : DatabaseSettings := {}
  client : DatabaseClient := default
  /-- The store opens its client itself, and closes it. -/
  ownsClient : Bool := true
  hasClient : Bool := false
  hasDatabase : Bool := false
  connected : Bool := false
  models : Entries Model := []
  /-- Every call made so far. -/
  calls : List DatabaseCall := []
deriving Inhabited

namespace DatabaseStore

/-- A step of a store; what it changed before a fault stays changed. -/
abbrev Step := ExceptT Fault (StateM DatabaseStore)

/-- A store that borrows a client, or one that opens clients itself. -/
def make (settings : DatabaseSettings) (client : DatabaseClient) (borrowed : Bool) :
    DatabaseStore :=
  { settings, client, ownsClient := !borrowed, hasClient := borrowed }

/-- The directions that index fields may be given in words. -/
def directions : List (String × Int) :=
  [("asc", 1), ("ascending", 1), ("desc", -1), ("descending", -1)]

/-- The direction of an index field: a word in any case of letters, or the value as it stands. -/
def direction (v : Value) : Value :=
  match v with
  | .text word =>
    match directions.lookup (Text.LowerCase.lower word) with
    | some n => .scalar (.int n)
    | none => v
  | _ => v

/-- The keys of an index: its fields with their directions. -/
def indexKeys (index : Index) : List (Scalar × Value) :=
  index.fields.map fun field => (field.1, direction field.2)

def call (request : DatabaseCall) : Step (List Value) := do
  let store ← get
  set { store with calls := store.calls ++ [request] }
  match store.client.answer store.calls request with
  | .ok names => pure names
  | .error reason => throw (.clientFailed reason)

/-- A step whose failing calls are reported as a fault of the step. -/
def reporting {α : Type} (fault : String → Fault) (step : Step α) : Step α :=
  tryCatch step fun
    | .clientFailed reason => throw (fault reason)
    | other => throw other

/-- Connects to the database, opening a client if there is none. -/
def connect : Step Unit := do
  let settings := (← get).settings
  reporting (fun reason => .connectionFailed reason settings.uri) do
    if !(← get).hasClient then
      let _ ← call (.open_ settings.uri settings.serverSelectionTimeout)
      modify fun store => { store with hasClient := true }
    let _ ← call .ping
    let _ ← call (.database settings.database)
    modify fun store => { store with hasDatabase := true, connected := true }

/-- Disconnects from the database, closing the client if it is the store's own. -/
def disconnect : Step Unit := do
  let store ← get
  if store.hasClient && store.ownsClient then
    let _ ← call .close
    modify fun store => { store with hasClient := false }
  modify fun store => { store with hasDatabase := false, connected := false }

def isConnected (store : DatabaseStore) : Bool :=
  store.connected && store.hasDatabase

/-- The collection that a schema registered under a name is bound to. -/
def collectionOf (name : Data) (schema : Schema) : Value :=
  let option := (Entries.get? schema.options (.text "collection")).getD (.scalar .null)
  if option.isTruthy then option else Value.ofData name

def installValidator (collection : Value) (schema : Schema) : Step Unit := do
  let rule := (CollectionRule.ofFields schema.definition).toValue
  let validator := Value.map [(.text "$jsonSchema", rule)]
  let names ← call .listCollections
  let _ ← call (if names.any (·.same collection) then .changeValidator collection validator
    else .createCollection collection validator)

def createIndexes (collection : Value) : List Index → Step Unit
  | [] => pure ()
  | index :: rest => do
    let _ ← call (.createIndex collection (indexKeys index) index.unique)
    createIndexes collection rest

/-- Registers a schema under a name, binding it to its collection. That a name cannot be one is
found last, when the collection is ready. -/
def register (name : Data) (schema : Schema) : Step Model := do
  let store ← get
  if !store.isConnected then throw .notConnected
  let collection := collectionOf name schema
  reporting (fun reason => .registrationFailed name reason collection.toData) do
    if store.settings.applyValidation then installValidator collection schema
    let _ ← call (.collection collection)
    if store.settings.createIndexes then createIndexes collection schema.indexes
  let key ← ExceptT.mk (pure (name.key.mapError .misuse))
  let model : Model := ⟨key, schema, some collection⟩
  modify fun store => { store with models := Entries.put store.models key model }
  pure model

end DatabaseStore

inductive SchemaStore where
  | memory (store : MemoryStore)
  | database (store : DatabaseStore)
deriving Inhabited

/-- A store with the warnings that were given while using it. -/
structure StoreLog where
  store : SchemaStore
  warnings : List Warning := []
deriving Inhabited

namespace SchemaStore

/-- A step of a store; what it changed before a fault stays changed. -/
abbrev Step := ExceptT Fault (StateM StoreLog)

/-- The store that the settings ask for, its kind being named in any case of letters. -/
def ofSettings (settings : StoreSettings) (client : DatabaseClient) :
    Except Fault SchemaStore :=
  let kind := Text.LowerCase.lower settings.kind
  if kind == "memory" then .ok (.memory { settings := settings.memory })
  else if kind == "mongo" then .ok (.database (.make settings.database client false))
  else .error (.unsupportedBackend kind)

def isConnected : SchemaStore → Bool
  | .memory store => store.connected
  | .database store => store.isConnected

def models : SchemaStore → Entries Model
  | .memory store => store.models
  | .database store => store.models

def model? (store : SchemaStore) (name : Scalar) : Option Model :=
  Entries.get? store.models name

def modelNames (store : SchemaStore) : List Scalar :=
  Entries.keys store.models

private def keep (store : SchemaStore) : Step Unit :=
  modify fun log => { log with store }

private def onDatabase {α : Type} (store : DatabaseStore) (step : DatabaseStore.Step α) :
    Step α := do
  let (outcome, after) := step.run.run store
  keep (.database after)
  match outcome with
  | .ok value => pure value
  | .error fault => throw fault

/-- Makes the store ready for registering. -/
def connect : Step Unit := do
  match (← get).store with
  | .memory store => keep (.memory store.connect)
  | .database store => onDatabase store DatabaseStore.connect

def disconnect : Step Unit := do
  match (← get).store with
  | .memory store => keep (.memory store.disconnect)
  | .database store => onDatabase store DatabaseStore.disconnect

def register (name : Data) (schema : Schema) : Step Model := do
  match (← get).store with
  | .memory store =>
    match (name.key.mapError .misuse).bind (store.register · schema) with
    | .ok (model, warnings, after) =>
      modify fun log => { store := .memory after, warnings := log.warnings ++ warnings }
      pure model
    | .error fault => throw fault
  | .database store => onDatabase store (DatabaseStore.register name schema)

end SchemaStore

end StoreSchema
