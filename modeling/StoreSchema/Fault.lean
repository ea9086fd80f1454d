import StoreSchema.Data.Basic
import StoreSchema.Json.Reader
import StoreSchema.Text.Markup
import StoreSchema.Yaml.Refusal

set_option autoImplicit false

namespace StoreSchema

/-- What a declared field wants of its value. -/
inductive Demand where
  | present
  | text
  /-- No lone surrogates, and bytes that are UTF-8. -/
  | characters
  | truthValue
  | truthWord
  | integer
  | integerWord
  | integerSize
  | finiteNumber
  | wholeNumber
  | list
  | mapping
  | section
  | listedWord
  | accepted
deriving DecidableEq

/-- A field whose value does not meet a demand, by the names and places that lead to it. -/
structure FieldFault where
  location : List Scalar
  demand : Demand
deriving DecidableEq

/-- Why bytes are no UTF-8 text: the place of the first bad bytes and what is wrong with them. -/
inductive ByteCause where
  | startByte
  | continuationByte
  | endOfData
deriving DecidableEq

/-- The first bytes at fault in what should be UTF-8 text. -/
structure ByteFault where
  position : Nat
  bytes : List UInt8
  cause : ByteCause
deriving DecidableEq

/-- Why an operation on files failed. -/
inductive FileCause where
  | absent
  | isDirectory
  | notDirectory
  /-- A file stands where a directory is to be made. -/
  | occupied
  /-- A path or a name in it is too long. -/
  | tooLong
  /-- A path has a null character. -/
  | nullCharacter
  /-- A path has a lone surrogate. -/
  | loneSurrogate
deriving DecidableEq

inductive Fault where
  | misuse (cause : Misuse)
  /-- References or compositions that never end. -/
  | endless
  | noDocument
  | documentNotText (fault : ByteFault)
  | documentNotJson (text : String) (cause : Json.Cause) (position : Nat)
  | documentOfKind (kind : String)
  | documentNotMapping
  | definitionsNotMapping
  | propertyNotMapping (field owner : Scalar) (value : Data)
  | unknownType (name : Data)
  | noItems
  | unknownFormat (name : Data)
  | malformedReference (reference : Data)
  | unresolvedReference (name : Scalar)
  | validatorNotFound (name : Data) (available : List String)
  | unsupportedBackend (name : String)
  | validatorModuleAbsent (path resolved : String)
  | validatorModuleForeign (path : String)
  | validatorModuleFailed (reason path : String)
  | connectionFailed (reason uri : String)
  | notConnected
  | modelRegistered (name : Scalar)
  | registrationFailed (name : Data) (reason : String) (collection : Data)
  | clientFailed (reason : String)
  | invalidFields (faults : List FieldFault)
  | documentAbsent (path : String)
  | fileNotText (fault : ByteFault)
  | fileNotJson (text : String) (cause : Json.Cause) (position : Nat)
  | fileNotYaml (path : String) (refusal : Yaml.Refusal)
  | settingsNotYaml (refusal : Yaml.Refusal)
  /-- A variable that names a setting is no JSON, or cannot be looked up. -/
  | variableUnreadable
  | fileNotMapping (path : String)
  /-- The style marks of a printed text are at fault. -/
  | mark (cause : Text.Markup.Cause)
  /-- A text to be printed has a lone surrogate. -/
  | unprintable
  | file (cause : FileCause)
deriving Inhabited

namespace ByteFault

private def causeText : ByteCause → String
  | .startByte => "invalid start byte"
  | .continuationByte => "invalid continuation byte"
  | .endOfData => "unexpected end of data"

/-- The wording of a byte fault: one byte by its number, more by their places. -/
def message (fault : ByteFault) : String :=
  let place := match fault.bytes with
    | [byte] => "byte 0x" ++ String.ofList (Text.Quoted.hex 2 byte.toNat) ++ " in position " ++
        toString fault.position
    | bytes => "bytes in position " ++ toString fault.position ++ "-" ++
        toString (fault.position + bytes.length - 1)
  "'utf-8' codec can't decode " ++ place ++ ": " ++ causeText fault.cause

end ByteFault

namespace Fault

private def pointerTo (name : Scalar) : Data :=
  .text ("#/definitions/" ++ name.shown)

private def modelEntry (name : Data) : Entries Data :=
  if name.isTruthy then [(.text "schema_name", name)] else []

/-- The sentence that names a fault; empty for one that is not reported. -/
def sentence : Fault → String
  | .noDocument => "Swagger document not supplied"
  | .documentNotText fault => "Document is not valid UTF-8: " ++ fault.message
  | .documentNotJson text cause position =>
    "Invalid JSON document: " ++ Json.describe text cause position
  | .documentOfKind _ => "Unknown or invalid document object"
  | .documentNotMapping => "Swagger document must be an object"
  | .definitionsNotMapping => "Document 'definitions' must be an object"
  | .propertyNotMapping field _ _ => "Property '" ++ field.shown ++ "' is not an object"
  | .unknownType name => "Unrecognized schema type: " ++ name.shown
  | .noItems => "Array property has no item schema"
  | .unknownFormat name => "Unrecognized schema format: " ++ name.shown
  | .malformedReference reference => "Malformed reference: " ++ reference.shown
  | .unresolvedReference name => "Reference to unknown definition: " ++ name.shown
  | .validatorNotFound name _ => "Validator not found: " ++ name.shown
  | .unsupportedBackend name => "Unsupported schema backend: " ++ name
  | .validatorModuleAbsent path _ => "Validator module not found: " ++ path
  | .validatorModuleForeign path => "Cannot load validator module: " ++ path
  | .validatorModuleFailed reason _ => "Failed to load validator module: " ++ reason
  | .connectionFailed reason _ => "Failed to connect to MongoDB: " ++ reason
  | .notConnected => "Not connected to MongoDB"
  | .modelRegistered name => "Model already registered: " ++ name.shown
  | .registrationFailed name reason _ =>
    "Failed to register model " ++ name.shown ++ ": " ++ reason
  | .documentAbsent path => "Document not found: " ++ path
  | .fileNotJson text cause position =>
    "Invalid JSON in document: " ++ Json.describe text cause position
  | .fileNotYaml path refusal => "Invalid YAML in document: " ++ refusal.message path
  | .fileNotMapping path => "Document must contain an object: " ++ path
  | .misuse _ | .endless | .clientFailed _ | .invalidFields _ | .fileNotText _
  | .settingsNotYaml _ | .variableUnreadable | .file _ | .mark _
  | .unprintable => ""

def details : Fault → Entries Data
  | .documentOfKind kind => [(.text "type", .text kind)]
  | .propertyNotMapping _ owner value =>
    [(.text "owner", .scalar owner), (.text "value", value)]
  | .malformedReference reference => [(.text "reference", reference)]
  | .unresolvedReference name => [(.text "reference", pointerTo name)]
  | .validatorNotFound _ available => [(.text "available", .list (available.map .text))]
  | .unsupportedBackend _ =>
    [(.text "supported_backends", .list [.text "memory", .text "mongo"])]
  | .validatorModuleAbsent _ resolved => [(.text "resolved_path", .text resolved)]
  | .validatorModuleFailed _ path => [(.text "path", .text path)]
  | .connectionFailed _ uri => [(.text "uri", .text uri)]
  | .modelRegistered name => modelEntry (.scalar name)
  | .registrationFailed name _ collection => (.text "collection", collection) :: modelEntry name
  | _ => []

/-- A fault of the document, the settings or the store, which has a wording; the others are
reported by their kind alone. -/
def isReported (fault : Fault) : Bool :=
  fault.sentence != ""

/-- The sentence of a fault, with its details where it has some. -/
def message (fault : Fault) : String :=
  match fault.details with
  | [] => fault.sentence
  | details => fault.sentence ++ " - Details: " ++ (Data.map details).quoted

end Fault

namespace Data

def members : Data → Except Misuse (Entries Data)
  | .map entries => .ok entries
  | .recurrence true => .ok []
  | _ => .error .noMember

/-- What a value is counted through as: items, keys, members, characters or bytes. -/
def items : Data → Except Misuse (List Data)
  | .list items => .ok items
  | .map entries => .ok (entries.map fun e => .scalar e.1)
  | .pair first second _ => .ok [first, second]
  | .set members _ => .ok (members.map .scalar)
  | .recurrence _ => .ok []
  | .text s =>
    .ok ((Text.Surrogate.points s.toList).map fun point =>
      .text (String.ofList (Text.Surrogate.hold point)))
  | .scalar (.bytes value) => .ok (value.map fun byte => .int byte.toNat)
  | .scalar _ => .error .wrongKind

/-- A value used as a key: only a scalar can be. -/
def key : Data → Except Misuse Scalar
  | .scalar s => .ok s
  | _ => .error .wrongKind

private def occursIn (part : List Nat) : List Nat → Bool
  | [] => part.isEmpty
  | c :: rest => part.isPrefixOf (c :: rest) || occursIn part rest

/-- A name is found in a value: among keys, items or members, or as a part of a text. -/
def mentions (d : Data) (name : String) : Except Misuse Bool :=
  match d with
  | .map entries => .ok (Entries.has entries (.text name))
  | .list items => .ok (items.any (·.isText name))
  | .pair first second _ => .ok (first.isText name || second.isText name)
  | .set members _ => .ok (members.any (·.same (.text name)))
  | .recurrence _ => .ok false
  | .text s =>
    .ok (occursIn (Text.Surrogate.points name.toList) (Text.Surrogate.points s.toList))
  | .scalar _ => .error .wrongKind

private def keyAndValue (d : Data) : Except Misuse (Scalar × Data) := do
  match ← d.items with
  | [k, v] => pure (← k.key, v)
  | _ => .error .wrongForm

/-- A mapping, or the mapping that a run of pairs describes. -/
def toEntries : Data → Except Misuse (Entries Data)
  | .map entries => .ok entries
  | d => do
    (← d.items).foldlM (fun entries item => do
      let (k, v) ← keyAndValue item
      pure (Entries.put entries k v)) []

@[simp] theorem toEntries_map (entries : Entries Data) : toEntries (.map entries) = .ok entries :=
  rfl

end Data

/-- The outcome of a reading as an outcome of compiling. -/
def orMisuse {α : Type} (outcome : Except Misuse α) : Except Fault α :=
  outcome.mapError .misuse

@[simp] theorem orMisuse_ok {α : Type} (v : α) : orMisuse (.ok v) = .ok v := rfl

@[simp] theorem orMisuse_error {α : Type} (misuse : Misuse) :
    orMisuse (.error misuse : Except Misuse α) = .error (.misuse misuse) := rfl

end StoreSchema
