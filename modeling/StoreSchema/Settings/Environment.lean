import StoreSchema.Json.Reader
import StoreSchema.Settings.Basic
import StoreSchema.Settings.Variables

set_option autoImplicit false

namespace StoreSchema

/-- What a setting is given as: a text, JSON, or a section of further settings. -/
inductive SettingShape where
  | text
  | json
  | section_ (fields : List (String × SettingShape))

namespace SettingShape

def all : List (String × SettingShape) :=
  [("log_level", .text),
    ("compiler", .section_
      [("extension_key", .text), ("legacy_extension_key", .text), ("reserved_fields", .json),
        ("detect_cycles", .text), ("validators_base_dir", .text)]),
    ("backend", .section_
      [("backend", .text),
        ("memory", .section_ [("replace_models", .text)]),
        ("mongo", .section_
          [("uri", .text), ("database", .text), ("server_selection_timeout_ms", .text),
            ("create_indexes", .text), ("apply_validation", .text)])])]

def field? (shape : SettingShape) (name : String) : Option SettingShape :=
  match shape with
  | .section_ fields => fields.lookup name
  | _ => none

def at? (shape : SettingShape) : List String → Option SettingShape
  | [] => some shape
  | name :: rest => (shape.field? name).bind fun inner => inner.at? rest

mutual
/-- The data with the names of settings as they are declared, in whatever case they are given. -/
def rename (shape : SettingShape) : Data → Data
  | .map entries =>
    match shape with
    | .section_ fields => .map (Entries.overlay [] (renameEntries fields entries))
    | _ => .map entries
  | d => d

def renameEntries (fields : List (String × SettingShape)) :
    List (Scalar × Data) → List (Scalar × Data)
  | [] => []
  | (key, d) :: rest =>
    let name := match key with
      | .text name => Text.LowerCase.lower name
      | _ => ""
    let entry := match fields.lookup name with
      | some shape => (.text name, rename shape d)
      | none => (key, d)
    entry :: renameEntries fields rest
end

end SettingShape

namespace Entries

/-- The entries of `upper` laid on those of `es`; where both have a mapping these are merged in the
same way, down to a depth. -/
def deepOverlay (es upper : Entries Data) : Nat → Entries Data
  | 0 => overlay es upper
  | depth + 1 => upper.foldl (fun acc e =>
    match get? acc e.1, e.2 with
    | some (.map below), .map above => put acc e.1 (.map (deepOverlay below above depth))
    | _, value => put acc e.1 value) es

/-- Puts a value under a row of names, opening mappings on the way. A weak value does not replace
another, unless that is an empty mapping. -/
def putAt (es : Entries Data) (names : List String) (value : Data) (weak : Bool) : Entries Data :=
  match names with
  | [] => es
  | [name] =>
    match get? es (.text name) with
    | none | some (.map []) => put es (.text name) value
    | some _ => if weak then es else put es (.text name) value
  | name :: rest =>
    match get? es (.text name) with
    | none => put es (.text name) (.map (putAt [] rest value weak))
    | some (.map inner) => put es (.text name) (.map (putAt inner rest value weak))
    | some _ => es

end Entries

namespace Settings

private def namesBelow (name : String) : SettingShape → List String
  | .section_ fields => name :: fieldNames name fields
  | _ => [name]
where
  /-- The names of the variables for the settings of a section. -/
  fieldNames (name : String) : List (String × SettingShape) → List String
    | [] => []
    | (field, shape) :: rest =>
      namesBelow (name ++ "__" ++ field) shape ++ fieldNames name rest

def variableNames : List String :=
  let form : VariableForm := {}
  SettingShape.all.flatMap fun setting =>
    (namesBelow (form.lead.getD "" ++ setting.1) setting.2).map String.toUpper

private def sectionDepth : Nat := 64

private def ofJson (text : String) : Except Fault Data :=
  match Json.read text with
  | .ok d => .ok d
  | .error .nestedTooDeep => .error .endless
  | .error _ => .error .variableUnreadable

private def isJson : Option SettingShape → Bool
  | none | some .text => false
  | some _ => true

/-- The data of a variable for a setting of a given shape, and whether it is weak; null if the
variable has no value. -/
private def ofVariable (shape : Option SettingShape) (value : VariableValue) :
    Except Fault (Data × Bool) :=
  match value with
  | .nothing => .ok (.null, false)
  | .text text =>
    if isJson shape && text != "" then (ofJson text).map (·, false) else .ok (.text text, false)
  | .nullWord text =>
    if isJson shape && text != "" then (ofJson text).map (·, false) else .ok (.null, true)

/-- The fields of a section that variables name one by one; `name` is the variable of the section
as a whole. -/
private def explode (form : VariableForm) (name : String) (shape : SettingShape)
    (environment : List (String × VariableValue)) : Except Fault (Entries Data) :=
  match form.joint with
  | none => .ok []
  | some joint =>
    let lead := name ++ joint
    environment.foldlM (fun (found : Entries Data) v => do
      if lead.toList.isPrefixOf v.1.toList then
        let names := form.split joint (String.ofList (v.1.toList.drop lead.length))
        let (value, weak) ← ofVariable (shape.at? names) v.2
        pure (Entries.putAt found names value weak)
      else pure found) []

private def ofVariables (form : VariableForm) (name : String) (shape : SettingShape)
    (environment : List (String × VariableValue)) : Except Fault (Option Data) := do
  let renamed := fun (d : Data) => if form.exactCase then d else shape.rename d
  let own := environment.lookup name
  match shape, own with
  | _, some (.nullWord _) => pure (some .null)
  | .text, some (.text value) => pure (some (.text value))
  | .text, _ => pure none
  | _, some (.text text) =>
    match ← ofJson text with
    | .map entries =>
      let found ← explode form name shape environment
      pure (some (renamed (.map (Entries.deepOverlay entries found sectionDepth))))
    | .null => pure none
    | d => pure (some d)
  | _, _ =>
    let found ← explode form name shape environment
    pure (if found.isEmpty then none else some (renamed (.map found)))

def ofEnvironment (form : VariableForm) (environment : List (String × Option String)) :
    Except Fault (Entries Data) := do
  let some lead := form.lead | throw .variableUnreadable
  let environment := form.normalized environment
  SettingShape.all.foldlM (fun (found : Entries Data) setting => do
    match ← ofVariables form (form.cased (lead ++ setting.1)) setting.2 environment with
    | some d => pure (Entries.put found (.text setting.1) d)
    | none => pure found) []

/-- The given settings by their declared names, in whatever case they are given; of two that are one
setting the first counts. -/
private def declared (form : VariableForm) (given : Entries Data) : Entries Data :=
  if form.exactCase then given
  else given.foldl (fun acc e =>
    match e.1 with
    | .text name =>
      let lower := Text.LowerCase.lower name
      if (SettingShape.all.lookup lower).isNone then Entries.put acc e.1 e.2
      else if Entries.has acc (.text lower) then acc
      else Entries.put acc (.text lower) e.2
    | key => Entries.put acc key e.2) []

/-- Settings from what is given, from the environment and from files that bind variables; `readFile`
gives the text of a file, if there is one. -/
def load (given : Entries Data) (environment : List (String × String))
    (readFile : String → Except Fault (Option String)) : Except Fault Settings := do
  let form ← orMisuse (VariableForm.ofEntries given)
  let environment := environment.map fun v => (v.1, some v.2)
  let texts ← form.files.mapM readFile
  let inFiles := texts.flatMap fun text =>
    (text.map (EnvironmentFile.parse environment)).getD []
  let fromEnvironment ← ofEnvironment form environment
  let fromFiles ← ofEnvironment form inFiles
  let below := Entries.deepOverlay fromFiles fromEnvironment sectionDepth
  let given := declared form (VariableForm.without given)
  ofEntries (Entries.deepOverlay below given sectionDepth)

end Settings

end StoreSchema
