import StoreSchema.Fault
import StoreSchema.Files.Tree

set_option autoImplicit false

namespace StoreSchema

inductive ModuleMember where
  /-- A function that is defined in another module. -/
  | imported
  | value
  | function
  | class_
  /-- A function without a name of its own. -/
  | anonymous
  /-- An object that can be called. -/
  | callable
deriving DecidableEq

structure ValidatorModule where
  /-- The members in the order of their definitions; of two with one name the later counts. -/
  members : List (String × ModuleMember) := []
  /-- The names that the module exports, if it lists them. -/
  exports : Option (List String) := none
  /-- The reason why running the module fails, if it does. -/
  failure : Option String := none
deriving Inhabited

namespace ValidatorModule

def member? (m : ValidatorModule) (name : String) : Option ModuleMember :=
  m.members.reverse.lookup name

/-- The name that a member goes by when it is called, if it can be called. -/
def functionName? (name : String) : ModuleMember → Option String
  | .imported | .function => some name
  | .anonymous => some "<lambda>"
  | .callable => some ("<callable " ++ name ++ ">")
  | .value | .class_ => none

private def isOwn : ModuleMember → Bool
  | .imported => false
  | _ => true

def candidates (m : ValidatorModule) : List String :=
  match m.exports with
  | some names => names.eraseDups
  | none =>
    let shown := (m.members.map Prod.fst).eraseDups.filter fun name =>
      !name.startsWith "_" && ((m.member? name).map isOwn).getD false
    shown.mergeSort fun a b => decide (a ≤ b)

/-- The validators of a module, each with the name of its function. -/
def validators (m : ValidatorModule) : List (String × String) :=
  m.candidates.filterMap fun name => do
    let member ← m.member? name
    let function ← functionName? name member
    pure (name, function)

end ValidatorModule

/-- The files of a run, and those among them that are validator modules. -/
structure ValidatorLibrary where
  tree : FileTree := {}
  modules : List (List String × ValidatorModule) := []
  /-- The modules that have been loaded. -/
  loaded : List (List String × ValidatorModule) := []
deriving Inhabited

namespace ValidatorLibrary

def placeText (place : List String) : String :=
  (Path.ofPlace place).toString

def write (library : ValidatorLibrary) (path : String) (m : ValidatorModule) :
    ValidatorLibrary :=
  let place := library.tree.resolve (Path.ofString path)
  { library with
    tree := library.tree.write place []
    modules := (place, m) :: library.modules.filter fun entry => entry.1 != place }

/-- The directory that relative module paths are found from. -/
def basePath (library : ValidatorLibrary) (base : Option String) : Path :=
  match base with
  | none | some "" => library.tree.homePath
  | some directory => Path.ofString directory

def expectedPlace (library : ValidatorLibrary) (path : String) (base : Option String) :
    Except FileCause (List String) := do
  let tree := library.tree
  let full := (Path.ofString path).under (library.basePath base)
  FileTree.checkText full.toString
  let place := tree.resolve full
  let isThere ← tree.exists_ (.ofPlace place)
  let name := place.getLastD ""
  pure (if tree.isDirectory place then place ++ ["__init__.py"]
    else if !isThere && Path.suffixOf name == "" then place.dropLast ++ [name ++ ".py"]
    else place)

def resolve (library : ValidatorLibrary) (path : String) (base : Option String) :
    Except Fault (List String) :=
  let found : Except FileCause (List String × Bool) := do
    let place ← library.expectedPlace path base
    pure (place, (← library.tree.exists_ (.ofPlace place)) && library.tree.isFile place)
  match found with
  | .error cause => .error (.file cause)
  | .ok (place, true) => .ok place
  | .ok (place, false) => .error (.validatorModuleAbsent path (placeText place))

def loadAt (library : ValidatorLibrary) (place : List String) :
    Except Fault ValidatorModule × ValidatorLibrary :=
  match library.loaded.lookup place with
  | some m => (.ok m, library)
  | none =>
    if !(place.getLastD "").endsWith ".py" then
      (.error (.validatorModuleForeign (placeText place)), library)
    else
      let m := (library.modules.lookup place).getD {}
      match m.failure with
      | some reason => (.error (.validatorModuleFailed reason (placeText place)), library)
      | none => (.ok m, { library with loaded := (place, m) :: library.loaded })

/-- Loads the module that a path denotes. -/
def load (library : ValidatorLibrary) (path : Data) (base : Option String) :
    Except Fault (List (String × String)) × ValidatorLibrary :=
  match path with
  | .text path =>
    match library.resolve path base with
    | .error fault => (.error fault, library)
    | .ok place =>
      let (outcome, library) := library.loadAt place
      (outcome.map ValidatorModule.validators, library)
  | _ => (.error (.misuse .wrongKind), library)

/-- Validators with others of the same names put in their places. -/
def update (validators more : List (String × String)) : List (String × String) :=
  validators.filter (fun v => !more.any fun w => w.1 == v.1) ++ more

/-- Loads one module after the other, adding to the validators that are there. -/
def loadAll (library : ValidatorLibrary) (base : Option String)
    (validators : List (String × String)) : List Data → Except Fault (List (String × String))
  | [] => .ok validators
  | path :: rest =>
    match library.load path base with
    | (.ok more, library) => loadAll library base (update validators more) rest
    | (.error fault, _) => .error fault

end ValidatorLibrary

end StoreSchema
