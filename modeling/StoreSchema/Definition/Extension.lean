import StoreSchema.Fault
import StoreSchema.Storage.IndexForm

set_option autoImplicit false

namespace StoreSchema

/-- The extension facets gathered for one run. -/
structure Extensions where
  options : Entries (Entries Data) := []
  excluded : Entries Data := []
  additional : Entries (Entries Data) := []
  indexes : Entries (Entries Data) := []
  globalOptions : Entries Data := []
  globalExcluded : Data := .null
  globalAdditional : Entries Data := []
  validatorPaths : List Data := []
deriving Inhabited

namespace Extensions

/-- A step of gathering facets; what was gathered before a misuse stays. -/
abbrev Gather := ExceptT Misuse (StateM Extensions)

/-- A step for a facet of a block, unless the facet is falsy. -/
def onFacet (block : Entries Data) (name : String) (step : Data → Gather Unit) :
    Gather Unit :=
  let facet := Entries.value block name
  if facet.isTruthy then step facet else pure ()

def addValidators (facet : Data) : Gather Unit :=
  modify fun x => { x with validatorPaths := x.validatorPaths ++ [facet] }

def registerGlobal (block : Data) : Gather Unit := do
  if block.isTruthy then
    let block ← block.members
    onFacet block "schema-options" fun facet => do
      let entries ← facet.toEntries
      modify fun x => { x with globalOptions := entries }
    onFacet block "exclude-schema" fun facet =>
      modify fun x => { x with globalExcluded := facet }
    onFacet block "additional-properties" fun facet => do
      let entries ← facet.toEntries
      modify fun x => { x with globalAdditional := entries }
    onFacet block "validators" addValidators

/-- Gathers the block of a definition. Its name is looked at when a facet is kept under it. -/
def registerUnder (name : Except Misuse Scalar) (block : Data) : Gather Unit := do
  if block.isTruthy then
    let block ← block.members
    onFacet block "schema-options" fun facet => do
      let entries ← facet.toEntries
      let name ← name
      modify fun x => { x with options := Entries.put x.options name entries }
    onFacet block "exclude-schema" fun facet => do
      let name ← name
      modify fun x => { x with excluded := Entries.put x.excluded name facet }
    onFacet block "additional-properties" fun facet => do
      let entries ← facet.toEntries
      let name ← name
      modify fun x => { x with additional := Entries.put x.additional name entries }
    onFacet block "index" fun facet => do
      let entries ← facet.toEntries
      let name ← name
      modify fun x => { x with indexes := Entries.put x.indexes name entries }
    onFacet block "validators" addValidators

def register (name : Scalar) (block : Data) : Gather Unit := registerUnder (.ok name) block

def isExcluded (x : Extensions) (name : Scalar) : Bool :=
  if ((Entries.get? x.excluded name).getD .null).isTruthy then true
  else match x.globalExcluded with
    | .list names => names.any (·.isScalar name)
    | .pair first second _ => first.isScalar name || second.isScalar name
    | .set names _ => names.any (·.same name)
    | other => other.isTruthy

def optionsFor (x : Extensions) (name : Scalar) : Entries Data :=
  Entries.overlay x.globalOptions ((Entries.get? x.options name).getD [])

def additionalFor (x : Extensions) (name : Scalar) : Entries Data :=
  Entries.overlay x.globalAdditional ((Entries.get? x.additional name).getD [])

/-- The index of a definition: its `unique` entry is a flag and no field, and there is no index
where no field is left. -/
def indexFor (x : Extensions) (name : Scalar) : Except Fault (Option Index) :=
  let declared := (Entries.get? x.indexes name).getD []
  let fields := Entries.erase declared (.text "unique")
  if fields.isEmpty then .ok none
  else
    (Index.make (Value.ofEntries fields) (Entries.value declared "unique").isTruthy).map some

/-- One extension block laid on another: a mapping facet is merged key by key, any other facet is
replaced. -/
def mergeBlocks (base upper : Data) : Except Misuse (Entries Data) := do
  let base ← base.toEntries
  let upper ← if upper.isTruthy then upper.members else pure []
  pure (upper.foldl (fun merged facet =>
    match (Entries.get? merged facet.1), facet.2 with
    | some (.map below), .map above =>
      Entries.put merged facet.1 (.map (Entries.overlay below above))
    | _, value => Entries.put merged facet.1 value) base)

end Extensions

end StoreSchema
