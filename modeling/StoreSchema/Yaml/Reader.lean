import StoreSchema.Data.Basic
import StoreSchema.Text.Encoding
import StoreSchema.Yaml.Node
import StoreSchema.Yaml.ScalarValue

set_option autoImplicit false

namespace StoreSchema.Yaml

inductive Object where
  | scalar (value : Scalar)
  | list (items : List NodeNumber)
  | map (entries : List (Scalar × NodeNumber))
  | set (members : List Scalar)
  /-- A list of pairs. -/
  | pairs (items : List (NodeNumber × NodeNumber))
deriving Inhabited

inductive CollectionKind where
  | seq
  | map
  | set
  | omap
  | pairs
deriving DecidableEq

/-- The kind of collection that a tag asks for. -/
def CollectionKind.ofTag? (tag : String) : Option CollectionKind :=
  [(standardTag "seq", seq), (standardTag "map", map), (standardTag "set", set),
    (standardTag "omap", omap), (standardTag "pairs", pairs)].lookup tag

/-- A collection of a kind that is not filled yet. -/
def CollectionKind.vacant : CollectionKind → Object
  | seq | omap | pairs => .list []
  | map => .map []
  | set => .set []

namespace Object

/-- The state of making objects: the number of the text, the nodes, the objects made so far by the
numbers of their nodes, and the nodes that wait to be filled. -/
structure State where
  source : Nat
  nodes : Nodes
  made : Array (Option Object)
  waiting : List (NodeNumber × CollectionKind) := []

abbrev Step := StateT State (Except Failure)

private def nodeAt (number : NodeNumber) : Step Node := do
  pure ((← get).nodes.getD number default)

private def entriesAt (number : NodeNumber) : Step (List (NodeNumber × NodeNumber)) := do
  match (← nodeAt number).content with
  | .mapping entries => pure entries
  | _ => pure []

private def change (number : NodeNumber) (f : Node → Node) : Step Unit :=
  modify fun s => { s with nodes := s.nodes.modify number f }

private def keep (number : NodeNumber) (object : Object) : Step Unit :=
  modify fun s => { s with made := s.made.set! number (some object) }

private def wrongNode (problem : String) (node : Node) : Failure :=
  .alone .values problem node.start

/-! ### Scalars -/

private def textAt (number : NodeNumber) : Nat → Step String
  | 0 => throw .endless
  | fuel + 1 => do
    let node ← nodeAt number
    match node.content with
    | .scalar text => pure text
    | .mapping entries => do
      let nodes := (← get).nodes
      match entries.find? fun e => (nodes.getD e.1 default).tag == standardTag "value" with
      | some e => textAt e.2 fuel
      | none => throw (wrongNode "expected a scalar node, but found mapping" node)
    | .sequence _ => throw (wrongNode "expected a scalar node, but found sequence" node)

/-- The first run of code points beyond ASCII in a row: its place and the run. -/
private def beyondAscii (s : List Nat) : Nat × List Nat :=
  let before := s.takeWhile (· < 128)
  (before.length, (s.drop before.length).takeWhile (128 ≤ ·))

private def asciiFault (s : List Nat) : String :=
  match beyondAscii s with
  | (place, [point]) => "'ascii' codec can't encode character '" ++
      String.ofList (Text.Quoted.numbered point) ++ "' in position " ++ toString place ++
      ": ordinal not in range(128)"
  | (place, run) => "'ascii' codec can't encode characters in position " ++ toString place ++ "-" ++
      toString (place + run.length - 1) ++ ": ordinal not in range(128)"

private def bytesOf (text : String) (node : Node) : Except Failure (List UInt8) :=
  let points := Text.Surrogate.points text.toList
  if (beyondAscii points).2 != [] then
    .error (wrongNode ("failed to convert base64 data into ascii: " ++ asciiFault points) node)
  else match Text.Base64.decode text with
    | .ok bytes => .ok bytes
    | .error fault =>
      .error (wrongNode ("failed to decode base64 data: " ++ fault.message) node)

private def scalarOf (number : NodeNumber) (node : Node) : Step Scalar := do
  let types := ["null", "bool", "int", "float", "binary", "timestamp", "str"]
  match types.find? fun name => standardTag name == node.tag with
  | none =>
    throw (wrongNode ("could not determine a constructor for the tag " ++
      Text.Quoted.quoted node.tag) node)
  | some name =>
    let text ← textAt number ((← get).nodes.size + 1)
    let ofExcept := fun (value : Except Misuse Scalar) => value.mapError Failure.misused
    match name with
    | "null" => pure .null
    | "bool" => ofExcept ((ScalarValue.bool text).map .bool)
    | "int" => ofExcept ((ScalarValue.int text).map .int)
    | "float" => ofExcept ((ScalarValue.float text).map .float)
    | "binary" => (bytesOf text node).map .bytes
    | "timestamp" =>
      match node.content with
      | .scalar _ =>
        let origin := [number, (← get).source]
        ofExcept ((ScalarValue.stamp text).map fun value => .stamp value origin)
      | _ => throw (.misused .wrongKind)
    | _ => pure (.text text)

private def make (number : NodeNumber) : Step Object := do
  match (← get).made.getD number none with
  | some object => pure object
  | none =>
    let node ← nodeAt number
    let object ← match CollectionKind.ofTag? node.tag with
      | some kind => do
        modify fun s => { s with waiting := s.waiting ++ [(number, kind)] }
        pure kind.vacant
      | none => Object.scalar <$> scalarOf number node
    keep number object
    pure object

/-! ### Mappings -/

private def whileMapping : String := "while constructing a mapping"

/-- Lays the entries of the mappings under merge keys in front of those of a mapping; `merged` are
the entries of those met so far. Of several mappings in a list the first comes last and wins. The
key for the default value becomes a text. -/
private def flatten (number : NodeNumber) (place : Nat) (merged : List (NodeNumber × NodeNumber)) :
    Nat → Step Unit
  | 0 => throw .endless
  | fuel + 1 => do
    let node ← nodeAt number
    let entries ← entriesAt number
    match entries[place]? with
    | none =>
      if !merged.isEmpty then
        change number fun node => { node with content := .mapping (merged ++ entries) }
    | some (key, value) =>
      let tag := (← nodeAt key).tag
      if tag == standardTag "merge" then
        change number fun node => { node with content := .mapping (entries.eraseIdx place) }
        let under ← nodeAt value
        let refuse := fun (expected : String) (found : Node) =>
          Failure.during .values whileMapping node.start
            (expected ++ " for merging, but found " ++ found.content.label) found.start
        match under.content with
        | .mapping _ =>
          flatten value 0 [] fuel
          flatten number place (merged ++ (← entriesAt value)) fuel
        | .sequence items =>
          let parts ← items.mapM fun item => do
            let inner ← nodeAt item
            match inner.content with
            | .mapping _ => do
              flatten item 0 [] fuel
              entriesAt item
            | _ => throw (refuse "expected a mapping" inner)
          flatten number place (merged ++ parts.reverse.flatten) fuel
        | .scalar _ => throw (refuse "expected a mapping or list of mappings" under)
      else
        if tag == standardTag "value" then
          change key fun node => { node with tag := standardTag "str" }
        flatten number (place + 1) merged fuel

private def mappingEntries (number : NodeNumber) : Step (List (Scalar × NodeNumber)) := do
  let node ← nodeAt number
  match node.content with
  | .mapping _ => do
    let size := (← get).nodes.foldl (fun n node =>
      match node.content with
      | .mapping entries => n + entries.length + 2
      | _ => n + 1) 1
    flatten number 0 [] (size * size)
    (← entriesAt number).foldlM (fun (read : Entries NodeNumber) (key, value) => do
      match ← make key with
      | .scalar k =>
        let _ ← make value
        pure (Entries.put read k value)
      | _ => throw (.during .values whileMapping node.start "found unhashable key"
          (← nodeAt key).start)) []
  | content => throw (wrongNode ("expected a mapping node, but found " ++ content.label) node)

/-! ### Filling -/

private def pairsOf (number : NodeNumber) (activity : String) :
    Step (List (NodeNumber × NodeNumber)) := do
  let node ← nodeAt number
  let refuse := fun (problem : String) (found : Node) =>
    Failure.during .values activity node.start problem found.start
  match node.content with
  | .sequence items =>
    items.mapM fun item => do
      let inner ← nodeAt item
      match inner.content with
      | .mapping [(key, value)] => do
        let _ ← make key
        let _ ← make value
        pure (key, value)
      | .mapping entries =>
        throw (refuse ("expected a single mapping item, but found " ++ toString entries.length ++
          " items") inner)
      | content =>
        throw (refuse ("expected a mapping of length 1, but found " ++ content.label) inner)
  | content => throw (refuse ("expected a sequence, but found " ++ content.label) node)

private def fill (number : NodeNumber) (kind : CollectionKind) : Step Unit := do
  match kind with
  | .seq =>
    let node ← nodeAt number
    match node.content with
    | .sequence items =>
      items.forM fun item => do let _ ← make item
      keep number (.list items)
    | content => throw (wrongNode ("expected a sequence node, but found " ++ content.label) node)
  | .map => keep number (.map (← mappingEntries number))
  | .set => keep number (.set (Entries.keys (← mappingEntries number)))
  | .omap => keep number (.pairs (← pairsOf number "while constructing an ordered map"))
  | .pairs => keep number (.pairs (← pairsOf number "while constructing pairs"))

private def fillAll : Nat → Step Unit
  | 0 => pure ()
  | fuel + 1 => do
    match (← get).waiting with
    | [] => pure ()
    | (number, kind) :: rest =>
      modify fun s => { s with waiting := rest }
      fill number kind
      fillAll fuel

/-- The objects of all nodes that are reached from a root. -/
def ofNodes (source : Nat) (nodes : Nodes) (root : NodeNumber) :
    Except Failure (Array (Option Object)) := do
  let start : State := { source, nodes, made := .replicate nodes.size none }
  let step : Step Unit := do
    let _ ← make root
    fillAll (nodes.size + 1)
  let (_, state) ← step.run start
  pure state.made

/-! ### Data -/

private def setMembers (members : List Scalar) : List Scalar :=
  if members.all fun s => s matches .int _ then
    members.mergeSort fun a b => decide (a.toInt?.getD 0 ≤ b.toInt?.getD 0)
  else members

private def at_ (objects : Array (Option Object)) (number : NodeNumber) : Object :=
  (objects.getD number none).getD default

private structure Gathered where
  data : Data
  recurs : Bool := false

/-- A step of gathering data. The data of a node in which no node above it recurs is gathered once,
however often the node is met. -/
private abbrev Gathering := StateM (Array (Option Data))

private def gather (source : Nat) (objects : Array (Option Object)) (above : List NodeNumber)
    (number : NodeNumber) : Nat → Gathering Gathered
  | 0 => pure { data := .null }
  | fuel + 1 => do
    if let some data := (← get).getD number none then return { data }
    let inner := fun (part : NodeNumber) => gather source objects (number :: above) part fuel
    let again := fun (isMap : Bool) => ({ data := .recurrence isMap, recurs := true } : Gathered)
    let finish := fun (gathered : Gathered) => do
      if !gathered.recurs then modify (·.set! number (some gathered.data))
      pure gathered
    let isAbove := above.contains number
    match at_ objects number with
    | .scalar value => finish { data := .scalar value }
    | .list items =>
      if isAbove then pure (again false)
      else do
        let parts ← items.mapM inner
        finish { data := .list (parts.map Gathered.data), recurs := parts.any Gathered.recurs }
    | .map entries =>
      if isAbove then pure (again true)
      else do
        let parts ← entries.mapM fun e => inner e.2
        finish
          { data := .map (List.zipWith (fun e part => (e.1, part.data)) entries parts)
            recurs := parts.any Gathered.recurs }
    | .set members => finish { data := .set (setMembers members) [number, source] }
    | .pairs items =>
      if isAbove then pure (again false)
      else do
        let parts ← items.mapM fun e => do pure (← inner e.1, ← inner e.2)
        finish
          { data := .list (parts.mapIdx fun k e => .pair e.1.data e.2.data [number, k, source])
            recurs := parts.any fun e => e.1.recurs || e.2.recurs }

/-- The data of a root; a node that is met inside itself recurs. -/
def toData (source : Nat) (objects : Array (Option Object)) (root : NodeNumber) : Data :=
  ((gather source objects [] root (objects.size + 1)).run (.replicate objects.size none)).1.data

/-! ### Shared mappings -/

private def parts : Object → List NodeNumber
  | .scalar _ | .set _ => []
  | .list items => items
  | .map entries => entries.map Prod.snd
  | .pairs items => items.flatMap fun e => [e.1, e.2]

private def inner (objects : Array (Option Object)) (root : NodeNumber) : List NodeNumber :=
  let entries := fun (number : NodeNumber) =>
    match at_ objects number with
    | .map entries => entries.map Prod.snd
    | _ => []
  ((entries root).flatMap entries).filter fun number => at_ objects number matches .map _

private def markAbove (objects : Array (Option Object)) (marks : Array Bool) : Nat → Array Bool
  | 0 => marks
  | fuel + 1 =>
    let next := (List.range objects.size).reverse.foldl (fun (marks : Array Bool) number =>
      if (parts (at_ objects number)).any fun part => marks.getD part false then
        marks.set! number true
      else marks) marks
    if next == marks then marks else markAbove objects next fuel

/-- The places at which mappings are found in a node, by the numbers of their nodes, looking only
into marked nodes; `place` is that of the node itself, from its end. -/
private def mappingPlaces (objects : Array (Option Object)) (marks : Array Bool)
    (above : List NodeNumber) (place : List Nat) (number : NodeNumber) :
    Nat → List (NodeNumber × Place)
  | 0 => []
  | fuel + 1 =>
    let inside := fun (parts : List NodeNumber) (place : List Nat) =>
      (parts.mapIdx fun k part =>
        mappingPlaces objects marks (number :: above) (k :: place) part fuel).flatten
    if above.contains number || !marks.getD number false then []
    else match at_ objects number with
      | .list items => inside items place
      | .map entries => (number, place.reverse) :: inside (entries.map Prod.snd) place
      | .pairs items => (items.mapIdx fun k e => inside [e.1, e.2] (k :: place)).flatten
      | _ => []

/-- The places that hold one mapping, for those among the entries of the entries of a root. -/
def sharing (objects : Array (Option Object)) (root : NodeNumber) : Sharing :=
  let shared := inner objects root
  let marks := shared.foldl (fun (marks : Array Bool) number => marks.set! number true)
    (.replicate objects.size false)
  let marks := markAbove objects marks (objects.size + 1)
  let places := mappingPlaces objects marks [] [] root (objects.size + 1)
  (((List.range objects.size).filter shared.contains).map fun number =>
    places.filterMap fun e => if e.1 == number then some e.2 else none).filter fun group =>
      decide (1 < group.length)

end Object

def isAllowed (c : Char) : Bool :=
  c == '\t' || c == '\n' || c == '\r' || ('\x20' ≤ c && c ≤ '\x7e') || c == '\u0085' ||
    ('\u00a0' ≤ c && c ≤ '\ud7ff') || ('\ue000' ≤ c && c ≤ '\ufffd') || 0x10000 ≤ c.toNat

/-- What a text is read as. -/
structure Loaded where
  data : Data
  /-- The objects that the data is made of, by the numbers of their nodes. -/
  objects : Array (Option Object) := #[]
  /-- The number of the root. -/
  root : NodeNumber := 0

/-- The places in what is read that hold one mapping. -/
def Loaded.sharing (loaded : Loaded) : Sharing := Object.sharing loaded.objects loaded.root

/-- What a text is read as; null for a text without a document. The origins of what is read tell
texts with different numbers apart. -/
def read (text : String) (source : Nat) : Except Failure Loaded := do
  let chars := text.toList
  let allowed := chars.takeWhile isAllowed
  if let some c := chars[allowed.length]? then
    throw (.refused (.character c.toNat (Text.Surrogate.count allowed)))
  match ← Nodes.ofText text with
  | (nodes, some root) =>
    let objects ← Object.ofNodes source nodes root
    pure { data := Object.toData source objects root, objects, root }
  | (_, none) => pure { data := .null }

end StoreSchema.Yaml
