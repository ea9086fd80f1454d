import StoreSchema.Yaml.ScalarValue
import StoreSchema.Yaml.Token

set_option autoImplicit false

namespace StoreSchema.Yaml

abbrev NodeNumber := Nat

inductive NodeContent where
  | scalar (text : String)
  | sequence (items : List NodeNumber)
  | mapping (entries : List (NodeNumber × NodeNumber))
deriving Inhabited

def NodeContent.label : NodeContent → String
  | scalar _ => "scalar"
  | sequence _ => "sequence"
  | mapping _ => "mapping"

structure Node where
  tag : String
  content : NodeContent
  start : Mark
deriving Inhabited

abbrev Nodes := Array Node

/-- The start of the tags of the standard types. -/
def standardLead : String := "tag:yaml.org,2002:"

def standardTag (name : String) : String := standardLead ++ name

namespace Nodes

/-- The state of reading nodes: the tokens, the tag handles, and the nodes by their anchors. -/
structure State where
  scan : Scan
  handles : List (String × String) := []
  anchors : List (String × NodeNumber) := []
  nodes : Nodes := #[]
  /-- The number of collections that the next token stands in. -/
  depth : Nat := 0

/-- The number of nested collections beyond which a text is not read. It stands for what is left of
the call stack, as it does for JSON texts. -/
def nestingLimit : Nat := 485

abbrev Step := StateT State (Except Failure)

private def peek : Step Token := do
  let s ← get
  let (token, scan) ← s.scan.next
  set { s with scan }
  pure token

private def advance : Step Unit :=
  modify fun s => { s with scan := s.scan.advance }

private def misplaced (activity : String) (start : Mark) (expected : String) (token : Token) :
    Failure :=
  .during .structure_ activity start (expected ++ " " ++ token.form.label) token.start

/-- The handles that every document knows. -/
def standardHandles : List (String × String) :=
  [("!", "!"), ("!!", standardLead)]

/-! ### One node -/

/-- What stands before a node: its anchor, its tag and where they start. -/
structure Properties where
  anchor : Option String := none
  tag : Option TagText := none
  start : Option Mark := none
  tagStart : Mark := default

private def properties : Step Properties := do
  let first ← peek
  match first.form with
  | .anchor name =>
    advance
    let second ← peek
    match second.form with
    | .tag text =>
      advance
      pure { anchor := some name, tag := some text, start := some first.start,
             tagStart := second.start }
    | _ => pure { anchor := some name, start := some first.start }
  | .tag text =>
    advance
    let found : Properties :=
      { tag := some text, start := some first.start, tagStart := first.start }
    match (← peek).form with
    | .anchor name =>
      advance
      pure { found with anchor := some name }
    | _ => pure found
  | _ => pure {}

private def tagOf (p : Properties) : Step (Option String) := do
  match p.tag with
  | none => pure none
  | some ⟨none, suffix⟩ => pure (some suffix)
  | some ⟨some handle, suffix⟩ =>
    match (← get).handles.lookup handle with
    | some lead => pure (some (lead ++ suffix))
    | none => throw (.during .structure_ "while parsing a node" (p.start.getD default)
        ("found undefined tag handle " ++ Text.Quoted.quoted handle) p.tagStart)

/-- The tag of a scalar: the one given, or the one that its text has if that alone decides. -/
private def scalarTag (tag : Option String) (text : String) (plain : Bool) : String :=
  match tag with
  | none => standardTag (if plain then (PlainType.ofText text).name else "str")
  | some "!" => standardTag (PlainType.ofText text).name
  | some tag => tag

/-- The tag of a collection: the one given, or that of its kind. -/
private def collectionTag (tag : Option String) (name : String) : String :=
  match tag with
  | none | some "!" => standardTag name
  | some tag => tag

private def add (anchor : Option String) (node : Node) : Step NodeNumber := do
  let s ← get
  if let some name := anchor then
    if let some number := s.anchors.lookup name then
      throw (.during .nodes
        ("found duplicate anchor " ++ Text.Quoted.quoted name ++ "; first occurrence")
        (s.nodes.getD number default).start "second occurrence" node.start)
  let number := s.nodes.size
  set { s with
    nodes := s.nodes.push node
    anchors := (anchor.map fun name => (name, number)).toList ++ s.anchors }
  pure number

private def addEmpty (place : Mark) : Step NodeNumber :=
  add none ⟨standardTag "null", .scalar "", place⟩

private def fill (number : NodeNumber) (content : NodeContent) : Step NodeNumber := do
  modify fun s => { s with nodes := s.nodes.modify number fun node => { node with content } }
  pure number

private def nested {α : Type} (step : Step α) : Step α := do
  if (← get).depth = nestingLimit then throw .endless
  modify fun s => { s with depth := s.depth + 1 }
  let result ← step
  modify fun s => { s with depth := s.depth - 1 }
  pure result

private def aliased (name : String) (place : Mark) : Step NodeNumber := do
  match (← get).anchors.lookup name with
  | some number => pure number
  | none => throw (.alone .nodes ("found undefined alias " ++ Text.Quoted.quoted name) place)

private def endsBlockEntry : TokenForm → Bool
  | .key | .value | .blockEnd => true
  | _ => false

private def endsItem (indented : Bool) : TokenForm → Bool
  | .blockEntry | .blockEnd => true
  | .key | .value => !indented
  | _ => false

private def endsFlowEntry (closing : TokenForm) : TokenForm → Bool
  | .flowEntry => true
  | .flowSequenceEnd => (closing matches .flowSequenceEnd)
  | .flowMappingEnd => (closing matches .flowMappingEnd)
  | _ => false

private def exhausted : Failure := .endless

mutual
private def node (block dashes : Bool) : Nat → Step NodeNumber
  | 0 => throw exhausted
  | fuel + 1 => do
    let first ← peek
    match first.form with
    | .alias_ name =>
      advance
      aliased name first.start
    | _ =>
      let p ← properties
      let tag ← tagOf p
      let token ← peek
      let start := p.start.getD token.start
      let sequence := fun (items : Mark → Step (List NodeNumber)) => do
        let number ← add p.anchor ⟨collectionTag tag "seq", .sequence [], start⟩
        fill number (.sequence (← nested (items token.start)))
      let mapping := fun (entries : Mark → Step (List (NodeNumber × NodeNumber))) => do
        let number ← add p.anchor ⟨collectionTag tag "map", .mapping [], start⟩
        fill number (.mapping (← nested (entries token.start)))
      let bare : Step NodeNumber := do
        if p.anchor.isSome || tag.isSome then
          add p.anchor ⟨scalarTag tag "" true, .scalar "", start⟩
        else
          throw (misplaced ("while parsing a " ++ (if block then "block" else "flow") ++ " node")
            start "expected the node content, but found" token)
      match token.form with
      | .scalar text plain =>
        advance
        add p.anchor ⟨scalarTag tag text plain, .scalar text, start⟩
      | .flowSequenceStart =>
        sequence fun mark => do advance; flowItems mark true [] fuel
      | .flowMappingStart =>
        mapping fun mark => do advance; flowEntries mark true [] fuel
      | .blockEntry =>
        if dashes then sequence fun mark => blockItems mark false [] fuel else bare
      | .blockSequenceStart =>
        if block then sequence fun mark => do advance; blockItems mark true [] fuel else bare
      | .blockMappingStart =>
        if block then mapping fun mark => do advance; blockEntries mark [] fuel else bare
      | _ => bare

/-- A node, or an empty scalar if the next token ends its place, which starts where the token
before stops. -/
private def nodeUnless (ends : TokenForm → Bool) (block dashes : Bool) (before : Token) :
    Nat → Step NodeNumber
  | 0 => throw exhausted
  | fuel + 1 => do
    if ends (← peek).form then addEmpty before.stop else node block dashes fuel

/-- The items of a sequence of dashes; the block's end is passed unless the dashes stand in a
mapping without indentation. -/
private def blockItems (start : Mark) (indented : Bool) (read : List NodeNumber) :
    Nat → Step (List NodeNumber)
  | 0 => throw exhausted
  | fuel + 1 => do
    let token ← peek
    match token.form with
    | .blockEntry =>
      advance
      let item ← nodeUnless (endsItem indented) true false token fuel
      blockItems start indented (item :: read) fuel
    | form =>
      if indented then
        if !(form matches .blockEnd) then
          throw (misplaced "while parsing a block collection" start
            "expected <block end>, but found" token)
        advance
      pure read.reverse

private def blockEntries (start : Mark) (read : List (NodeNumber × NodeNumber)) :
    Nat → Step (List (NodeNumber × NodeNumber))
  | 0 => throw exhausted
  | fuel + 1 => do
    let token ← peek
    match token.form with
    | .key =>
      advance
      let key ← nodeUnless endsBlockEntry true true token fuel
      let value ← entryValue endsBlockEntry true fuel
      blockEntries start ((key, value) :: read) fuel
    | .blockEnd =>
      advance
      pure read.reverse
    | _ =>
      throw (misplaced "while parsing a block mapping" start
        "expected <block end>, but found" token)

/-- The value of an entry; an empty scalar if there is no colon. -/
private def entryValue (ends : TokenForm → Bool) (block : Bool) : Nat → Step NodeNumber
  | 0 => throw exhausted
  | fuel + 1 => do
    let token ← peek
    match token.form with
    | .value =>
      advance
      nodeUnless ends block block token fuel
    | _ => addEmpty token.start

/-- The items between brackets; one that is a key is a mapping of one entry. -/
private def flowItems (start : Mark) (first : Bool) (read : List NodeNumber) :
    Nat → Step (List NodeNumber)
  | 0 => throw exhausted
  | fuel + 1 => do
    let token ← peek
    if token.form matches .flowSequenceEnd then
      advance
      pure read.reverse
    else
      if !first then
        if !(token.form matches .flowEntry) then
          throw (misplaced "while parsing a flow sequence" start
            "expected ',' or ']', but got" token)
        advance
      let token ← peek
      match token.form with
      | .flowSequenceEnd =>
        advance
        pure read.reverse
      | .key =>
        let item ← add none ⟨standardTag "map", .mapping [], token.start⟩
        advance
        let ends := fun form => (form matches .value) || endsFlowEntry .flowSequenceEnd form
        let key ← nodeUnless ends false false token fuel
        let value ← entryValue (endsFlowEntry .flowSequenceEnd) false fuel
        let item ← fill item (.mapping [(key, value)])
        flowItems start false (item :: read) fuel
      | _ =>
        let item ← node false false fuel
        flowItems start false (item :: read) fuel

/-- The entries between braces; one without a colon has an empty value. -/
private def flowEntries (start : Mark) (first : Bool) (read : List (NodeNumber × NodeNumber)) :
    Nat → Step (List (NodeNumber × NodeNumber))
  | 0 => throw exhausted
  | fuel + 1 => do
    let token ← peek
    if token.form matches .flowMappingEnd then
      advance
      pure read.reverse
    else
      if !first then
        if !(token.form matches .flowEntry) then
          throw (misplaced "while parsing a flow mapping" start "expected ',' or '\x7d', but got"
            token)
        advance
      let token ← peek
      match token.form with
      | .flowMappingEnd =>
        advance
        pure read.reverse
      | .key =>
        advance
        let ends := fun form => (form matches .value) || endsFlowEntry .flowMappingEnd form
        let key ← nodeUnless ends false false token fuel
        let value ← entryValue (endsFlowEntry .flowMappingEnd) false fuel
        flowEntries start false ((key, value) :: read) fuel
      | _ =>
        let key ← node false false fuel
        let value ← addEmpty (← peek).start
        flowEntries start false ((key, value) :: read) fuel
end

/-! ### The document -/

/-- The directives before a document: one version at most, which has to be 1, and a handle at most
once. -/
private def directives (versioned : Bool) (handles : List (String × String)) :
    Nat → Step (List (String × String))
  | 0 => throw exhausted
  | fuel + 1 => do
    let token ← peek
    let refuse := fun (problem : String) => Failure.alone .structure_ problem token.start
    match token.form with
    | .directive (.version major) =>
      advance
      if versioned then throw (refuse "found duplicate YAML directive")
      if major != 1 then
        throw (refuse "found incompatible YAML document (version 1.* is required)")
      directives true handles fuel
    | .directive (.tagHandle handle lead) =>
      advance
      if (handles.lookup handle).isSome then
        throw (refuse ("duplicate tag handle " ++ Text.Quoted.quoted handle))
      directives versioned (handles ++ [(handle, lead)]) fuel
    | .directive .other =>
      advance
      directives versioned handles fuel
    | _ => pure handles

private def skipEnds : Nat → Step Unit
  | 0 => throw exhausted
  | fuel + 1 => do
    match (← peek).form with
    | .documentEnd =>
      advance
      skipEnds fuel
    | _ => pure ()

private def documentStart (fuel : Nat) : Step Unit := do
  let handles ← directives false [] fuel
  let token ← peek
  match token.form with
  | .documentStart => advance
  | _ => throw (.alone .structure_
      ("expected '<document start>', but found " ++ token.form.label) token.start)
  modify fun s => { s with handles := handles ++ standardHandles }

private def explicitDocument (fuel : Nat) : Step NodeNumber := do
  documentStart fuel
  let token ← peek
  match token.form with
  | .directive _ | .documentStart | .documentEnd | .streamEnd => addEmpty token.start
  | _ => node true false fuel

private def documentEnd : Step Unit := do
  match (← peek).form with
  | .documentEnd => advance
  | _ => pure ()

private def noMore (root : NodeNumber) (fuel : Nat) : Step Unit := do
  documentEnd
  skipEnds fuel
  let token ← peek
  match token.form with
  | .streamEnd => pure ()
  | _ =>
    documentStart fuel
    throw (.during .nodes "expected a single document in the stream"
      ((← get).nodes.getD root default).start "but found another document" token.start)

private def document (fuel : Nat) : Step (Option NodeNumber) := do
  match (← peek).form with
  | .streamEnd => pure none
  | .directive _ | .documentStart =>
    let root ← explicitDocument fuel
    noMore root fuel
    pure (some root)
  | _ =>
    modify fun s => { s with handles := standardHandles }
    let root ← node true false fuel
    noMore root fuel
    pure (some root)

/-- The nodes of the only document of a text and the number of its root, if it has one. -/
def ofText (text : String) : Except Failure (Nodes × Option NodeNumber) := do
  let scan := Scan.ofText text
  let (root, state) ← (document (8 * scan.limit + 8)).run { scan }
  pure (state.nodes, root)

end Nodes

end StoreSchema.Yaml
