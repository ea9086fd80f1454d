import StoreSchema.Fault
import StoreSchema.Text.CodePoints
import StoreSchema.Text.Encoding

set_option autoImplicit false

namespace StoreSchema

/-- A path as it was given, in parts. -/
structure Path where
  /-- How many slashes a path from the root starts with: one or two. A path from elsewhere starts
  with none. -/
  lead : Nat
  parts : List String
deriving DecidableEq, Inhabited

namespace Path

def absolute (path : Path) : Bool := path.lead != 0

def ofPlace (place : List String) : Path := ⟨1, place⟩

/-- The path that a text denotes. Two slashes at its start are kept, more than two count as one. -/
def ofString (s : String) : Path :=
  let slashes := (s.toList.takeWhile (· == '/')).length
  ⟨if slashes ≤ 2 then slashes else 1,
    (s.splitOn "/").filter fun part => part != "" && part != "."⟩

def toString (path : Path) : String :=
  let names := "/".intercalate path.parts
  if path.absolute then String.ofList (List.replicate path.lead '/') ++ names
  else if names == "" then "." else names

def under (path directory : Path) : Path :=
  if path.absolute then path else ⟨directory.lead, directory.parts ++ path.parts⟩

def collapse (parts : List String) : List String :=
  (parts.foldl (fun reversed part =>
    if part == ".." then reversed.tail else part :: reversed) []).reverse

def name (path : Path) : String :=
  path.parts.getLastD ""

/-- The end of a name from its last dot on, unless the dot is the first or last character. -/
def suffixOf (name : String) : String :=
  let reversed := name.toList.reverse
  let ending := reversed.takeWhile (· != '.')
  let before := reversed.drop (ending.length + 1)
  if ending.isEmpty || ending.length == reversed.length || before.isEmpty then ""
  else String.ofList ('.' :: ending.reverse)

def suffix (path : Path) : String :=
  suffixOf path.name

def parent (path : Path) : Path :=
  { path with parts := path.parts.dropLast }

end Path

/-- Files by the names that lead to them from the root. -/
structure FileTree where
  /-- The names that lead to the working directory. -/
  home : List String := []
  /-- Directories that are there although no file lies in them. -/
  directories : List (List String) := []
  files : List (List String × List UInt8) := []
deriving Inhabited

namespace FileTree

def homePath (tree : FileTree) : Path := .ofPlace tree.home

def isFile (tree : FileTree) (place : List String) : Bool :=
  tree.files.any fun file => file.1 == place

/-- A place is a directory: the working directory, another that is there, one that such a one lies
in, or one that holds a file. -/
def isDirectory (tree : FileTree) (place : List String) : Bool :=
  place.isPrefixOf tree.home || tree.directories.any (place.isPrefixOf ·) ||
    tree.files.any fun file => file.1 != place && place.isPrefixOf file.1

def contains (tree : FileTree) (place : List String) : Bool :=
  tree.isFile place || tree.isDirectory place

def write (tree : FileTree) (place : List String) (bytes : List UInt8) : FileTree :=
  { tree with files := tree.files.filter (fun file => file.1 != place) ++ [(place, bytes)] }

/-- The place of a path from the working directory, every `..` taken back. -/
def resolve (tree : FileTree) (path : Path) : List String :=
  Path.collapse (path.under tree.homePath).parts

/-- A step into a place fails unless the place is a directory. -/
def enter (tree : FileTree) (place : List String) : Except FileCause Unit :=
  if tree.isDirectory place then .ok ()
  else if tree.isFile place then .error .notDirectory
  else .error .absent

def longestName : Nat := 255

def longestPath : Nat := 4095

/-- The place that one name leads to from a place, which has to be a directory. -/
def advance (tree : FileTree) (place : List String) (name : String) :
    Except FileCause (List String) := do
  tree.enter place
  if longestName < name.utf8ByteSize then throw .tooLong
  pure (if name == ".." then place.dropLast else if name == "." then place else place ++ [name])

/-- Follows names one by one from a place; each place that is left has to be a directory. -/
def follow (tree : FileTree) (place : List String) (names : List String) :
    Except FileCause (List String) :=
  names.foldlM tree.advance place

def checkText (text : String) : Except FileCause Unit :=
  if Text.Surrogate.occursIn text then .error .loneSurrogate
  else if text.contains '\x00' then .error .nullCharacter
  else .ok ()

/-- The place that names lead to, from the root or from the working directory; `text` is the path
that they are the names of. -/
private def locateNames (tree : FileTree) (text : String) (absolute : Bool) (names : List String) :
    Except FileCause (List String) := do
  checkText text
  if longestPath < text.utf8ByteSize then throw .tooLong
  tree.follow (if absolute then [] else tree.home) names

/-- The place that a path leads to, if all directories on the way are there. -/
def locate (tree : FileTree) (path : Path) : Except FileCause (List String) :=
  tree.locateNames path.toString path.absolute path.parts

/-- A path leads to a file or a directory; nothing is known of one that is too long. -/
def exists_ (tree : FileTree) (path : Path) : Except FileCause Bool :=
  match tree.locate path with
  | .ok place => .ok (tree.contains place)
  | .error .tooLong => .error .tooLong
  | .error _ => .ok false

/-- The names of a path as it is written; a slash at its end asks for a directory. -/
def namesOf (text : String) : List String :=
  let names := text.splitOn "/"
  let kept := names.filter (· != "")
  if names.getLast? == some "" then kept ++ ["."] else kept

/-- The place that a path leads to as it is written; an empty path leads nowhere. -/
def reach (tree : FileTree) (text : String) : Except FileCause (List String) :=
  if text == "" then .error .absent
  else do
    let place ← tree.locateNames text (text.startsWith "/") (namesOf text)
    if tree.contains place then pure place else throw .absent

def bytesAt (tree : FileTree) (place : List String) : Except FileCause (List UInt8) :=
  if tree.isDirectory place then .error .isDirectory
  else match tree.files.find? fun file => file.1 == place with
    | some file => .ok file.2
    | none => .error .absent

/-- The place of a file that is to be written; its directory has to be there. -/
def placeToWrite (tree : FileTree) (path : Path) : Except FileCause (List String) := do
  let place ← tree.locate path
  tree.enter place.dropLast
  if tree.isDirectory place then throw .isDirectory
  pure place

private def makeDirectory (state : FileTree × List String) (name : String) :
    Except FileCause (FileTree × List String) := do
  let (tree, place) := state
  let next ← tree.advance place name
  if tree.contains next then pure (tree, next)
  else pure ({ tree with directories := next :: tree.directories }, next)

def makeDirectories (tree : FileTree) (path : Path) : Except FileCause FileTree := do
  let text := path.toString
  checkText text
  if longestPath < text.utf8ByteSize then throw .tooLong
  let (made, place) ← path.parts.foldlM makeDirectory
    (tree, if path.absolute then [] else tree.home)
  if made.isFile place then throw .occupied
  pure made

/-- A text with each carriage return, alone or before a line feed, as one line feed. -/
def plainLines : List Char → List Char
  | '\r' :: '\n' :: rest => '\n' :: plainLines rest
  | '\r' :: rest => '\n' :: plainLines rest
  | c :: rest => c :: plainLines rest
  | [] => []

def textAt (tree : FileTree) (place : List String) : Except Fault String := do
  match tree.bytesAt place with
  | .error cause => throw (.file cause)
  | .ok bytes =>
    match Text.Utf8.decode bytes with
    | .error fault => throw (.fileNotText fault)
    | .ok text => pure (String.ofList (plainLines text.toList))

def readText (tree : FileTree) (path : Path) : Except Fault String := do
  match tree.locate path with
  | .error cause => throw (.file cause)
  | .ok place => tree.textAt place

end FileTree

end StoreSchema
