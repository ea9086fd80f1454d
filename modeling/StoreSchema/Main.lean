import StoreSchema.CommandLine.Run

set_option autoImplicit false

namespace StoreSchema.Main

/-- The paths that a word of the command line may hold: the word, and what follows the name of an
option in it. -/
def candidates (word : String) : List String :=
  let chars := word.toList
  let afterSign := (chars.dropWhile (· != '=')).drop 1
  [word, String.ofList afterSign, String.ofList (chars.drop 2)].filter (· != "")

def addPath (tree : FileTree) (path : String) : IO FileTree := do
  let place := tree.resolve (Path.ofString path)
  try
    let bytes ← IO.FS.readBinFile path
    pure (tree.write place bytes.toList)
  catch _ =>
    if ← ((← IO.currentDir) / path).isDir then
      pure { tree with directories := place :: tree.directories }
    else pure tree

def gather (words : List String) : IO FileTree := do
  let home := (Path.ofString (← IO.currentDir).toString).parts
  let paths := ".env" :: words.flatMap candidates
  let parents := paths.map fun path => (Path.ofString path).parent.toString
  (paths ++ parents).foldlM addPath { home }

def environment : IO (List (String × String)) :=
  Settings.variableNames.filterMapM fun name => do
    pure ((← IO.getEnv name).map fun value => (name, value))

def writeFile (place : List String) (bytes : List UInt8) : IO Unit := do
  IO.FS.createDirAll (Path.ofPlace place.dropLast).toString
  IO.FS.writeBinFile (Path.ofPlace place).toString ⟨bytes.toArray⟩

end StoreSchema.Main

def main (words : List String) : IO UInt32 := do
  let tree ← StoreSchema.Main.gather words
  let outcome := StoreSchema.CommandLine.outcome { tree } (← StoreSchema.Main.environment) words
  IO.print (StoreSchema.Text.Surrogate.plain outcome.printed)
  for (place, bytes) in outcome.library.tree.files do
    if !tree.files.contains (place, bytes) then
      StoreSchema.Main.writeFile place bytes
  if outcome.fault.isSome then IO.eprintln "swagger-odm: the command failed"
  pure (UInt32.ofNat outcome.exitCode)
