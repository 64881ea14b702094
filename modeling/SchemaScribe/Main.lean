import SchemaScribe.CommandLine.Run
import SchemaScribe.Database.Description
import SchemaScribe.Listing.Description

/-!
# The program

Reads the working directory and the described database, runs the command line, and puts what changed
back in place. The variables `SCHEMA_CATALOG` and `SCHEMA_MODULES` name documents that describe the
database and the modules of entities.
-/

open SchemaScribe SchemaScribe.Document SchemaScribe.Files SchemaScribe.CommandLine

namespace SchemaScribe.Main

/-- The parts of an absolute path. -/
def partsOf (path : String) : List String := (Files.Path.ofString path).parts

/-- The text of a place. -/
def textOf (place : List String) : String := ({ absolute := true, parts := place } : Files.Path).shown

/-- Adds what stands in a directory and below it. -/
partial def addFound (t : FileTree) (place : List String) (found : Array IO.FS.DirEntry) :
    IO FileTree :=
  found.foldlM (fun t entry => do
    let inner := place ++ [entry.fileName]
    if ← entry.path.isDir then
      addFound (t.put inner .directory) inner (← entry.path.readDir)
    else return t.put inner (.file (← IO.FS.readBinFile entry.path))) t

/-- A tree of nothing but a directory and those above it. -/
def bareTree (home : List String) : FileTree :=
  { home, entries := (List.range home.length).map fun n => (home.take (n + 1), .directory) }

/-- The tree of the working directory. -/
def readTree : IO FileTree := do
  let home ← IO.currentDir
  let place := partsOf home.toString
  addFound (bareTree place) place (← home.readDir)

/-- Puts back what differs between two trees. -/
def writeTree (old new : FileTree) : IO Unit := do
  for (place, entry) in new.entries do
    unless old.entry? place = some entry do
      match entry with
      | .directory => IO.FS.createDirAll (textOf place)
      | .file bytes => IO.FS.writeBinFile (textOf place) bytes

/-- The document that an environment variable names, empty if there is none. -/
def documentOf (name : String) : IO Value := do
  match ← IO.getEnv name with
  | none => return .map []
  | some path => return (Json.read (← IO.FS.readFile path).toList).toOption.getD (.map [])

/-- The described modules. -/
def modulesOf : Value → List Listing.EntityModule
  | .list items => items.map Listing.EntityModule.ofDescription
  | _ => []

end SchemaScribe.Main

/-- Runs the command line. -/
def main (words : List String) : IO UInt32 := do
  let tree ← Main.readTree
  let catalog ← Main.documentOf "SCHEMA_CATALOG"
  let modules ← Main.documentOf "SCHEMA_MODULES"
  let outcome := CommandLine.run
    { tree, source := .ofDescription catalog, modules := Main.modulesOf modules } words
  Main.writeTree tree outcome.tree
  for notice in outcome.notices do
    IO.eprintln (notice.severity.word ++ " " ++ notice.source ++ " " ++ notice.text)
  IO.print outcome.output
  IO.eprint outcome.complaint
  match outcome.exit with
  | .ok code => return code.toUInt32
  | .error error =>
    IO.eprintln error.message
    return 1
