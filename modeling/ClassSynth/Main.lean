import ClassSynth.CommandLine.Run
import ClassSynth.FileTree.Change

/-!
# The program

Loads the files that the arguments name, runs the command line on them, prints the outcome and
writes what has changed.
-/

set_option autoImplicit false

namespace ClassSynth.Main

def pathString (location : Location) : String :=
  Text.toString (Path.slash :: Text.join [Path.slash] (location.map FileName.text))

def locationOf (path : Text) : Location :=
  (Path.components (Path.normalize path)).map FileName.ofText

/-- Adds what stands at a location, and everything below it. -/
partial def load (tree : FileTree) (location : Location) : IO FileTree := do
  let path ← IO.FS.realPath (pathString location)
  match (← path.metadata).type with
  | .dir =>
    let entries ← path.readDir
    let start := if location.isEmpty then tree else tree.put location .directory
    entries.foldlM (fun tree entry =>
      load tree (location ++ [FileName.ofText (Text.ofString entry.fileName)])) start
  | .file =>
    let content ← IO.FS.readBinFile path
    return tree.put location (.file content.toList)
  | _ => return tree

def loadAbove (tree : FileTree) (location : Location) : IO FileTree :=
  (List.range location.length).foldlM (fun tree length => do
    let above := location.take length
    let present ← try (← IO.FS.realPath (pathString above)).isDir catch _ => pure false
    return if present && !above.isEmpty then tree.put above .directory else tree) tree

def loadPath (tree : FileTree) (path : Text) : IO FileTree := do
  let location := locationOf path
  let tree ← loadAbove tree location
  try load tree location catch _ => return tree

/-- The texts of an argument that may be paths: all of it, and what an equals sign joins to it. -/
def pathsIn (argument : Text) : List Text :=
  let (_, joined) := CommandLine.cutAtEquals argument
  argument :: joined.toList

def store (change : Change) : IO Unit :=
  let path := Text.toString (Path.slash :: change.path)
  match change.kind, change.node with
  | .removed, _ => pure ()
  | _, .directory => IO.FS.createDirAll path
  | _, .file content => IO.FS.writeBinFile path ⟨content.toArray⟩

def loadArguments (directory : Text) (arguments : List Text) : IO FileTree := do
  let here := locationOf directory
  let start ← loadAbove ⟨[], here⟩ here
  let paths := (arguments.flatMap pathsIn).filter fun path => !path.isEmpty
  paths.foldlM (fun tree path => loadPath tree (Path.join directory path))
    (if here.isEmpty then start else start.put here .directory)

end ClassSynth.Main

open ClassSynth in
def main (args : List String) : IO UInt32 := do
  let directory ← IO.currentDir
  let arguments := args.map Text.ofString
  let before ← Main.loadArguments (Text.ofString directory.toString) arguments
  let (outcome, after) := CommandLine.run arguments before
  (before.changes after).forM Main.store
  match outcome with
  | .error _ =>
    IO.eprintln "The arguments are of no use."
    return 1
  | .ok outcome =>
    IO.print (Text.toString outcome.output)
    IO.eprint (Text.toString outcome.errors)
    return outcome.status.toUInt32
