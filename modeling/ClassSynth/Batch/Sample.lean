import ClassSynth.Batch.Report
import ClassSynth.FileTree.Operation
import ClassSynth.Text.Basic
import ClassSynth.Text.LowerCase

/-!
# Sample files

Finding the sample files that input paths denote, and reading the document that a sample file
holds.
-/

set_option autoImplicit false

namespace ClassSynth

inductive LoadError where
  | file (error : FileError)
  | undecodable (refusal : Utf8.Refusal)
  | malformed (error : Json.ReadError)

def documentOfBytes (content : Bytes) : Except LoadError Json :=
  match Utf8.decode content with
  | .error refusal => .error (.undecodable refusal)
  | .ok text => (Json.read text.unifyLineEnds).mapError .malformed

def FileTree.loadSample (tree : FileTree) (path : Text) : Except LoadError Json :=
  match tree.read path with
  | .error e => .error (.file e)
  | .ok content => documentOfBytes content

def isSampleName (name : Text) : Bool := Text.endsWith name.toLower ".json"

/-- The samples that one input path denotes: the JSON files directly in a directory, or a file
itself. -/
def FileTree.samplesAt (tree : FileTree) (path : Text) : Except InputError (List Text) :=
  match tree.nodeAt? path with
  | none => .error (.invalidPath path)
  | some (.file _) => .ok [path]
  | some .directory =>
    .ok (((tree.list path).filter fun name =>
      isSampleName name && tree.isFile (Path.join path name)).map (Path.join path))

def FileTree.samplesIn (tree : FileTree) : List Text → Except InputError (List Text)
  | [] => .ok []
  | path :: rest =>
    match tree.samplesAt path with
    | .error e => .error e
    | .ok found =>
      match tree.samplesIn rest with
      | .error e => .error e
      | .ok others => .ok (found ++ others)

/-- The samples that the input paths denote; there has to be one. -/
def FileTree.findSamples (tree : FileTree) (paths : List Text) : Except InputError (List Text) :=
  if paths.isEmpty then .error .noInput
  else
    match tree.samplesIn paths with
    | .error e => .error e
    | .ok [] => .error (.noSamples paths)
    | .ok found => .ok found

end ClassSynth
