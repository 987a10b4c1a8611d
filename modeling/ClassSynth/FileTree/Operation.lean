import ClassSynth.FileTree.Basic

/-!
# Operations on file trees

Reading, writing and copying files and making directories.  An operation that fails says why and
leaves whatever it has done so far.
-/

set_option autoImplicit false

namespace ClassSynth

namespace FileTree

def read (tree : FileTree) (path : Text) : Except FileError Bytes :=
  match checkPath path with
  | .error e => .error e
  | .ok () =>
    match tree.locate path with
    | .error fault => .error (.path fault path)
    | .ok location =>
      match tree.node? location with
      | none => .error (.path .missing path)
      | some .directory => .error (.path .isADirectory path)
      | some (.file content) => .ok content

/-- The location of a file that is to be written.  Its directory has to exist, and it must not be a
directory itself, nor be written like one. -/
def locateForWriting (tree : FileTree) (path : Text) : Except FileError Location :=
  match checkPath path with
  | .error e => .error e
  | .ok () =>
    let trimmed := Text.trimRight (· = Path.slash) path
    let trailing := decide (trimmed.length < path.length)
    match tree.locate (if trimmed.isEmpty then path else trimmed) with
    | .error fault => .error (.path fault path)
    | .ok location =>
      if trailing || decide (tree.node? location = some .directory) then
        .error (.path .isADirectory path)
      else .ok location

def write (tree : FileTree) (path : Text) (content : Bytes) : Except FileError FileTree :=
  match tree.locateForWriting path with
  | .error e => .error e
  | .ok location => .ok (tree.put location (.file content))

/-- Writes a text file.  A text without bytes leaves the file empty. -/
def writeText (tree : FileTree) (path content : Text) : Except FileError Unit × FileTree :=
  match tree.write path [] with
  | .error e => (.error e, tree)
  | .ok opened =>
    match Utf8.encode content with
    | .error refusal => (.error (.unencodable refusal), opened)
    | .ok bytes =>
      match tree.write path bytes with
      | .error e => (.error e, opened)
      | .ok written => (.ok (), written)

def makeDirectory (tree : FileTree) (path : Text) : Except FileError FileTree :=
  match checkPath path with
  | .error e => .error e
  | .ok () =>
    let trimmed := Text.trimRight (· = Path.slash) path
    match tree.locate (if trimmed.isEmpty then path else trimmed) with
    | .error fault => .error (.path fault path)
    | .ok location =>
      match tree.node? location with
      | some _ => .error (.path .occupied path)
      | none => .ok (tree.put location .directory)

def splitPath (path : Text) : Text × Text :=
  if (Path.baseName path).isEmpty then
    (Path.dirName (Path.dirName path), Path.baseName (Path.dirName path))
  else (Path.dirName path, Path.baseName path)

/-- Makes a directory, and first those above it that are missing.  Each step goes to a shorter path,
so as many steps as the path has code points suffice. -/
def makeDirectoriesWithin : (steps : Nat) → (mayExist : Bool) → (tree : FileTree) → (path : Text) →
    Except FileError Unit × FileTree
  | 0, _, tree, path => (.error (.path .missing path), tree)
  | steps + 1, mayExist, tree, path =>
    let (above, name) := splitPath path
    let prepared : Except FileError Unit × FileTree :=
      if !above.isEmpty && !name.isEmpty && !tree.has above then
        match makeDirectoriesWithin steps mayExist tree above with
        | (.error (.path .occupied _), next) => (.ok (), next)
        | other => other
      else (.ok (), tree)
    match prepared with
    | (.error e, tree) => (.error e, tree)
    | (.ok (), next) =>
      if !above.isEmpty && !tree.has above && decide (name = [Path.dot]) then (.ok (), next)
      else
        match next.makeDirectory path with
        | .ok made => (.ok (), made)
        | .error (.path fault place) =>
          if mayExist && next.isDirectory path then (.ok (), next)
          else (.error (.path fault place), next)
        | .error e => (.error e, next)

def makeDirectories (tree : FileTree) (mayExist : Bool) (path : Text) :
    Except FileError Unit × FileTree :=
  makeDirectoriesWithin (path.length + 1) mayExist tree path

def sameNode (tree : FileTree) (first second : Text) : Bool :=
  match tree.locate first, tree.locate second with
  | .ok a, .ok b => decide (a = b) && (tree.node? a).isSome
  | _, _ => false

/-- Copies a file.  Both paths are looked at before anything is read. -/
def copy (tree : FileTree) (source target : Text) : Except FileError FileTree :=
  match checkPath source, checkPath target with
  | .error e, _ => .error e
  | .ok (), .error e => .error e
  | .ok (), .ok () =>
    if tree.sameNode source target then .error (.sameFile source target)
    else
      match tree.read source with
      | .error e => .error e
      | .ok content => tree.write target content

end FileTree

end ClassSynth
