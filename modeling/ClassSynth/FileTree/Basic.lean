import ClassSynth.Path
import ClassSynth.Text.ByteEscape
import ClassSynth.Text.Printable
import ClassSynth.Text.Utf8

/-!
# File trees

A file tree maps locations, lists of names from the root, to directories and files.  There is
nothing but directories and regular files in it: no links, so that every node has one location, and
no devices.  Names are bytes, and texts stand for them as `ByteEscape` says.  The root is always a
directory.  A path text is followed component by component, from the root if it begins with a slash
and else from the working directory; every component but the last has to be a directory, and so has
what stands before a trailing slash.  An operation that fails says why, with the path it was given.
-/

set_option autoImplicit false

namespace ClassSynth

inductive PathFault where
  | missing
  | occupied
  | notADirectory
  | isADirectory
  /-- A name, or a whole path, of more bytes than are allowed. -/
  | nameTooLong
deriving DecidableEq

def PathFault.message : PathFault → Text
  | .missing => "[Errno 2] No such file or directory"
  | .occupied => "[Errno 17] File exists"
  | .notADirectory => "[Errno 20] Not a directory"
  | .isADirectory => "[Errno 21] Is a directory"
  | .nameTooLong => "[Errno 36] File name too long"

inductive FileError where
  | path (fault : PathFault) (path : Text)
  | sameFile (source target : Text)
  | unencodable (refusal : Utf8.Unencodable)
  | nullInPath

def FileError.message : FileError → Text
  | .path fault place => fault.message ++ ": " ++ place.quoted
  | .sameFile source target => source.quoted ++ " and " ++ target.quoted ++ " are the same file"
  | .unencodable refusal => refusal.message
  | .nullInPath => "embedded null byte"

abbrev Bytes := List UInt8

inductive Node where
  | directory
  | file (content : Bytes)
deriving DecidableEq

abbrev FileName := List UInt8

namespace FileName

def ofText (component : Text) : FileName := ByteEscape.encode component

def text (name : FileName) : Text := ByteEscape.decode name

def maxLength : Nat := 255

end FileName

abbrev Location := List FileName

/-- The nodes below the root, each under its location. -/
structure FileTree where
  nodes : List (Location × Node)
  /-- Where paths begin that do not begin at the root. -/
  workingDirectory : Location

namespace FileTree

def empty : FileTree := ⟨[], []⟩

def node? (tree : FileTree) (location : Location) : Option Node :=
  match location with
  | [] => some .directory
  | _ => (tree.nodes.find? fun entry => decide (entry.1 = location)).map Prod.snd

/-- Puts a node into a list of nodes, in the place of the one at the same location. -/
def putNode (location : Location) (node : Node) : List (Location × Node) → List (Location × Node)
  | [] => [(location, node)]
  | (place, old) :: rest =>
    if place = location then (location, node) :: rest
    else (place, old) :: putNode location node rest

def put (tree : FileTree) (location : Location) (node : Node) : FileTree :=
  { tree with nodes := putNode location node tree.nodes }

def follow (tree : FileTree) (here : Location) : List Text → Except PathFault Location
  | [] => .ok here
  | part :: rest =>
    match tree.node? here with
    | none => .error .missing
    | some (.file _) => .error .notADirectory
    | some .directory =>
      if part.isEmpty || decide (part = [Path.dot]) then follow tree here rest
      else if part = Path.parentName then follow tree here.dropLast rest
      else
        let name := FileName.ofText part
        if FileName.maxLength < name.length then .error .nameTooLong
        else follow tree (here ++ [name]) rest

def maxPathLength : Nat := 4095

/-- The location that a path text leads to; something may or may not stand there. -/
def locate (tree : FileTree) (path : Text) : Except PathFault Location :=
  if path.isEmpty then .error .missing
  else if maxPathLength < (ByteEscape.encode path).length then .error .nameTooLong
  else
    let start := if path.head? = some Path.slash then [] else tree.workingDirectory
    follow tree start (path.cutAt Path.slash)

/-- Paths are handed on as bytes that a null byte ends. -/
def checkPath (path : Text) : Except FileError Unit :=
  match ByteEscape.firstUnencodable? 0 path with
  | some refused => .error (.unencodable refused)
  | none => if path.contains (CodePoint.ofNumber 0) then .error .nullInPath else .ok ()

def nodeAt? (tree : FileTree) (path : Text) : Option Node :=
  match checkPath path, tree.locate path with
  | .ok (), .ok location => tree.node? location
  | _, _ => none

def has (tree : FileTree) (path : Text) : Bool := (tree.nodeAt? path).isSome

def isDirectory (tree : FileTree) (path : Text) : Bool :=
  match tree.nodeAt? path with
  | some .directory => true
  | _ => false

def isFile (tree : FileTree) (path : Text) : Bool :=
  match tree.nodeAt? path with
  | some (.file _) => true
  | _ => false

def names (tree : FileTree) (location : Location) : List FileName :=
  tree.nodes.filterMap fun entry =>
    if entry.1.dropLast = location then entry.1.getLast? else none

def list (tree : FileTree) (path : Text) : List Text :=
  match tree.locate path with
  | .error _ => []
  | .ok location => Text.sort ((tree.names location).map FileName.text)

end FileTree

end ClassSynth
