import ClassSynth.FileTree.Basic

/-!
# Changes between file trees

What differs between a tree and a later one, by path.
-/

set_option autoImplicit false

namespace ClassSynth

inductive ChangeKind where
  | added
  | changed
  | removed
deriving DecidableEq

/-- A difference at a path; a removed node has the content it had. -/
structure Change where
  path : Text
  kind : ChangeKind
  node : Node

namespace FileTree

/-- The path of a node; that of a directory ends in a slash. -/
def pathOf (location : Location) (node : Node) : Text :=
  let path := Text.join [Path.slash] (location.map FileName.text)
  match node with
  | .directory => path ++ [Path.slash]
  | .file _ => path

def gains (before after : FileTree) : List Change :=
  after.nodes.filterMap fun (location, node) =>
    match before.node? location with
    | none => some ⟨pathOf location node, .added, node⟩
    | some old => if old = node then none else some ⟨pathOf location node, .changed, node⟩

def losses (before after : FileTree) : List Change :=
  before.nodes.filterMap fun (location, node) =>
    match after.node? location with
    | none => some ⟨pathOf location node, .removed, node⟩
    | some _ => none

def changes (before after : FileTree) : List Change :=
  (gains before after ++ losses before after).mergeSort fun a b => Text.precedes a.path b.path

end FileTree

end ClassSynth
