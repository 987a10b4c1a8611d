import ClassSynth.FileTree.Operation
import ClassSynth.Proofs.FileTree.Growth
import ClassSynth.Proofs.Text.Encodable

/-!
# Faults of the file system

An operation on files fails for what stands in the tree, or for a text that cannot be handed on as
bytes.  The texts alone tell whether the second can happen: with a clean path, and an encodable text
where one is written, only the tree is left to be at fault.
-/

set_option autoImplicit false

namespace ClassSynth

/-- Whether an error comes from what stands in a tree, and not from a text without bytes. -/
def FileError.isFault : FileError → Bool
  | .path _ _ => true
  | .sameFile _ _ => true
  | .unencodable _ => false
  | .nullInPath => false

namespace FileTree

/-- Whether an operation fails by a fault of the file system, if at all. -/
def FaultsOnly {α : Type} (outcome : Except FileError α) : Prop :=
  ∀ e, outcome = .error e → e.isFault = true

section

variable {α : Type}

@[simp] theorem faultsOnly_ok (value : α) : FaultsOnly (.ok value) := fun _ failed => nomatch failed

@[simp] theorem faultsOnly_error_iff (e : FileError) :
    FaultsOnly (.error e : Except FileError α) ↔ e.isFault = true := by
  simp [FaultsOnly]

@[simp] theorem isFault_path (fault : PathFault) (path : Text) :
    (FileError.path fault path).isFault = true := rfl

@[simp] theorem isFault_sameFile (source target : Text) :
    (FileError.sameFile source target).isFault = true := rfl

end

variable (tree : FileTree) {path : Text}

theorem faultsOnly_read (checked : checkPath path = .ok ()) : FaultsOnly (tree.read path) := by
  simp only [read, checked]
  split
  · simp
  · split <;> simp

/-! ## Writing -/

theorem faultsOnly_locateForWriting (clean : Path.IsClean path) :
    FaultsOnly (tree.locateForWriting path) := by
  simp only [locateForWriting, Path.checkPath_of_isClean clean]
  split
  · simp
  · split <;> simp

theorem faultsOnly_write (clean : Path.IsClean path) (content : Bytes) :
    FaultsOnly (tree.write path content) := by
  rw [write]
  cases located : tree.locateForWriting path with
  | error e =>
    exact (faultsOnly_error_iff e).mpr (faultsOnly_locateForWriting tree clean e located)
  | ok location => exact faultsOnly_ok _

theorem faultsOnly_writeText (clean : Path.IsClean path) {content : Text}
    (encodable : content.IsEncodable) : FaultsOnly (tree.writeText path content).1 := by
  rw [writeText, Utf8.encode_of_isEncodable encodable]
  cases emptied : tree.write path [] with
  | error e => exact (faultsOnly_error_iff e).mpr (faultsOnly_write tree clean [] e emptied)
  | ok opened =>
    simp only
    cases filled : tree.write path (content.flatMap Utf8.encodePoint) with
    | error e => exact (faultsOnly_error_iff e).mpr (faultsOnly_write tree clean _ e filled)
    | ok written => exact faultsOnly_ok _

/-- The source need not be clean: a path that a file has been read at is handed on. -/
theorem faultsOnly_copy {source target : Text} (checked : checkPath source = .ok ())
    (clean : Path.IsClean target) : FaultsOnly (tree.copy source target) := by
  simp only [copy, checked, Path.checkPath_of_isClean clean]
  split
  · simp
  · cases held : tree.read source with
    | error e => exact (faultsOnly_error_iff e).mpr (faultsOnly_read tree checked e held)
    | ok content => exact faultsOnly_write tree clean content

/-! ## Making directories -/

theorem faultsOnly_makeDirectory (clean : Path.IsClean path) :
    FaultsOnly (tree.makeDirectory path) := by
  simp only [makeDirectory, Path.checkPath_of_isClean clean]
  split
  · simp
  · split <;> simp

theorem faultsOnly_makeLast (mayExist : Bool) (clean : Path.IsClean path)
    {prepared : Except FileError Unit × FileTree} (faults : FaultsOnly prepared.1) :
    FaultsOnly (makeLast mayExist tree path prepared).1 := by
  obtain ⟨outcome, next⟩ := prepared
  cases outcome with
  | error e => exact faults
  | ok done =>
    have last := faultsOnly_makeDirectory next clean
    simp only [makeLast]
    split
    · simp
    · cases made : next.makeDirectory path with
      | ok after => simp
      | error e =>
        have fault := last e made
        cases e with
        | path fault place =>
          simp only
          split <;> simp
        | sameFile source target => simp
        | unencodable refusal => cases fault
        | nullInPath => cases fault

theorem faultsOnly_makeDirectoriesWithin (mayExist : Bool) (steps : Nat) :
    ∀ tree : FileTree, ∀ {path : Text}, Path.IsClean path →
      FaultsOnly (makeDirectoriesWithin steps mayExist tree path).1 := by
  induction steps with
  | zero =>
    intro tree path _
    simp [makeDirectoriesWithin]
  | succ steps ih =>
    intro tree path clean
    rw [makeDirectoriesWithin_succ]
    apply faultsOnly_makeLast tree mayExist clean
    rw [makeAbove]
    split
    · obtain ⟨begins, -⟩ := splitPath_prefix path
      have above := ih tree (clean.of_subset begins.subset)
      split
      · simp
      · exact above
    · simp

theorem faultsOnly_makeDirectories (mayExist : Bool) (clean : Path.IsClean path) :
    FaultsOnly (tree.makeDirectories mayExist path).1 :=
  faultsOnly_makeDirectoriesWithin mayExist _ tree clean

end FileTree

end ClassSynth
