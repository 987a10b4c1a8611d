import ClassSynth.Batch.Synthesis

/-!
# Workspaces

A conversion works on a file tree and a log.  An action that fails keeps what it has written and
logged.
-/

set_option autoImplicit false

namespace ClassSynth

/-- The files and the log that a conversion works on. -/
structure Workspace where
  files : FileTree
  log : List LogEntry

abbrev Action (α : Type) := ExceptT ConversionError (StateM Workspace) α

namespace Action

def runOn {α : Type} (action : Action α) (w : Workspace) : Except ConversionError α × Workspace :=
  action w

def of {α : Type} (effect : Workspace → Except ConversionError α × Workspace) : Action α := effect

def files : Action FileTree := of fun w => (.ok w.files, w)

def logAll (entries : List LogEntry) : Action Unit :=
  of fun w => (.ok (), { w with log := w.log ++ entries })

def log (level : LogLevel) (message : Text) : Action Unit := logAll [⟨level, message⟩]

def check {α ε : Type} (cause : ε → ConversionError) (result : Except ε α) : Action α :=
  of fun w => (result.mapError cause, w)

/-- The path of the output, from the point on where one is needed. -/
def output (path : Option Text) : Action Text :=
  of fun w =>
    match path with
    | some path => (.ok path, w)
    | none => (.error .noOutput, w)

def change (operation : FileTree → Except FileError FileTree) : Action Unit :=
  of fun w =>
    match operation w.files with
    | .error e => (.error (.file e), w)
    | .ok files => (.ok (), { w with files })

/-- An operation on the files that may have changed something when it fails. -/
def attempt (operation : FileTree → Except FileError Unit × FileTree) : Action Unit :=
  of fun w =>
    match operation w.files with
    | (outcome, files) => (outcome.mapError .file, { w with files })

def makeDirectories (path : Text) : Action Unit :=
  attempt fun tree => tree.makeDirectories true path

def makeNewDirectories (path : Text) : Action Unit :=
  attempt fun tree => tree.makeDirectories false path

def openFile (path : Text) : Action Unit := change fun tree => tree.write path []

def writeText (path content : Text) : Action Unit := attempt fun tree => tree.writeText path content

def copy (source target : Text) : Action Unit := change fun tree => tree.copy source target

/-- Synthesizes samples, and logs what there is to log also when that is cut short. -/
def synthesizeSamples (raw : RawOptions) (files : List Text) : Action Samples :=
  of fun w =>
    match w.files.synthesizeSamples raw files with
    | (outcome, samples) =>
      (outcome.map fun _ => samples, { w with log := w.log ++ samples.log })

end Action

end ClassSynth
