import ClassSynth.Batch.Sample
import ClassSynth.Inference.Synthesis

/-!
# Synthesis of many samples

Each sample yields one root class, named after its file.  The samples are taken in order; one whose
class name is taken by an earlier sample that succeeded is skipped unread.
-/

set_option autoImplicit false

namespace ClassSynth

structure Samples where
  specs : Keyed ClassSpec
  /-- The sample file that holds a class name, by the case folding of the name. -/
  holders : Keyed Text
  failed : Keyed Text
  log : List LogEntry

namespace Samples

def start : Samples := ⟨[], [], [], []⟩

def addLog (s : Samples) (level : LogLevel) (message : Text) : Samples :=
  { s with log := s.log ++ [⟨level, message⟩] }

def fail (s : Samples) (file reason : Text) : Samples :=
  { s.addLog .warning ("Skipping " ++ file ++ ": " ++ reason) with
    failed := s.failed.put file reason }

def succeed (s : Samples) (file className : Text) (spec : ClassSpec) : Samples :=
  { s.addLog .info ("Synthesized " ++ className ++ " from " ++ file ++ " (" ++
      Text.ofNat spec.classNames.length ++ " classes)") with
    specs := s.specs.put file spec
    holders := s.holders.put className.fold file }

end Samples

inductive SampleOutcome where
  | spec (spec : ClassSpec)
  | failed (reason : Text)
  | aborted (error : ConversionError)

/-- The class tree of a document under options that are checked only now. -/
def specOfDocument (raw : RawOptions) (className : Text) (document : Json) : SampleOutcome :=
  match Options.ofRaw raw with
  | .error e => .aborted (.options e)
  | .ok options =>
    match synthesizeFresh options document (some className) with
    | .ok spec => .spec spec
    | .error (.inference e) => .failed e.message
    | .error e => .aborted (.synthesis e)

/-- Loads a sample and synthesizes its class tree.  A file that cannot be read ends the conversion,
and so does an integer too long to be held; what else is wrong with a document fails the sample. -/
def FileTree.sampleOutcome (tree : FileTree) (raw : RawOptions) (file className : Text) :
    SampleOutcome :=
  match tree.loadSample file with
  | .error (.file e) => .aborted (.file e)
  | .error (.undecodable refusal) => .failed refusal.message
  | .error (.malformed (.overlongInteger digits)) => .aborted (.document (.overlongInteger digits))
  | .error (.malformed e) => .failed e.message
  | .ok document => specOfDocument raw className document

def FileTree.synthesizeSample (tree : FileTree) (raw : RawOptions) (s : Samples) (file : Text) :
    Except ConversionError Unit × Samples :=
  let className := ClassName.ofFile file
  match s.holders.get? className.fold with
  | some holder =>
    (.ok (), s.fail file ("Class name " ++ className ++ " is already used by " ++ holder))
  | none =>
    match tree.sampleOutcome raw file className with
    | .spec spec => (.ok (), s.succeed file className spec)
    | .failed reason => (.ok (), s.fail file reason)
    | .aborted e => (.error e, s)

def FileTree.synthesizeFrom (tree : FileTree) (raw : RawOptions) (s : Samples) :
    List Text → Except ConversionError Unit × Samples
  | [] => (.ok (), s)
  | file :: rest =>
    match tree.synthesizeSample raw s file with
    | (.error e, next) => (.error e, next)
    | (.ok (), next) => tree.synthesizeFrom raw next rest

def FileTree.synthesizeSamples (tree : FileTree) (raw : RawOptions) (files : List Text) :
    Except ConversionError Unit × Samples :=
  tree.synthesizeFrom raw .start files

end ClassSynth
