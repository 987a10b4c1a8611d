import ClassSynth.Batch.JavaProject

/-!
# Conversions

Sample files are converted to a Java project, or to one JSON document that holds the class tree of
each under the name of its root class.
-/

set_option autoImplicit false

namespace ClassSynth

structure SpecRequest where
  inputs : List Text
  /-- The output file, if what is given is a path. -/
  output : Option Text
  options : RawOptions

def specDocument (specs : List ClassSpec) : Json :=
  .object (specs.foldl (fun (entries : Keyed Json) spec => entries.put spec.name spec.toJson) [])

def specNames (specs : Keyed ClassSpec) : Keyed Text :=
  specs.map fun entry => (entry.1, entry.2.name)

def makeOutputDirectory (output : Text) : Action Unit := do
  let directory := Path.dirName output
  let tree ← Action.files
  if !directory.isEmpty && !tree.has directory then Action.makeNewDirectories directory

/-- Converts samples to a class spec document, which is written also when no sample succeeds. -/
def SpecRequest.convert (request : SpecRequest) : Action Report := do
  let tree ← Action.files
  let files ← Action.check .input (tree.findSamples request.inputs)
  let samples ← Action.synthesizeSamples request.options files
  let output ← Action.output request.output
  makeOutputDirectory output
  Action.writeText output ((specDocument (samples.specs.map Prod.snd)).indented 0)
  pure ⟨specNames samples.specs, samples.failed⟩

inductive Conversion where
  | java (request : JavaRequest)
  | classSpec (request : SpecRequest)

namespace Conversion

def inputs : Conversion → List Text
  | .java request => request.inputs
  | .classSpec request => request.inputs

def convert : Conversion → Action Report
  | .java request => request.convert
  | .classSpec request => request.convert

end Conversion

end ClassSynth
