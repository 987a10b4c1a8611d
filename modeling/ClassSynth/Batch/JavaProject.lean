import ClassSynth.Batch.Workspace
import ClassSynth.Java.Source

/-!
# Java projects

Writing generated classes, their round-trip tests and the project file into a Maven source tree, and
converting sample files to such a tree.
-/

set_option autoImplicit false

namespace ClassSynth

namespace Java.Generator

def sourceDirectory (g : Generator) (project folder : Text) : Text :=
  g.package.directory (Path.join (Path.join (Path.join project "src") folder) "java")

def classPath (g : Generator) (project className : Text) : Text :=
  Path.join (g.sourceDirectory project "main") (className ++ ".java")

def testPath (g : Generator) (project className : Text) : Text :=
  Path.join (g.sourceDirectory project "test") (className ++ "Test.java")

def resourceDirectory (project : Text) : Text :=
  Path.join (Path.join (Path.join project "src") "test") "resources"

/-- Writes the source file of a class and tells its path.  The file is opened before the source is
asked for, so a class that has none leaves an empty file. -/
def writeSource (g : Generator) (className : Text) (source : Except ConversionError Text)
    (project : Text) : Action Text := do
  let path := g.classPath project className
  Action.makeDirectories (g.sourceDirectory project "main")
  Action.openFile path
  let text ← Action.check id source
  Action.writeText path text
  pure path

def writeClass (g : Generator) (spec : ClassSpec) (project : Text) : Action Text :=
  g.writeSource spec.name ((g.source spec).mapError .reservedClass) project

def writeDraft (g : Generator) (draft : Draft) (project : Text) : Action Text :=
  g.writeSource draft.name.plain ((g.draftSource draft).mapError .draft) project

def writeProjectFile (g : Generator) (project : Text) : Action Text := do
  let path := Path.join project "pom.xml"
  Action.makeDirectories project
  let files ← Action.files
  if files.has path then pure path
  else
    Action.writeText path (ProjectFile.ofGenerator g).text
    pure path

def writeBelow (path content : Text) : Action Unit := do
  Action.makeDirectories (Path.dirName path)
  Action.writeText path content

def writeRoundTripTest (g : Generator) (className sample project : Text) : Action Text := do
  let resource := className ++ ".json"
  let path := g.testPath project className
  Action.makeDirectories (resourceDirectory project)
  Action.copy sample (Path.join (resourceDirectory project) resource)
  writeBelow path (RoundTripTest.ofClass g.package className resource).text
  pure path

def writeProject (g : Generator) (spec : ClassSpec) (project : Text) : Action Text := do
  let _ ← g.writeProjectFile project
  g.writeClass spec project

def writeDraftProject (g : Generator) (draft : Draft) (project : Text) : Action Text := do
  let _ ← g.writeProjectFile project
  g.writeDraft draft project

end Java.Generator

/-- Renders the document that a caller names into a file.  The names of the two arguments that say
what is rendered where are not free for variables. -/
def Java.writeNamed (vars : Java.Variables) (named : Option Java.Template) (path : Text) :
    Action Unit := do
  if vars.binds "template" || vars.binds "output" then
    Action.check .template (.error Java.RenderError.takenName)
  let text ← Action.check .template (Java.renderNamed vars named)
  Java.Generator.writeBelow path text

structure JavaRequest where
  inputs : List Text
  /-- The project directory, if what is given is a path. -/
  project : Option Text
  /-- The package; when empty, one is derived from the project directory. -/
  packageName : Text
  lombok : Bool
  roundTripTests : Bool
  options : RawOptions

def suggestedPackageName (project : Text) : Text :=
  Text.toLower ((Path.baseName (Path.normalize project)).map fun c =>
    if c = CodePoint.ofChar '-' then CodePoint.ofChar '_' else c)

def JavaRequest.generator (request : JavaRequest) (packageName : Text) :
    Except Java.InvalidPackageName Java.Generator :=
  (Java.Package.ofName packageName).map fun package => ⟨package, request.lombok, true⟩

/-- The package name of a request.  The project directory is looked at only for want of a name. -/
def JavaRequest.chosenPackageName (request : JavaRequest) : Action Text :=
  if request.packageName.isEmpty then do
    let project ← Action.output request.project
    pure (suggestedPackageName project)
  else pure request.packageName

def JavaRequest.writeSample (request : JavaRequest) (g : Java.Generator) (project file : Text)
    (spec : ClassSpec) : Action Text := do
  let path ← g.writeClass spec project
  if request.roundTripTests then
    let _ ← g.writeRoundTripTest spec.name file project
  Action.log .info ("Generated " ++ path)
  pure path

def JavaRequest.writeSamples (request : JavaRequest) (g : Java.Generator) (project : Text)
    (generated : Keyed Text) : Keyed ClassSpec → Action (Keyed Text)
  | [] => pure generated
  | (file, spec) :: rest => do
    let path ← request.writeSample g project file spec
    request.writeSamples g project (generated.put file path) rest

def JavaRequest.writeAll (request : JavaRequest) (g : Java.Generator)
    (specs : Keyed ClassSpec) : Action (Keyed Text) :=
  if specs.isEmpty then pure []
  else do
    let project ← Action.output request.project
    let _ ← g.writeProjectFile project
    request.writeSamples g project [] specs

/-- Converts samples to a Java project.  Everything that can be refused is refused before anything
is written; the project file comes before the classes and only if there are some. -/
def JavaRequest.convert (request : JavaRequest) : Action Report := do
  let packageName ← request.chosenPackageName
  let g ← Action.check .package (request.generator packageName)
  let tree ← Action.files
  let files ← Action.check .input (tree.findSamples request.inputs)
  let samples ← Action.synthesizeSamples request.options files
  let generated ← request.writeAll g samples.specs
  if !samples.failed.isEmpty then
    Action.log .warning (Text.ofNat samples.failed.length ++ " of " ++ Text.ofNat files.length ++
      " files could not be converted")
  pure ⟨generated, samples.failed⟩

end ClassSynth
