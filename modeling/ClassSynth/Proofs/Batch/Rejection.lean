import ClassSynth.Proofs.Batch.Delivery
import ClassSynth.Proofs.ClassTree.Dictionary
import ClassSynth.Proofs.FileTree.Fault
import ClassSynth.Proofs.Java.Encoding

/-!
# Conversions that are refused

A conversion settles all that it can be refused for before it touches a file.  What is left is
writing, and there every path and every text has bytes and every class has a source, so writing ends
early only by a fault of the file system.  The main statement is that a conversion which ends early
for another reason has not begun to write, and leaves the files as they were.
-/

set_option autoImplicit false

namespace ClassSynth

/-- Whether an error is a fault of the file system.  Every other error is a refusal: of a package
name, an input, an option, a document, a class name, or a text or path without bytes. -/
def ConversionError.isFault : ConversionError → Bool
  | .file e => e.isFault
  | _ => false

/-! ## Two ways to end -/

namespace Action

variable {α β ε : Type}

/-- Whether an action leaves the files as they are, whether it returns or ends early. -/
def KeepsFiles (action : Action α) : Prop := ∀ w, (action.runOn w).2.files = w.files

/-- Whether an action ends early by a fault of the file system, if at all. -/
def EndsByFault (action : Action α) : Prop :=
  ∀ before e after, action.runOn before = (.error e, after) → e.isFault = true

theorem KeepsFiles.bind {first : Action α} {next : α → Action β} (kept : first.KeepsFiles)
    (later : ∀ value, (next value).KeepsFiles) : (first >>= next).KeepsFiles := by
  intro w
  have here := kept w
  rw [runOn_bind]
  cases went : first.runOn w with
  | mk outcome between =>
    rw [went] at here
    cases outcome with
    | error e => exact here
    | ok value => exact (later value between).trans here

theorem EndsByFault.bind {first : Action α} {next : α → Action β} (ends : first.EndsByFault)
    (later : ∀ value, (next value).EndsByFault) : (first >>= next).EndsByFault :=
  EndsBy.bind ends fun _ value _ _ => later value

theorem keepsFiles_pure (value : α) : (pure value : Action α).KeepsFiles := fun _ => rfl

theorem keepsFiles_files : files.KeepsFiles := fun _ => rfl

theorem keepsFiles_check (cause : ε → ConversionError) (result : Except ε α) :
    (check cause result).KeepsFiles := fun _ => rfl

theorem keepsFiles_output (path : Option Text) : (output path).KeepsFiles := by
  intro w
  cases path <;> rfl

theorem keepsFiles_synthesizeSamples (raw : RawOptions) (samples : List Text) :
    (synthesizeSamples raw samples).KeepsFiles := fun _ => rfl

section

variable {path : Text} (clean : Path.IsClean path)

include clean

theorem endsByFault_makeDirectories : (makeDirectories path).EndsByFault :=
  endsBy_attempt fun tree => FileTree.faultsOnly_makeDirectories tree true clean

theorem endsByFault_makeNewDirectories : (makeNewDirectories path).EndsByFault :=
  endsBy_attempt fun tree => FileTree.faultsOnly_makeDirectories tree false clean

theorem endsByFault_openFile : (openFile path).EndsByFault :=
  endsBy_change fun tree => FileTree.faultsOnly_write tree clean []

theorem endsByFault_writeText {content : Text} (encodable : content.IsEncodable) :
    (writeText path content).EndsByFault :=
  endsBy_attempt fun tree => FileTree.faultsOnly_writeText tree clean encodable

theorem endsByFault_copy {sample : Text} (checked : FileTree.checkPath sample = .ok ()) :
    (copy sample path).EndsByFault :=
  endsBy_change fun tree => FileTree.faultsOnly_copy tree checked clean

end

end Action

open ClassSynth.Action

/-! ## Writing a project -/

section

variable {g : Java.Generator} {project : Text}
  (valid : ∀ segment ∈ g.package.segments, Java.Package.isSegment segment = true)
  (clean : Path.IsClean project)

include valid clean

namespace Java.Generator

theorem endsByFault_writeProjectFile : (g.writeProjectFile project).EndsByFault := by
  have file : Path.IsClean (Path.join project "pom.xml") :=
    clean.join (Path.isClean_ofString (by decide))
  unfold writeProjectFile
  refine (endsByFault_makeDirectories clean).bind fun _ => ?_
  refine EndsByFault.bind endsBy_files fun files => ?_
  split
  · exact endsBy_pure _
  · exact (endsByFault_writeText file (isEncodable_projectFile valid)).bind
      fun _ => endsBy_pure _

/-- A class that has a source with bytes is written unless the file system is at fault. -/
theorem endsByFault_writeClass {spec : ClassSpec} (word : spec.name.IsWord)
    (sourced : ∃ text, g.source spec = .ok text ∧ text.IsEncodable) :
    (g.writeClass spec project).EndsByFault := by
  obtain ⟨text, source, encodable⟩ := sourced
  have directory := Output.isClean_directory valid clean .source
  have path := Output.isClean_path valid clean word .source
  unfold writeClass writeSource
  rw [source]
  refine (endsByFault_makeDirectories directory).bind fun _ => ?_
  refine (endsByFault_openFile path).bind fun _ => ?_
  exact (endsByFault_writeText path encodable).bind fun _ => endsBy_pure _

theorem endsByFault_writeRoundTripTest {className sample : Text} (word : className.IsWord)
    (checked : FileTree.checkPath sample = .ok ()) :
    (g.writeRoundTripTest className sample project).EndsByFault := by
  have resource : Text.IsEncodable (className ++ ".json") := by
    simp [Text.isEncodable_of_isWord word]
  have path := Output.isClean_path valid clean word .test
  unfold writeRoundTripTest writeBelow
  refine (endsByFault_makeDirectories (Output.isClean_directory valid clean .resource)).bind
    fun _ => ?_
  refine (endsByFault_copy (Output.isClean_path valid clean word .resource) checked).bind
    fun _ => ?_
  have writing := (endsByFault_makeDirectories path.dirName).bind fun _ =>
    endsByFault_writeText path (isEncodable_roundTripTest valid word resource)
  exact writing.bind fun _ => endsBy_pure _

end Java.Generator

namespace JavaRequest

/-- Whether all is there to write what belongs to a sample. -/
structure IsWritable (g : Java.Generator) (file : Text) (spec : ClassSpec) : Prop where
  checked : FileTree.checkPath file = .ok ()
  word : spec.name.IsWord
  sourced : ∃ text, g.source spec = .ok text ∧ text.IsEncodable

variable {request : JavaRequest}

theorem endsByFault_writeSample {file : Text} {spec : ClassSpec}
    (writable : IsWritable g file spec) :
    (request.writeSample g project file spec).EndsByFault := by
  have test := Java.Generator.endsByFault_writeRoundTripTest valid clean writable.word
    writable.checked
  have logged : ∀ path : Text,
      (do log .info ("Generated " ++ path); pure path : Action Text).EndsByFault :=
    fun path => EndsByFault.bind (endsBy_log _ _) fun _ => endsBy_pure _
  unfold writeSample
  refine (Java.Generator.endsByFault_writeClass valid clean writable.word writable.sourced).bind
    fun path => ?_
  split
  · exact test.bind fun _ => logged path
  · exact logged path

theorem endsByFault_writeSamples {specs : Keyed ClassSpec}
    (writable : ∀ entry ∈ specs, IsWritable g entry.1 entry.2) : ∀ told,
    (request.writeSamples g project told specs).EndsByFault := by
  induction specs with
  | nil => exact fun told => endsBy_pure told
  | cons entry rest ih =>
    obtain ⟨file, spec⟩ := entry
    obtain ⟨first, later⟩ := List.forall_mem_cons.mp writable
    intro told
    rw [writeSamples]
    exact (endsByFault_writeSample valid clean first).bind fun path => ih later _

end JavaRequest

end

/-! ## Preparing -/

namespace JavaRequest

/-- The end of a conversion to Java, once it is known how the classes are generated. -/
def finish (files : List Text) (failed : Keyed Text) (generating : Action (Keyed Text)) :
    Action Report := do
  let generated ← generating
  if !failed.isEmpty then
    Action.log .warning (Text.ofNat failed.length ++ " of " ++ Text.ofNat files.length ++
      " files could not be converted")
  pure ⟨generated, failed⟩

/-- All that comes before writing in a conversion to Java, and what is then left to do. -/
def prepare (request : JavaRequest) : Action (Action Report) := do
  let packageName ← request.chosenPackageName
  let g ← Action.check .package (request.generator packageName)
  let tree ← Action.files
  let files ← Action.check .input (tree.findSamples request.inputs)
  let samples ← Action.synthesizeSamples request.options files
  if samples.specs.isEmpty then pure (finish files samples.failed (pure []))
  else do
    let project ← Action.output request.project
    pure (finish files samples.failed do
      let _ ← g.writeProjectFile project
      request.writeSamples g project [] samples.specs)

theorem convert_eq (request : JavaRequest) :
    request.convert = request.prepare >>= fun rest => rest := by
  simp only [convert, prepare, bind_assoc]
  refine bind_congr fun packageName => bind_congr fun g => bind_congr fun tree =>
    bind_congr fun files => bind_congr fun samples => ?_
  rw [writeAll]
  split <;> simp only [finish, bind_assoc, pure_bind]

theorem keepsFiles_prepare (request : JavaRequest) : request.prepare.KeepsFiles := by
  have named : request.chosenPackageName.KeepsFiles := by
    rw [chosenPackageName]
    split
    · exact (keepsFiles_output _).bind fun _ => keepsFiles_pure _
    · exact keepsFiles_pure _
  refine named.bind fun packageName => (keepsFiles_check _ _).bind fun g =>
    keepsFiles_files.bind fun tree => (keepsFiles_check _ _).bind fun files =>
      (keepsFiles_synthesizeSamples _ _).bind fun samples => ?_
  split
  · exact keepsFiles_pure _
  · exact (keepsFiles_output _).bind fun _ => keepsFiles_pure _

end JavaRequest

namespace SpecRequest

def prepare (request : SpecRequest) : Action (Action Report) := do
  let tree ← Action.files
  let files ← Action.check .input (tree.findSamples request.inputs)
  let samples ← Action.synthesizeSamples request.options files
  let output ← Action.output request.output
  pure do
    makeOutputDirectory output
    Action.writeText output ((specDocument (samples.specs.map Prod.snd)).indented 0)
    pure ⟨specNames samples.specs, samples.failed⟩

theorem convert_eq (request : SpecRequest) :
    request.convert = request.prepare >>= fun rest => rest := by
  simp only [convert, prepare, bind_assoc, pure_bind]

theorem keepsFiles_prepare (request : SpecRequest) : request.prepare.KeepsFiles :=
  keepsFiles_files.bind fun _ => (keepsFiles_check _ _).bind fun _ =>
    (keepsFiles_synthesizeSamples _ _).bind fun _ =>
      (keepsFiles_output _).bind fun _ => keepsFiles_pure _

end SpecRequest

/-! ## What is left to do once a conversion is prepared -/

variable {before after : Workspace} {rest : Action Report}

namespace JavaRequest

theorem isWritable_of_sampleOutcome {g : Java.Generator} {tree : FileTree} {raw : RawOptions}
    {file : Text} {spec : ClassSpec}
    (valid : ∀ segment ∈ g.package.segments, Java.Package.isSegment segment = true)
    (outcome : tree.sampleOutcome raw file (ClassName.ofFile file) = .spec spec) :
    IsWritable g file spec := by
  obtain ⟨⟨content, held⟩, options, document, success⟩ := synthesis_of_sampleOutcome outcome
  exact ⟨(FileTree.read_eq_ok_iff.mp held).1,
    Text.isWord_of_isIdentifier (mirrors_of_synthesizeFresh success).1,
    Java.exists_source valid success⟩

theorem endsByFault_finish {generating : Action (Keyed Text)} (ends : generating.EndsByFault)
    (files : List Text) (failed : Keyed Text) : (finish files failed generating).EndsByFault := by
  refine ends.bind fun generated => ?_
  split
  · exact EndsByFault.bind (endsBy_log _ _) fun _ => endsBy_pure _
  · exact endsBy_pure _

theorem endsByFault_of_prepare {request : JavaRequest}
    (clean : ∀ project, request.project = some project → Path.IsClean project)
    (prepared : request.prepare.Returns before rest after) : rest.EndsByFault := by
  unfold prepare at prepared
  simp only [returns_bind_iff, returns_check_iff, returns_files_iff,
    returns_synthesizeSamples_iff] at prepared
  obtain ⟨name, _, -, g, _, ⟨accepted, rfl⟩, tree, _, ⟨rfl, rfl⟩, files, _, ⟨-, rfl⟩, samples, _,
    ⟨synthesized, rfl⟩, prepared⟩ := prepared
  split at prepared
  · obtain ⟨rfl, -⟩ := returns_pure_iff.mp prepared
    exact endsByFault_finish (endsBy_pure _) _ _
  · simp only [returns_bind_iff, returns_output_iff, returns_pure_iff] at prepared
    obtain ⟨project, _, ⟨given, -⟩, rfl, -⟩ := prepared
    have valid := isSegment_of_generator accepted
    have settles := Samples.settles_of_synthesizeSamples synthesized
    have writable : ∀ entry ∈ samples.specs, IsWritable g entry.1 entry.2 :=
      fun entry converted => isWritable_of_sampleOutcome valid
        (settles.converted entry.1 entry.2 converted)
    apply endsByFault_finish
    exact (Java.Generator.endsByFault_writeProjectFile valid (clean project given)).bind
      fun _ => endsByFault_writeSamples valid (clean project given) writable []

end JavaRequest

theorem isPlain_specDocument (specs : List ClassSpec) : (specDocument specs).isPlain = true := by
  have entries : ∀ (specs : List ClassSpec) (told : Keyed Json),
      Json.membersArePlain told = true →
      Json.membersArePlain (specs.foldl
        (fun (entries : Keyed Json) spec => entries.put spec.name spec.toJson) told) = true := by
    intro specs
    induction specs with
    | nil => exact fun _ plain => plain
    | cons spec rest ih =>
      exact fun told plain => ih _ (Json.membersArePlain_put _ plain spec.isPlain_toJson)
  rw [specDocument, Json.isPlain]
  exact entries specs [] rfl

namespace SpecRequest

theorem endsByFault_makeOutputDirectory {output : Text} (clean : Path.IsClean output) :
    (makeOutputDirectory output).EndsByFault := by
  refine EndsByFault.bind endsBy_files fun tree => ?_
  split
  · exact endsByFault_makeNewDirectories clean.dirName
  · exact endsBy_pure _

theorem endsByFault_of_prepare {request : SpecRequest}
    (clean : ∀ output, request.output = some output → Path.IsClean output)
    (prepared : request.prepare.Returns before rest after) : rest.EndsByFault := by
  unfold prepare at prepared
  simp only [returns_bind_iff, returns_check_iff, returns_files_iff, returns_output_iff,
    returns_pure_iff, returns_synthesizeSamples_iff] at prepared
  obtain ⟨tree, _, -, files, _, -, samples, _, -, output, _, ⟨given, -⟩, rfl, -⟩ := prepared
  have encodable := Json.isEncodable_indented _ 0
    (isPlain_specDocument (samples.specs.map Prod.snd))
  exact (endsByFault_makeOutputDirectory (clean output given)).bind fun _ =>
    (endsByFault_writeText (clean output given) encodable).bind fun _ => endsBy_pure _

end SpecRequest

/-! ## Refusals -/

namespace Conversion

/-- The path that a conversion writes to: a project directory or a document. -/
def output? : Conversion → Option Text
  | .java request => request.project
  | .classSpec request => request.output

/-- All that comes before writing in a conversion, and what is then left to do. -/
def prepare : Conversion → Action (Action Report)
  | .java request => request.prepare
  | .classSpec request => request.prepare

theorem convert_eq (conversion : Conversion) :
    conversion.convert = conversion.prepare >>= fun rest => rest := by
  cases conversion with
  | java request => exact request.convert_eq
  | classSpec request => exact request.convert_eq

theorem keepsFiles_prepare (conversion : Conversion) : conversion.prepare.KeepsFiles := by
  cases conversion with
  | java request => exact request.keepsFiles_prepare
  | classSpec request => exact request.keepsFiles_prepare

theorem endsByFault_of_prepare {conversion : Conversion}
    (clean : ∀ path, conversion.output? = some path → Path.IsClean path)
    (prepared : conversion.prepare.Returns before rest after) : rest.EndsByFault := by
  cases conversion with
  | java request => exact JavaRequest.endsByFault_of_prepare clean prepared
  | classSpec request => exact SpecRequest.endsByFault_of_prepare clean prepared

/-- A conversion that ends early, but for a fault of the file system, has not come to the writing,
and the files are what they were. -/
theorem refused_before_writing (conversion : Conversion) (before after : Workspace)
    (e : ConversionError)
    (clean : ∀ path, conversion.output? = some path → Path.IsClean path)
    (refused : conversion.convert.runOn before = (.error e, after)) (noFault : e.isFault = false) :
    after.files = before.files ∧ conversion.prepare.runOn before = (.error e, after) := by
  have kept := conversion.keepsFiles_prepare before
  rw [convert_eq, runOn_bind] at refused
  cases went : conversion.prepare.runOn before with
  | mk outcome between =>
    rw [went] at refused kept
    cases outcome with
    | error cause =>
      obtain ⟨same, rfl⟩ := Prod.mk.inj refused
      cases same
      exact ⟨kept, rfl⟩
    | ok rest =>
      have fault := endsByFault_of_prepare clean went between e after refused
      rw [noFault] at fault
      cases fault

/-- A depth below zero is refused only when the first sample has been read. -/
def boundlessInputs : JavaRequest :=
  ⟨["a.json"], some "out", "demo", true, true, { RawOptions.default with maxDepth := some (-1) }⟩

theorem boundlessInputs_refused_before_writing :
    ∃ e after,
      (java boundlessInputs).convert.runOn ⟨JavaRequest.loneSample, []⟩ = (.error e, after) ∧
      e.isFault = false ∧ after.files = JavaRequest.loneSample ∧
      (java boundlessInputs).prepare.runOn ⟨JavaRequest.loneSample, []⟩ = (.error e, after) := by
  have clean : ∀ path, (java boundlessInputs).output? = some path → Path.IsClean path := by
    rintro path ⟨⟩
    exact Path.isClean_ofString (by decide)
  have refused : (java boundlessInputs).convert.runOn ⟨JavaRequest.loneSample, []⟩ =
      (.error (.options (.negativeDepth (-1))), ⟨JavaRequest.loneSample, []⟩) := by
    rfl
  exact ⟨_, _, refused, rfl, refused_before_writing _ _ _ _ clean refused rfl⟩

end Conversion

end ClassSynth
