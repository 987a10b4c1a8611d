import ClassSynth.Proofs.Batch.Conversion
import ClassSynth.Proofs.FileTree.Growth
import ClassSynth.Proofs.Inference.Naming
import ClassSynth.Proofs.Java.Output

/-!
# What a conversion to Java leaves

Every step of a conversion writes at paths that are known beforehand, and makes the directories that
these lead through.  Files of different kinds or of different classes have different places, and the
classes of a conversion have different names, so nothing that is written is replaced.  The main
statement says what stands in the file tree after a conversion that returns.
-/

set_option autoImplicit false

namespace ClassSynth

open ClassSynth.Action

/-! ## Steps -/

section

variable {before after : Workspace}

theorem grows_of_returns_makeDirectories {path : Text} {value : Unit}
    (returned : (makeDirectories path).Returns before value after) :
    FileTree.Grows FileTree.nowhere
      (Location.LeadsThrough before.files.workingDirectory path) before.files after.files := by
  obtain ⟨tree, made, rfl⟩ := returns_attempt_iff.mp returned
  exact FileTree.grows_of_makeDirectories made

theorem writes_of_returns_openFile {path : Text} {value : Unit}
    (returned : (openFile path).Returns before value after) :
    FileTree.Writes [path] before.files after.files := by
  obtain ⟨tree, opened, rfl⟩ := returns_change_iff.mp returned
  exact FileTree.writes_of_written (FileTree.grows_of_write opened)

theorem writes_of_returns_writeText {path content : Text} {value : Unit}
    (returned : (writeText path content).Returns before value after) :
    FileTree.Writes [path] before.files after.files ∧
      ∃ bytes, Utf8.encode content = .ok bytes ∧ after.files.read path = .ok bytes := by
  obtain ⟨tree, wrote, rfl⟩ := returns_attempt_iff.mp returned
  obtain ⟨grows, holds⟩ := FileTree.of_writeText wrote
  exact ⟨FileTree.writes_of_written grows, holds⟩

theorem writes_of_returns_copy {source target : Text} {value : Unit}
    (returned : (copy source target).Returns before value after) :
    FileTree.Writes [target] before.files after.files ∧
      ∃ bytes, before.files.read source = .ok bytes ∧ after.files.read target = .ok bytes := by
  obtain ⟨tree, copied, rfl⟩ := returns_change_iff.mp returned
  obtain ⟨grows, holds⟩ := FileTree.of_copy copied
  exact ⟨FileTree.writes_of_written grows, holds⟩

end

namespace Java.Generator

variable {g : Generator} {project path : Text} {before after : Workspace}

section

variable {className : Text} (word : className.IsWord)

include word

theorem writes_of_writeSource {source : Except ConversionError Text}
    (returned : (g.writeSource className source project).Returns before path after) :
    FileTree.Writes [Output.source.path g project className] before.files after.files ∧
      ∃ text bytes, source = .ok text ∧ Utf8.encode text = .ok bytes ∧
        after.files.read (Output.source.path g project className) = .ok bytes := by
  unfold writeSource at returned
  simp only [returns_bind_iff, returns_check_iff, returns_pure_iff] at returned
  obtain ⟨_, made, making, _, opened, opening, text, _, ⟨sourced, rfl⟩, _, written, writing, -,
    rfl⟩ := returned
  have named := Output.isName_fileName word .source
  have first := FileTree.writes_of_made named (grows_of_returns_makeDirectories making)
  have second := writes_of_returns_openFile opening
  obtain ⟨third, bytes, encoded, held⟩ := writes_of_returns_writeText writing
  exact ⟨(first.trans second).trans third, text, bytes, sourced, encoded, held⟩

theorem writes_of_writeRoundTripTest
    (named : ∀ segment ∈ g.package.segments, Path.IsName segment) {sample : Text}
    (returned : (g.writeRoundTripTest className sample project).Returns before path after) :
    FileTree.Writes [Output.resource.path g project className, Output.test.path g project className]
        before.files after.files ∧
      (∀ content, before.files.read sample = .ok content →
        after.files.read (Output.resource.path g project className) = .ok content) ∧
      ∃ bytes, Utf8.encode (RoundTripTest.ofClass g.package className (className ++ ".json")).text =
        .ok bytes ∧ after.files.read (Output.test.path g project className) = .ok bytes := by
  unfold writeRoundTripTest writeBelow at returned
  simp only [returns_bind_iff, returns_pure_iff] at returned
  obtain ⟨_, made, makingResources, _, copied, copying, _, written,
    ⟨_, ready, makingTests, writing⟩, -, rfl⟩ := returned
  rw [Output.dirName_testPath named word] at makingTests
  have making := grows_of_returns_makeDirectories makingResources
  have first := FileTree.writes_of_made (Output.isName_fileName word .resource) making
  obtain ⟨second, bytes, read, resource⟩ := writes_of_returns_copy copying
  have third := FileTree.writes_of_made (Output.isName_fileName word .test)
    (grows_of_returns_makeDirectories makingTests)
  rw [← Output.path_eq] at third
  obtain ⟨fourth, test⟩ := writes_of_returns_writeText writing
  have resources : FileTree.Writes [Output.resource.path g project className] before.files
      copied.files := first.trans second
  have tests : FileTree.Writes [Output.test.path g project className] copied.files after.files :=
    third.trans fourth
  refine ⟨resources.append tests, ?_, test⟩
  intro content held
  -- Making the directory of the resources changes no file, so that the sample is copied as it was.
  have unchanged := making.read (fun none => none) held
  rw [read, Except.ok.injEq] at unchanged
  apply tests.read _ (unchanged ▸ resource)
  intro other listed same
  rw [List.mem_singleton.mp listed] at same
  exact absurd (Output.eq_of_place_eq named word word same).1 (by decide)

end

/-- What writing a project file does: one that is there stays, and else one is put there, unless on
the way to the project directory a directory was made in its place. -/
inductive SettlesProjectFile (g : Generator) (project : Text) (before after : FileTree) : Prop where
  | kept (node : Node)
      (there : before.node?
        (Location.ofPath before.workingDirectory (projectFilePath project)) = some node)
      (stays : after.node?
        (Location.ofPath before.workingDirectory (projectFilePath project)) = some node)
  | put (absent : before.node?
        (Location.ofPath before.workingDirectory (projectFilePath project)) = none)
      (bytes : Bytes) (encoded : Utf8.encode (ProjectFile.ofGenerator g).text = .ok bytes)
      (held : after.read (projectFilePath project) = .ok bytes)
  | passed (absent : before.node?
        (Location.ofPath before.workingDirectory (projectFilePath project)) = none)
      (through : Location.LeadsThrough before.workingDirectory project
        (Location.ofPath before.workingDirectory (projectFilePath project)))
      (stands : after.node?
        (Location.ofPath before.workingDirectory (projectFilePath project)) = some .directory)

theorem writes_of_writeProjectFile
    (returned : (g.writeProjectFile project).Returns before path after) :
    FileTree.Writes [projectFilePath project] before.files after.files ∧
      g.SettlesProjectFile project before.files after.files := by
  unfold writeProjectFile at returned
  simp only [returns_bind_iff, returns_files_iff] at returned
  obtain ⟨_, made, making, tree, between, ⟨sameTree, same⟩, chosen⟩ := returned
  rw [sameTree, same] at chosen
  have grows := grows_of_returns_makeDirectories making
  have first := FileTree.writes_of_made isName_projectFile grows
  have untouched := grows.of_untouched
    (Location.ofPath before.files.workingDirectory (projectFilePath project)) fun none => none
  by_cases there : made.files.has (projectFilePath project) = true
  · rw [projectFilePath] at there
    rw [if_pos there, returns_pure_iff] at chosen
    obtain ⟨-, rfl⟩ := chosen
    refine ⟨first, ?_⟩
    obtain ⟨node, stands⟩ := FileTree.exists_of_has there
    rw [grows.here] at stands
    rcases untouched with kept | ⟨through, absent, directory⟩
    · exact .kept node (kept ▸ stands) stands
    · exact .passed absent through directory
  · rw [projectFilePath] at there
    rw [if_neg there, returns_bind_iff] at chosen
    obtain ⟨_, written, writing, done⟩ := chosen
    obtain ⟨-, rfl⟩ := returns_pure_iff.mp done
    obtain ⟨second, bytes, encoded, held⟩ := writes_of_returns_writeText writing
    refine ⟨first.trans second, ?_⟩
    -- The write could follow the path, so nothing stood at its end.
    obtain ⟨_, wrote, _⟩ := returns_attempt_iff.mp writing
    have looked := FileTree.has_of_writeText wrote
    rw [Bool.not_eq_true, looked, Option.isSome_eq_false_iff, Option.isNone_iff_eq_none,
      grows.here] at there
    rcases untouched with kept | ⟨-, absent, -⟩
    · exact .put (kept ▸ there) bytes encoded held
    · exact .put absent bytes encoded held

end Java.Generator

/-! ## Samples -/

namespace JavaRequest

open Java

variable (request : JavaRequest) (g : Generator) (project : Text)

/-- The files that a request asks for with every class. -/
def outputs : List Output :=
  if request.roundTripTests then [.source, .resource, .test] else [.source]

def outputPaths (className : Text) : List Text :=
  request.outputs.map fun output => output.path g project className

/-- The paths of all files that belong to the classes of samples. -/
def allPaths (specs : Keyed ClassSpec) : List Text :=
  specs.flatMap fun entry => request.outputPaths g project entry.2.name

/-- Whether a file lies outside the project directory. -/
def LiesOutside (here : Location) (project file : Text) : Prop :=
  ¬ Location.ofPath here project <+: Location.ofPath here file

instance (here : Location) (project file : Text) : Decidable (LiesOutside here project file) :=
  inferInstanceAs (Decidable (¬ Location.ofPath here project <+: Location.ofPath here file))

/-- Whether a tree holds what belongs to a sample of an earlier one: the source of its class, and
with round-trip tests the test and the sample that this reads. -/
structure Delivers (before : FileTree) (file : Text) (spec : ClassSpec) (after : FileTree) :
    Prop where
  source : ∃ text bytes, g.source spec = .ok text ∧ Utf8.encode text = .ok bytes ∧
    after.read (Output.source.path g project spec.name) = .ok bytes
  resource : request.roundTripTests = true → LiesOutside before.workingDirectory project file →
    ∀ content, before.read file = .ok content →
      after.read (Output.resource.path g project spec.name) = .ok content
  test : request.roundTripTests = true → ∃ bytes,
    Utf8.encode (RoundTripTest.ofClass g.package spec.name (spec.name ++ ".json")).text =
      .ok bytes ∧
    after.read (Output.test.path g project spec.name) = .ok bytes

variable {request g project} {file : Text} {spec : ClassSpec} {specs : Keyed ClassSpec}

theorem exists_of_mem_outputPaths {className path : Text}
    (listed : path ∈ request.outputPaths g project className) :
    ∃ output, path = Output.path g project className output := by
  obtain ⟨output, -, rfl⟩ := List.mem_map.mp listed
  exact ⟨output, rfl⟩

theorem exists_of_mem_allPaths {path : Text} (listed : path ∈ request.allPaths g project specs) :
    ∃ entry ∈ specs, ∃ output, path = Output.path g project entry.2.name output := by
  obtain ⟨entry, converted, owned⟩ := List.mem_flatMap.mp listed
  obtain ⟨output, rfl⟩ := exists_of_mem_outputPaths owned
  exact ⟨entry, converted, output, rfl⟩

/-- What is written in the project directory leaves a file outside as it is. -/
theorem LiesOutside.read {before after : FileTree} {paths : List Text} {content : Bytes}
    (outside : LiesOutside before.workingDirectory project file)
    (writes : before.Writes paths after)
    (within : ∀ path ∈ paths, Location.ofPath before.workingDirectory project <+:
      Location.ofPath before.workingDirectory path)
    (held : before.read file = .ok content) : after.read file = .ok content := by
  apply writes.read _ held
  intro path listed same
  apply outside
  rw [same]
  exact within path listed

theorem Delivers.of_writes {before after later : FileTree} {paths : List Text}
    (delivers : request.Delivers g project before file spec after)
    (writes : after.Writes paths later)
    (apart : ∀ output path, path ∈ paths →
      Location.ofPath after.workingDirectory (Output.path g project spec.name output) ≠
        Location.ofPath after.workingDirectory path) :
    request.Delivers g project before file spec later := by
  obtain ⟨⟨text, bytes, sourced, encoded, source⟩, resource, test⟩ := delivers
  refine ⟨⟨text, bytes, sourced, encoded, writes.read (apart .source) source⟩, ?_, ?_⟩
  · intro tests outside content held
    exact writes.read (apart .resource) (resource tests outside content held)
  · intro tests
    obtain ⟨testBytes, testEncoded, held⟩ := test tests
    exact ⟨testBytes, testEncoded, writes.read (apart .test) held⟩

theorem Delivers.of_writes_before {earlier before after : FileTree} {paths : List Text}
    (delivers : request.Delivers g project before file spec after)
    (writes : earlier.Writes paths before)
    (within : ∀ path ∈ paths, Location.ofPath earlier.workingDirectory project <+:
      Location.ofPath earlier.workingDirectory path) :
    request.Delivers g project earlier file spec after := by
  refine ⟨delivers.source, ?_, delivers.test⟩
  intro tests outside content held
  apply delivers.resource tests _ content (outside.read writes within held)
  rw [writes.here]
  exact outside

section

variable (named : ∀ segment ∈ g.package.segments, Path.IsName segment)

include named

theorem within_of_mem_outputPaths {className path : Text} (word : className.IsWord)
    (here : Location) (listed : path ∈ request.outputPaths g project className) :
    Location.ofPath here project <+: Location.ofPath here path := by
  obtain ⟨output, rfl⟩ := exists_of_mem_outputPaths listed
  exact Output.within_project named word here project output

variable {before after : Workspace}

theorem writes_of_writeSample {path : Text} (word : spec.name.IsWord)
    (returned : (request.writeSample g project file spec).Returns before path after) :
    before.files.Writes (request.outputPaths g project spec.name) after.files ∧
      request.Delivers g project before.files file spec after.files := by
  unfold writeSample Generator.writeClass at returned
  rw [returns_bind_iff] at returned
  obtain ⟨written, between, wrote, returned⟩ := returned
  obtain ⟨first, text, bytes, sourced, encoded, source⟩ :=
    Generator.writes_of_writeSource word wrote
  have rendered : g.source spec = .ok text := by
    cases outcome : g.source spec with
    | error e => simp [outcome, mapError_error] at sourced
    | ok other => simpa [outcome, mapError_ok] using sourced
  unfold outputPaths outputs
  cases tests : request.roundTripTests with
  | false =>
    simp only [tests, Bool.false_eq_true, if_false, returns_bind_iff, returns_log_iff,
      returns_pure_iff] at returned
    obtain ⟨_, _, rfl, -, rfl⟩ := returned
    exact ⟨first, ⟨text, bytes, rendered, encoded, source⟩, by simp [tests], by simp [tests]⟩
  | true =>
    simp only [tests, if_true, returns_bind_iff, returns_log_iff, returns_pure_iff] at returned
    obtain ⟨_, tested, testing, _, _, rfl, -, rfl⟩ := returned
    obtain ⟨second, resource, test⟩ := Generator.writes_of_writeRoundTripTest word named testing
    refine ⟨first.append second, ⟨text, bytes, rendered, encoded, ?_⟩, ?_, fun _ => test⟩
    · apply second.read _ source
      intro other listed same
      simp only [List.mem_cons, List.not_mem_nil, or_false] at listed
      rcases listed with rfl | rfl
      · exact absurd (Output.eq_of_place_eq named word word same).1 (by decide)
      · exact absurd (Output.eq_of_place_eq named word word same).1 (by decide)
    · intro _ outside content held
      apply resource content (outside.read first _ held)
      intro other listed
      rw [List.mem_singleton.mp listed]
      exact Output.within_project named word _ project .source

/-- The classes of a batch have different names, so that what is written for one sample replaces
nothing of another. -/
theorem writes_of_writeSamples {told generated : Keyed Text}
    (words : ∀ entry ∈ specs, entry.2.name.IsWord)
    (apart : specs.Pairwise fun first second => first.2.name ≠ second.2.name)
    (returned : (request.writeSamples g project told specs).Returns before generated after) :
    before.files.Writes (request.allPaths g project specs) after.files ∧
      ∀ entry ∈ specs, request.Delivers g project before.files entry.1 entry.2 after.files := by
  induction specs generalizing before told with
  | nil =>
    rw [writeSamples, returns_pure_iff] at returned
    rw [returned.2]
    exact ⟨.refl _ _, List.forall_mem_nil _⟩
  | cons entry rest ih =>
    obtain ⟨file, spec⟩ := entry
    rw [writeSamples, returns_bind_iff] at returned
    obtain ⟨path, between, wrote, returned⟩ := returned
    obtain ⟨word, words⟩ := List.forall_mem_cons.mp words
    obtain ⟨fresh, apart⟩ := List.pairwise_cons.mp apart
    obtain ⟨first, delivered⟩ := writes_of_writeSample named word wrote
    obtain ⟨second, deliveredLater⟩ := ih words apart returned
    refine ⟨first.append second, List.forall_mem_cons.mpr ⟨?_, ?_⟩⟩
    · -- What is written for later samples has other names, and so other places.
      apply delivered.of_writes second
      intro output path owned same
      obtain ⟨later, listed, other, rfl⟩ := exists_of_mem_allPaths owned
      exact fresh later listed (Output.eq_of_place_eq named word (words later listed) same).2
    · -- What was written for the first one lies in the project, and the samples outside of it.
      intro later listed
      apply (deliveredLater later listed).of_writes_before first
      exact fun path owned => within_of_mem_outputPaths named word _ owned

end

/-- What accounts for what stands at a location after a conversion, given the samples converted. -/
inductive AccountsFor (request : JavaRequest) (g : Generator) (project : Text)
    (specs : Keyed ClassSpec) (before after : FileTree) (location : Location) : Prop where
  | untouched (same : after.node? location = before.node? location)
  | output (path : Text) (listed : path ∈ request.allPaths g project specs)
      (place : location = Location.ofPath before.workingDirectory path)
  | projectFile (absent : before.node? location = none)
      (place : location = Location.ofPath before.workingDirectory (projectFilePath project))
  | directory (absent : before.node? location = none)
      (stands : after.node? location = some .directory) (path : Text)
      (listed : path ∈ projectFilePath project :: request.allPaths g project specs)
      (through : Location.LeadsThrough before.workingDirectory path location)

/-- What a conversion leaves of a file tree, given the samples converted: all that belongs to them,
a project file, and everything else as it was, up to directories on the way to these files. -/
structure Leaves (request : JavaRequest) (g : Generator) (project : Text) (specs : Keyed ClassSpec)
    (before after : FileTree) : Prop where
  delivered : ∀ entry ∈ specs, request.Delivers g project before entry.1 entry.2 after
  projectFile : g.SettlesProjectFile project before after
  others : ∀ location, request.AccountsFor g project specs before after location
  outside : ∀ location, ¬ Location.ofPath before.workingDirectory project <+: location →
    ∀ content, after.node? location = some (.file content) ↔
      before.node? location = some (.file content)

section

variable {before mid after : FileTree}

theorem accountsFor_of_writes (first : before.Writes [projectFilePath project] mid)
    (settled : g.SettlesProjectFile project before after)
    (second : mid.Writes (request.allPaths g project specs) after) (location : Location) :
    request.AccountsFor g project specs before after location := by
  by_cases owned : ∃ path ∈ request.allPaths g project specs,
      location = Location.ofPath before.workingDirectory path
  · obtain ⟨path, listed, place⟩ := owned
    exact .output path listed place
  · by_cases ofProject :
        location = Location.ofPath before.workingDirectory (projectFilePath project)
    · cases settled with
      | kept node there stays =>
        rw [← ofProject] at there stays
        exact .untouched (stays.trans there.symm)
      | put absent => exact .projectFile (ofProject ▸ absent) ofProject
      | passed absent => exact .projectFile (ofProject ▸ absent) ofProject
    · have untouched : ¬ ∃ path ∈ [projectFilePath project],
          location = Location.ofPath before.workingDirectory path := by
        rintro ⟨path, listed, place⟩
        rw [List.mem_singleton.mp listed] at place
        exact ofProject place
      have still : ¬ ∃ path ∈ request.allPaths g project specs,
          location = Location.ofPath mid.workingDirectory path := by
        rwa [first.here]
      rcases FileTree.Grows.of_untouched first location untouched with
        same | ⟨⟨path, listed, through⟩, absent, standing⟩
      · rcases FileTree.Grows.of_untouched second location still with
          kept | ⟨⟨path, listed, through⟩, absent, stands⟩
        · exact .untouched (kept.trans same)
        · rw [same] at absent
          rw [first.here] at through
          exact .directory absent stands path (List.mem_cons_of_mem _ listed) through
      · rw [List.mem_singleton.mp listed] at through
        -- What was made a directory on the way to the project file stays one.
        have stands := FileTree.Grows.stays second still standing
        exact .directory absent stands _ List.mem_cons_self through

variable (named : ∀ segment ∈ g.package.segments, Path.IsName segment)
  (words : ∀ entry ∈ specs, entry.2.name.IsWord)

include named words

theorem place_projectFile_not_mem (here : Location) :
    ¬ ∃ path ∈ request.allPaths g project specs,
      Location.ofPath here (projectFilePath project) = Location.ofPath here path := by
  rintro ⟨path, listed, same⟩
  obtain ⟨entry, converted, output, rfl⟩ := exists_of_mem_allPaths listed
  exact place_projectFile_ne named (words entry converted) here project output same

theorem settlesProjectFile_of_writes (settles : g.SettlesProjectFile project before mid)
    (here : mid.workingDirectory = before.workingDirectory)
    (writes : mid.Writes (request.allPaths g project specs) after) :
    g.SettlesProjectFile project before after := by
  have apart : ¬ ∃ path ∈ request.allPaths g project specs,
      Location.ofPath before.workingDirectory (projectFilePath project) =
        Location.ofPath mid.workingDirectory path := by
    rw [here]
    exact place_projectFile_not_mem named words _
  cases settles with
  | kept node there stays => exact .kept node there (FileTree.Grows.stays writes apart stays)
  | put absent bytes encoded held =>
    rw [← here] at apart
    exact .put absent bytes encoded (FileTree.Grows.read writes apart held)
  | passed absent through stands =>
    exact .passed absent through (FileTree.Grows.stays writes apart stands)

theorem leaves_of_writes (first : before.Writes [projectFilePath project] mid)
    (settles : g.SettlesProjectFile project before mid)
    (second : mid.Writes (request.allPaths g project specs) after)
    (delivered : ∀ entry ∈ specs, request.Delivers g project mid entry.1 entry.2 after) :
    request.Leaves g project specs before after := by
  have settled := settlesProjectFile_of_writes named words settles first.here second
  have others := accountsFor_of_writes first settled second
  refine ⟨?_, settled, others, ?_⟩
  · intro entry converted
    apply (delivered entry converted).of_writes_before first
    intro path listed
    rw [List.mem_singleton.mp listed, place_projectFile]
    exact List.prefix_append _ _
  · intro location apart content
    cases others location with
    | untouched same => rw [same]
    | output path listed place =>
      subst place
      obtain ⟨entry, converted, output, rfl⟩ := exists_of_mem_allPaths listed
      exact absurd (Output.within_project named (words entry converted) _ project output) apart
    | projectFile absent place =>
      rw [place, place_projectFile] at apart
      exact absurd (List.prefix_append _ _) apart
    | directory absent stands => simp [absent, stands]

theorem leaves_of_writeAll {before after : Workspace} {generated : Keyed Text}
    (apart : specs.Pairwise fun first second => first.2.name ≠ second.2.name)
    (keys : specs.keys.Nodup) (nonempty : specs ≠ [])
    (returned : (request.writeAll g specs).Returns before generated after) :
    ∃ project, request.project = some project ∧ generated = generatedFor g project specs ∧
      request.Leaves g project specs before.files after.files := by
  have isEmpty : specs.isEmpty = false := List.isEmpty_eq_false_iff.mpr nonempty
  unfold writeAll at returned
  simp only [isEmpty, Bool.false_eq_true, if_false, returns_bind_iff, returns_output_iff]
    at returned
  obtain ⟨project, _, ⟨given, rfl⟩, path, mid, prepared, wrote⟩ := returned
  obtain ⟨first, settles⟩ := Generator.writes_of_writeProjectFile prepared
  obtain ⟨second, delivered⟩ := writes_of_writeSamples named words apart wrote
  have told := generated_of_writeSamples (by simpa [Keyed.keys] using keys) wrote
  rw [List.nil_append] at told
  exact ⟨project, given, told, leaves_of_writes named words first settles second delivered⟩

end

/-! ## Conversions -/

theorem synthesis_of_sampleOutcome {tree : FileTree} {raw : RawOptions} {file name : Text}
    {spec : ClassSpec} (outcome : tree.sampleOutcome raw file name = .spec spec) :
    (∃ content, tree.read file = .ok content) ∧
      ∃ options document, synthesizeFresh options document (some name) = .ok spec := by
  obtain ⟨options, document, -, loaded, success⟩ := sampleOutcome_eq_spec_iff.mp outcome
  refine ⟨?_, options, document, success⟩
  unfold FileTree.loadSample at loaded
  cases held : tree.read file with
  | error e => simp [held] at loaded
  | ok content => exact ⟨content, rfl⟩

theorem of_sampleOutcome_eq_spec {tree : FileTree} {raw : RawOptions} {file name : Text}
    {spec : ClassSpec} (outcome : tree.sampleOutcome raw file name = .spec spec) :
    (∃ content, tree.read file = .ok content) ∧ spec.name = name := by
  obtain ⟨held, options, document, success⟩ := synthesis_of_sampleOutcome outcome
  exact ⟨held, name_of_synthesizeFresh success⟩

theorem isSegment_of_generator {name : Text} (accepted : request.generator name = .ok g) :
    ∀ segment ∈ g.package.segments, Package.isSegment segment = true := by
  rw [generator] at accepted
  cases outcome : Package.ofName name with
  | error e => simp [outcome, Except.map] at accepted
  | ok package =>
    rw [outcome] at accepted
    cases accepted
    exact Package.isSegment_of_ofName outcome

theorem isWord_of_ofFile (names : ∀ entry ∈ specs, entry.2.name = ClassName.ofFile entry.1) :
    ∀ entry ∈ specs, entry.2.name.IsWord := by
  intro entry converted
  rw [names entry converted]
  exact Text.isWord_of_isIdentifier (ClassName.isIdentifier_ofFile entry.1)

/-- The class trees of a batch have the names of their files, which no two share. -/
theorem names_of_settles {tree : FileTree} {raw : RawOptions} {files : List Text}
    {samples : Samples} (settles : samples.Settles tree raw files) :
    (∀ entry ∈ samples.specs, entry.2.name = ClassName.ofFile entry.1) ∧
      samples.specs.Pairwise fun first second => first.2.name ≠ second.2.name := by
  have names : ∀ entry ∈ samples.specs, entry.2.name = ClassName.ofFile entry.1 := by
    intro entry converted
    exact (of_sampleOutcome_eq_spec (settles.converted entry.1 entry.2 converted)).2
  refine ⟨names, settles.apart.imp_of_mem ?_⟩
  intro first second firstConverted secondConverted different same
  rw [names first firstConverted, names second secondConverted] at same
  exact different (congrArg Text.fold same)

/-- A conversion to Java that returns changes nothing when no sample was converted, and otherwise
leaves what its report tells. -/
theorem leaves_of_steps {before after : Workspace} {report : Report}
    (returned : request.convert.Returns before report after) :
    ∃ name g files, ∃ samples : Samples,
      request.chosenPackageName.Returns before name before ∧ request.generator name = .ok g ∧
      before.files.findSamples request.inputs = .ok files ∧
      before.files.synthesizeSamples request.options files = (.ok (), samples) ∧
      report.failed = samples.failed ∧ report.generated.keys = samples.specs.keys ∧
      (samples.specs = [] → after.files = before.files) ∧
      (samples.specs ≠ [] → ∃ project, request.project = some project ∧
        report.generated = generatedFor g project samples.specs ∧
        request.Leaves g project samples.specs before.files after.files) := by
  obtain ⟨name, g, files, samples, generated, log, written, chosen, accepted, found, synthesized,
    wrote, left, rfl⟩ := steps_of_convert returned
  have settles := Samples.settles_of_synthesizeSamples synthesized
  obtain ⟨names, apart⟩ := names_of_settles settles
  refine ⟨name, g, files, samples, chosen, accepted, found, synthesized, rfl,
    keys_of_writeAll settles.distinct wrote, ?_, ?_⟩
  · intro none
    rw [none] at wrote
    obtain ⟨-, rfl⟩ := returns_pure_iff.mp wrote
    exact left
  · intro nonempty
    rw [left]
    have named : ∀ segment ∈ g.package.segments, Path.IsName segment := by
      intro segment listed
      exact Package.isName_of_isSegment (isSegment_of_generator accepted segment listed)
    have leaves := leaves_of_writeAll named (isWord_of_ofFile names) apart settles.distinct
      nonempty wrote
    exact leaves

theorem leaves_of_convert {before after : Workspace} {report : Report}
    (returned : request.convert.Returns before report after) :
    ∃ name g files, ∃ samples : Samples,
      request.chosenPackageName.Returns before name before ∧ request.generator name = .ok g ∧
      before.files.findSamples request.inputs = .ok files ∧
      samples.Settles before.files request.options files ∧
      (∀ entry ∈ samples.specs, entry.2.name = ClassName.ofFile entry.1) ∧
      report.generated.keys = samples.specs.keys ∧
      (samples.specs = [] → after.files = before.files) ∧
      (samples.specs ≠ [] → ∃ project, request.project = some project ∧
        report.generated = generatedFor g project samples.specs ∧
        request.Leaves g project samples.specs before.files after.files) := by
  obtain ⟨name, g, files, samples, chosen, accepted, found, synthesized, -, keys, idle, written⟩ :=
    leaves_of_steps returned
  have settles := Samples.settles_of_synthesizeSamples synthesized
  exact ⟨name, g, files, samples, chosen, accepted, found, settles, (names_of_settles settles).1,
    keys, idle, written⟩

/-- A conversion to Java that returns leaves what belongs to the converted samples, each with the
text that its class tree and its sample give, a project file when there are such samples, and
nothing else but directories on the way. -/
theorem convert_writes_its_outputs (request : JavaRequest) (before after : Workspace)
    (report : Report) (returns : request.convert.runOn before = (.ok report, after))
    (outside : ∀ project files, request.project = some project →
      before.files.findSamples request.inputs = .ok files →
      ∀ file ∈ files, LiesOutside before.files.workingDirectory project file) :
    ∃ name g, ∃ specs : Keyed ClassSpec,
      request.chosenPackageName.Returns before name before ∧ request.generator name = .ok g ∧
      report.generated.keys = specs.keys ∧
      (∀ entry ∈ specs, entry.2.name = ClassName.ofFile entry.1 ∧
        before.files.sampleOutcome request.options entry.1 (ClassName.ofFile entry.1) =
          .spec entry.2) ∧
      (specs = [] → after.files = before.files) ∧
      (specs ≠ [] → ∃ project, request.project = some project ∧
        report.generated = generatedFor g project specs ∧
        request.Leaves g project specs before.files after.files ∧
        (request.roundTripTests = true → ∀ entry ∈ specs, ∃ content,
          before.files.read entry.1 = .ok content ∧
          after.files.read (Output.resource.path g project entry.2.name) = .ok content)) := by
  obtain ⟨name, g, files, samples, chosen, accepted, found, settles, names, keys, idle, written⟩ :=
    leaves_of_convert returns
  refine ⟨name, g, samples.specs, chosen, accepted, keys, ?_, idle, ?_⟩
  · intro entry converted
    exact ⟨names entry converted, settles.converted entry.1 entry.2 converted⟩
  · intro nonempty
    obtain ⟨project, given, told, leaves⟩ := written nonempty
    refine ⟨project, given, told, leaves, ?_⟩
    intro tests entry converted
    obtain ⟨⟨content, held⟩, -⟩ :=
      of_sampleOutcome_eq_spec (settles.converted entry.1 entry.2 converted)
    have listed : entry.1 ∈ files :=
      (settles.noted entry.1).mp (.inl (List.mem_map_of_mem converted))
    have apart := outside project files given found entry.1 listed
    exact ⟨content, held, (leaves.delivered entry converted).resource tests apart content held⟩

/-- Two samples, beside a project directory that has a project file. -/
def siblings : FileTree :=
  ⟨[([FileName.ofText "out"], .directory),
    ([FileName.ofText "out", FileName.ofText "pom.xml"], .file []),
    ([FileName.ofText "a.json"], .file [0x7B, 0x7D]),
    ([FileName.ofText "aTest.json"], .file [0x7B, 0x7D])], []⟩

def siblingInputs : JavaRequest :=
  ⟨["a.json", "aTest.json"], some "out", "demo", true, true, .default⟩

theorem convert_siblings :
    ∃ report after, siblingInputs.convert.runOn ⟨siblings, []⟩ = (.ok report, after) ∧
      report.generated.keys = [Text.ofString "a.json", Text.ofString "aTest.json"] := by
  apply Action.exists_of_passes
  decide +kernel

/-- The sample of a sibling is where its test reads it. -/
theorem siblings_are_delivered :
    ∃ report after, siblingInputs.convert.runOn ⟨siblings, []⟩ = (.ok report, after) ∧
      (∀ project files, siblingInputs.project = some project →
        siblings.findSamples siblingInputs.inputs = .ok files →
        ∀ file ∈ files, LiesOutside siblings.workingDirectory project file) ∧
      after.files.read "out/src/test/resources/A.json" = .ok [0x7B, 0x7D] := by
  obtain ⟨report, after, returns, keys⟩ := convert_siblings
  have outside : ∀ project files, siblingInputs.project = some project →
      siblings.findSamples siblingInputs.inputs = .ok files →
      ∀ file ∈ files, LiesOutside siblings.workingDirectory project file := by
    rintro project files ⟨⟩ ⟨⟩
    decide
  refine ⟨report, after, returns, outside, ?_⟩
  obtain ⟨name, g, specs, -, -, same, named, -, written⟩ :=
    convert_writes_its_outputs siblingInputs _ _ _ returns outside
  rw [keys] at same
  have listed : Text.ofString "a.json" ∈ specs.keys := same ▸ List.mem_cons_self
  obtain ⟨entry, converted, first⟩ := List.mem_map.mp listed
  obtain ⟨project, given, -, -, copied⟩ := written (List.ne_nil_of_mem converted)
  obtain ⟨content, read, held⟩ := copied rfl entry converted
  rw [(named entry converted).1, first] at held
  rw [first] at read
  cases given
  cases read
  exact held

/-- A working directory that holds one sample, an empty object. -/
def loneSample : FileTree := ⟨[([FileName.ofText "a.json"], .file [0x7B, 0x7D])], []⟩

/-- The path of the project directory goes through the place of its project file. -/
def roundaboutInputs : JavaRequest :=
  ⟨["a.json"], some "out/pom.xml/..", "demo", true, false, .default⟩

theorem roundabout_has_no_project_file :
    ∃ report after, roundaboutInputs.convert.runOn ⟨loneSample, []⟩ = (.ok report, after) ∧
      report.generated.keys = [Text.ofString "a.json"] ∧
      LiesOutside loneSample.workingDirectory "out/pom.xml/.." "a.json" ∧
      loneSample.nodeAt? (projectFilePath "out/pom.xml/..") = none ∧
      after.files.nodeAt? (projectFilePath "out/pom.xml/..") = some .directory := by
  apply Action.exists_of_passes
  decide +kernel

end JavaRequest

end ClassSynth
