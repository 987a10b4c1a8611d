import ClassSynth.CommandLine.Run
import ClassSynth.Proofs.Batch.Document

/-!
# The exit status of a conversion

The program ends with status zero when the report of a conversion lists no failure.  A batch notes
every listing of a sample as converted or as failed, and the writing leaves out none that was
converted.  The main statement is that status zero means that all samples were converted, that they
are as many as the program says, and that what they became is there.
-/

set_option autoImplicit false

namespace ClassSynth

open ClassSynth.Action

theorem Report.ok_iff (report : Report) : report.ok = true ↔ report.failed = [] :=
  List.isEmpty_iff

namespace Conversion

def options : Conversion → RawOptions
  | .java request => request.options
  | .classSpec request => request.options

/-- Whether a file tree holds what a conversion makes of a class tree: its source file, or its entry
in the document. -/
def Presents (conversion : Conversion) (before : Workspace) (after : FileTree) (spec : ClassSpec) :
    Prop :=
  match conversion with
  | .java request => ∃ name g project, request.chosenPackageName.Returns before name before ∧
      request.generator name = .ok g ∧ request.project = some project ∧
      after.HoldsSource g spec (g.classPath project spec.name)
  | .classSpec request => ∃ output entries form, request.output = some output ∧
      after.HoldsDocument entries output ∧ entries.keys.Nodup ∧
      Keyed.get? spec.name entries = some form ∧ ClassOver.ofJson form = .ok spec

/-- What a conversion that returns has found, made of it, and left. -/
theorem samples_of_convert {conversion : Conversion} {before after : Workspace} {report : Report}
    (returned : conversion.convert.Returns before report after) :
    ∃ files, ∃ samples : Samples, before.files.findSamples conversion.inputs = .ok files ∧
      samples.Settles before.files conversion.options files ∧
      report.generated.keys = samples.specs.keys ∧ report.failed = samples.failed ∧
      ∀ entry ∈ samples.specs, conversion.Presents before after.files entry.2 := by
  cases conversion with
  | java request =>
    obtain ⟨name, g, files, samples, chosen, accepted, found, synthesized, failed, keys, -,
      written⟩ := JavaRequest.leaves_of_steps returned
    have settles := Samples.settles_of_synthesizeSamples synthesized
    refine ⟨files, samples, found, settles, keys, failed, ?_⟩
    intro entry converted
    obtain ⟨project, given, -, leaves⟩ := written (List.ne_nil_of_mem converted)
    exact ⟨name, g, project, chosen, accepted, given, (leaves.delivered entry converted).source⟩
  | classSpec request =>
    obtain ⟨files, samples, output, found, synthesized, rfl, given, apart, document⟩ :=
      SpecRequest.document_of_convert returned
    have keys : (specNames samples.specs).keys = samples.specs.keys := by
      simp [specNames, Keyed.keys]
    have settles := Samples.settles_of_synthesizeSamples synthesized
    refine ⟨files, samples, found, settles, keys, rfl, ?_⟩
    intro entry converted
    have distinct := (isDocumentOf_specEntries apart).distinct
    have listed : (entry.2.name, entry.2.toJson) ∈ specEntries samples.specs :=
      List.mem_map.mpr ⟨entry, converted, rfl⟩
    exact ⟨output, specEntries samples.specs, entry.2.toJson, given, document, distinct,
      Keyed.get?_of_mem distinct listed, entry.2.ofJson_toJson⟩

/-- Whether the samples that a conversion finds were all converted: each once, under class names
that differ in more than case, and with the outcome in place. -/
structure ConvertsAll (conversion : Conversion) (before : Workspace) (after : FileTree)
    (files : List Text) : Prop where
  found : before.files.findSamples conversion.inputs = .ok files
  distinct : files.Nodup
  apart : (files.map fun file => (ClassName.ofFile file).fold).Nodup
  each : ∀ file ∈ files, ∃ options document spec,
    Options.ofRaw conversion.options = .ok options ∧
    before.files.loadSample file = .ok document ∧
    synthesizeFresh options document (some (ClassName.ofFile file)) = .ok spec ∧
    conversion.Presents before after spec

section

variable {conversion : Conversion} {before after : Workspace} {report : Report}
  (returned : conversion.convert.Returns before report after)

include returned

theorem convertsAll_of_convert (none : report.failed = []) :
    ∃ files, conversion.ConvertsAll before after.files files ∧
      report.generated.length = files.length := by
  obtain ⟨files, samples, found, settles, keys, failed, presented⟩ := samples_of_convert returned
  rw [failed] at none
  obtain ⟨-, apart⟩ := settles.failed_eq_nil_iff.mp none
  have converted := settles.keys_perm none
  refine ⟨files, ⟨found, List.Nodup.of_map _ apart, apart, ?_⟩, ?_⟩
  · intro file listed
    obtain ⟨entry, member, rfl⟩ := List.mem_map.mp (converted.mem_iff.mpr listed)
    obtain ⟨options, document, valid, loaded, success⟩ :=
      sampleOutcome_eq_spec_iff.mp (settles.converted entry.1 entry.2 member)
    exact ⟨options, document, entry.2, valid, loaded, success, presented entry member⟩
  · calc report.generated.length = report.generated.keys.length := (List.length_map _).symm
      _ = files.length := by rw [keys, converted.length_eq]

theorem failed_eq_nil_of_convertsAll {files : List Text}
    (all : conversion.ConvertsAll before after.files files) : report.failed = [] := by
  obtain ⟨found, samples, finds, settles, -, failed, -⟩ := samples_of_convert returned
  have same : files = found := Except.ok.inj (all.found.symm.trans finds)
  rw [failed, settles.failed_eq_nil_iff, ← same]
  refine ⟨?_, all.apart⟩
  intro file listed
  obtain ⟨options, document, spec, valid, loaded, success, -⟩ := all.each file listed
  exact ⟨spec, sampleOutcome_eq_spec_iff.mpr ⟨options, document, valid, loaded, success⟩⟩

end

end Conversion

namespace CommandLine

def announcement (command : Command) (conversion : Conversion) : Text :=
  line ("Executing " ++ command.summary ++ " with input " ++ Text.join ", " conversion.inputs)

section

variable {arguments : List Text} {before after : FileTree} {verbose : Bool} {command : Command}
  {conversion : Conversion}
  (accepted : Order.ofArguments arguments = .ok (.convert verbose command conversion))

include accepted

theorem run_of_returns {report : Report} {done : Workspace}
    (returned : conversion.convert.Returns ⟨before, []⟩ report done) :
    run arguments before =
      (.ok ⟨if report.ok then 0 else 1, announcement command conversion ++ reportText report,
        logText verbose done.log⟩, done.files) := by
  unfold Action.Returns at returned
  rw [run, accepted]
  simp only [Order.run, runConversion, returned, conclusion]
  rfl

/-- A conversion that ends early has another status, if the program comes to an end at all. -/
theorem status_ne_zero_of_error {outcome : Outcome} {e : ConversionError} {done : Workspace}
    (ended : conversion.convert.runOn ⟨before, []⟩ = (.error e, done))
    (finished : run arguments before = (.ok outcome, after)) : outcome.status ≠ 0 := by
  rw [run, accepted] at finished
  simp only [Order.run, runConversion, ended] at finished
  unfold conclusion at finished
  split at finished
  · cases finished
  · cases finished
  · obtain ⟨concluded, -⟩ := Prod.mk.inj finished
    rw [← Except.ok.inj concluded]
    exact Nat.one_ne_zero
  · rename_i impossible
    cases impossible

end

/-- The program ends a conversion with status zero just when all samples were converted, and then it
says how many there are. -/
theorem exit_status_zero_iff (arguments : List Text) (before after : FileTree) (verbose : Bool)
    (command : Command) (conversion : Conversion) (outcome : Outcome)
    (accepted : Order.ofArguments arguments = .ok (.convert verbose command conversion))
    (finished : run arguments before = (.ok outcome, after)) :
    outcome.status = 0 ↔ ∃ report done files,
      conversion.convert.runOn ⟨before, []⟩ = (.ok report, done) ∧ done.files = after ∧
      conversion.ConvertsAll ⟨before, []⟩ after files ∧
      outcome.output = announcement command conversion ++
        line ("Converted " ++ Text.ofNat files.length ++ " file(s)") := by
  cases went : conversion.convert.runOn ⟨before, []⟩ with
  | mk result done =>
    cases result with
    | error e => simp [status_ne_zero_of_error accepted went finished]
    | ok report =>
      rw [run_of_returns accepted went] at finished
      obtain ⟨same, rfl⟩ := Prod.mk.inj finished
      obtain rfl := (Except.ok.inj same).symm
      constructor
      · intro zero
        have none : report.failed = [] := by
          rw [← Report.ok_iff]
          by_contra failed
          simp [failed] at zero
        obtain ⟨files, all, count⟩ := Conversion.convertsAll_of_convert went none
        refine ⟨report, done, files, rfl, rfl, all, ?_⟩
        simp only [reportText, none, count, List.flatMap_nil, List.append_nil]
      · rintro ⟨_, _, files, -, -, all, -⟩
        have none := Conversion.failed_eq_nil_of_convertsAll went all
        simp [(Report.ok_iff report).mpr none]

def siblingArguments : List Text :=
  List.map Text.ofString ["j2java", "--out", "out", "--package", "demo", "--round-trip-tests",
    "a.json", "aTest.json"]

theorem order_of_siblingArguments : Order.ofArguments siblingArguments =
    .ok (.convert false .java (.java JavaRequest.siblingInputs)) := by
  rfl

theorem siblings_exit_status_zero :
    ∃ outcome after, run siblingArguments JavaRequest.siblings = (.ok outcome, after) ∧
      outcome.status = 0 ∧
      ∃ files, (Conversion.java JavaRequest.siblingInputs).ConvertsAll ⟨JavaRequest.siblings, []⟩
        after files := by
  obtain ⟨report, done, went, -⟩ := JavaRequest.convert_siblings
  have none : report.failed = [] := by
    -- That no sample fails is a matter of the batch alone.
    have batch : (JavaRequest.siblings.synthesizeSamples .default
        [Text.ofString "a.json", Text.ofString "aTest.json"]).2.failed = [] := by decide +kernel
    obtain ⟨-, -, files, samples, -, -, -, -, -, found, synthesized, -, -, rfl⟩ :=
      JavaRequest.steps_of_convert went
    obtain rfl : files = [Text.ofString "a.json", Text.ofString "aTest.json"] :=
      (Except.ok.inj found).symm
    exact (congrArg (fun outcome => outcome.2.failed) synthesized).symm.trans batch
  have finished := run_of_returns order_of_siblingArguments went
  rw [if_pos ((Report.ok_iff report).mpr none)] at finished
  obtain ⟨_, _, files, -, -, all, -⟩ :=
    (exit_status_zero_iff _ _ _ _ _ _ _ order_of_siblingArguments finished).mp rfl
  exact ⟨_, _, finished, rfl, files, all⟩

end CommandLine

end ClassSynth
