import ClassSynth.Batch.Conversion
import ClassSynth.Proofs.Batch.Run
import ClassSynth.Proofs.Batch.Settlement

/-!
# Conversions that return

A conversion that returns has found samples and gone through all of them, and only then has it
written.  Its report says of each converted sample what it became, in the order of the samples.
-/

set_option autoImplicit false

namespace ClassSynth

open ClassSynth.Action

variable {before after : Workspace} {report : Report}

namespace Java.Generator

variable {g : Generator} {className project path : Text}

theorem path_of_writeSource {source : Except ConversionError Text}
    (returned : (g.writeSource className source project).Returns before path after) :
    path = g.classPath project className := by
  unfold writeSource at returned
  simp only [returns_bind_iff, returns_pure_iff] at returned
  obtain ⟨-, -, -, -, -, -, -, -, -, -, -, -, same, -⟩ := returned
  exact same

end Java.Generator

namespace JavaRequest

variable {request : JavaRequest} {g : Java.Generator} {project : Text}

theorem path_of_writeSample {file path : Text} {spec : ClassSpec}
    (returned : (request.writeSample g project file spec).Returns before path after) :
    path = g.classPath project spec.name := by
  unfold writeSample at returned
  rw [returns_bind_iff] at returned
  obtain ⟨written, between, wrote, returned⟩ := returned
  have same : path = written := by
    cases tests : request.roundTripTests with
    | true =>
      simp only [tests, if_true, returns_bind_iff, returns_pure_iff] at returned
      obtain ⟨-, -, -, -, -, -, same, -⟩ := returned
      exact same
    | false =>
      simp only [tests, Bool.false_eq_true, if_false, returns_bind_iff, returns_pure_iff]
        at returned
      obtain ⟨-, -, -, same, -⟩ := returned
      exact same
  rw [same]
  exact Java.Generator.path_of_writeSource wrote

/-- What the report of a conversion to Java says of the converted samples. -/
def generatedFor (g : Java.Generator) (project : Text) (specs : Keyed ClassSpec) : Keyed Text :=
  specs.map fun entry => (entry.1, g.classPath project entry.2.name)

theorem keys_generatedFor (specs : Keyed ClassSpec) :
    (generatedFor g project specs).keys = specs.keys := by
  simp [generatedFor, Keyed.keys]

theorem generated_of_writeSamples {specs : Keyed ClassSpec} {told generated : Keyed Text}
    (distinct : (told.keys ++ specs.keys).Nodup)
    (returned : (request.writeSamples g project told specs).Returns before generated after) :
    generated = told ++ generatedFor g project specs := by
  induction specs generalizing told before with
  | nil =>
    rw [writeSamples, returns_pure_iff] at returned
    simp [returned.1, generatedFor]
  | cons entry rest ih =>
    obtain ⟨file, spec⟩ := entry
    rw [writeSamples, returns_bind_iff] at returned
    obtain ⟨path, between, wrote, returned⟩ := returned
    have split : told.keys ++ Keyed.keys ((file, spec) :: rest) =
        (told.keys ++ [file]) ++ Keyed.keys rest := by simp [Keyed.keys]
    have fresh : file ∉ told.keys := by
      intro early
      exact (List.nodup_append.mp distinct).2.2 file early file (by simp [Keyed.keys]) rfl
    rw [split, ← Keyed.keys_put_of_not_mem path fresh] at distinct
    rw [ih distinct returned, Keyed.put_of_not_mem path fresh, path_of_writeSample wrote]
    simp [generatedFor]

/-- A conversion to Java that returns has been through all samples before it writes for those that
were converted. -/
theorem steps_of_convert (returned : request.convert.Returns before report after) :
    ∃ name g files samples generated log written,
      request.chosenPackageName.Returns before name before ∧
      request.generator name = .ok g ∧
      before.files.findSamples request.inputs = .ok files ∧
      before.files.synthesizeSamples request.options files = (.ok (), samples) ∧
      (request.writeAll g samples.specs).Returns ⟨before.files, log⟩ generated written ∧
      after.files = written.files ∧ report = ⟨generated, samples.failed⟩ := by
  unfold convert at returned
  rw [returns_bind_iff] at returned
  obtain ⟨name, start, named, returned⟩ := returned
  have idle : start = before := by
    unfold chosenPackageName at named
    split at named
    · simp only [returns_bind_iff, returns_output_iff, returns_pure_iff] at named
      obtain ⟨-, -, ⟨-, rfl⟩, -, rfl⟩ := named
      rfl
    · exact (returns_pure_iff.mp named).2
  subst idle
  simp only [returns_bind_iff, returns_check_iff, returns_files_iff,
    returns_synthesizeSamples_iff] at returned
  obtain ⟨g, _, ⟨accepted, rfl⟩, tree, _, ⟨rfl, rfl⟩, files, _, ⟨found, rfl⟩, samples, _,
    ⟨synthesized, rfl⟩, generated, written, wrote, returned⟩ := returned
  refine ⟨name, g, files, samples, generated, _, written, named, accepted, found, synthesized,
    wrote, ?_⟩
  split at returned
  · simp only [returns_bind_iff, returns_log_iff, returns_pure_iff] at returned
    obtain ⟨-, -, rfl, rfl, rfl⟩ := returned
    exact ⟨rfl, rfl⟩
  · obtain ⟨rfl, rfl⟩ := returns_pure_iff.mp returned
    exact ⟨rfl, rfl⟩

theorem keys_of_writeAll {specs : Keyed ClassSpec} {generated : Keyed Text}
    (distinct : specs.keys.Nodup)
    (returned : (request.writeAll g specs).Returns before generated after) :
    generated.keys = specs.keys := by
  unfold writeAll at returned
  cases specs with
  | nil =>
    obtain ⟨rfl, -⟩ := returns_pure_iff.mp returned
    rfl
  | cons entry rest =>
    simp only [List.isEmpty_cons, Bool.false_eq_true, if_false, returns_bind_iff] at returned
    obtain ⟨project, _, -, _, _, -, wrote⟩ := returned
    rw [generated_of_writeSamples (by simpa [Keyed.keys] using distinct) wrote, List.nil_append]
    exact keys_generatedFor _

end JavaRequest

namespace SpecRequest

variable {request : SpecRequest}

/-- A conversion to a class spec document that returns has been through all samples. -/
theorem steps_of_convert (returned : request.convert.Returns before report after) :
    ∃ files samples, before.files.findSamples request.inputs = .ok files ∧
      before.files.synthesizeSamples request.options files = (.ok (), samples) ∧
      report = ⟨specNames samples.specs, samples.failed⟩ := by
  unfold convert at returned
  simp only [returns_bind_iff, returns_check_iff, returns_files_iff, returns_pure_iff,
    returns_synthesizeSamples_iff] at returned
  obtain ⟨tree, _, ⟨rfl, rfl⟩, files, _, ⟨found, rfl⟩, samples, _, ⟨synthesized, rfl⟩, -, -, -, -,
    -, -, -, -, -, same, -⟩ := returned
  exact ⟨files, samples, found, synthesized, same⟩

end SpecRequest

/-- The samples of a conversion that returns are settled, and it reports on those converted and
those failed. -/
theorem Conversion.settles_of_convert {conversion : Conversion}
    (returned : conversion.convert.Returns before report after) :
    ∃ raw files, ∃ samples : Samples, before.files.findSamples conversion.inputs = .ok files ∧
      samples.Settles before.files raw files ∧ report.generated.keys = samples.specs.keys ∧
      report.failed = samples.failed := by
  cases conversion with
  | java request =>
    obtain ⟨name, g, files, samples, generated, log, written, -, -, found, synthesized, wrote, -,
      rfl⟩ := JavaRequest.steps_of_convert returned
    have settles := Samples.settles_of_synthesizeSamples synthesized
    exact ⟨_, files, samples, found, settles, JavaRequest.keys_of_writeAll settles.distinct wrote,
      rfl⟩
  | classSpec request =>
    obtain ⟨files, samples, found, synthesized, rfl⟩ := SpecRequest.steps_of_convert returned
    have settles := Samples.settles_of_synthesizeSamples synthesized
    have keys : (specNames samples.specs).keys = samples.specs.keys := by
      simp [specNames, Keyed.keys]
    exact ⟨_, files, samples, found, settles, keys, rfl⟩

end ClassSynth
