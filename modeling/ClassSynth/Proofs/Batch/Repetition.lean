import ClassSynth.Proofs.Batch.Conversion

/-!
# Samples that a report notes twice

Every sample of a conversion that returns is noted as converted or as failed.  Input paths may
overlap, a directory and a file in it for instance, and each listing of a sample is taken for
itself.  The main statement is that a converted sample is noted as failed as well just when it is
listed more than once, and that the failure then names the sample itself as the holder of its class
name.
-/

set_option autoImplicit false

namespace ClassSynth

/-- The samples of a conversion that returns are those in its report, and a converted one is among
the failed ones just when the input paths list it more than once, its own listing being the
reason. -/
theorem Conversion.converted_and_failed_iff (conversion : Conversion) (before after : Workspace)
    (report : Report) (returns : conversion.convert.runOn before = (.ok report, after)) :
    ∃ files, before.files.findSamples conversion.inputs = .ok files ∧
      (∀ file, file ∈ report.generated.keys ∨ file ∈ report.failed.keys ↔ file ∈ files) ∧
      ∀ file ∈ report.generated.keys,
        (file ∈ report.failed.keys ↔ 2 ≤ files.count file) ∧
        ∀ reason, report.failed.get? file = some reason → reason = Samples.usedBy file file := by
  obtain ⟨raw, files, samples, found, settles, generated, failed⟩ :=
    Conversion.settles_of_convert returns
  rw [generated, failed]
  refine ⟨files, found, settles.noted, ?_⟩
  intro file converted
  exact ⟨settles.repeated file converted, settles.blamed file converted⟩

/-- A directory that holds one sample, the empty object. -/
def sampleDirectory : FileTree :=
  ⟨[([FileName.ofText "samples"], .directory),
    ([FileName.ofText "samples", FileName.ofText "a.json"], .file [0x7B, 0x7D])], []⟩

def sampleFile : Text := "samples/a.json"

/-- The conversion of the directory and of the file in it. -/
def overlappingInputs : SpecRequest := ⟨["samples", sampleFile], some "out.json", .default⟩

theorem findSamples_overlapping :
    sampleDirectory.findSamples overlappingInputs.inputs = .ok [sampleFile, sampleFile] := by
  have sorted : ∀ name : Text, Text.sort [name] = [name] :=
    fun name => List.mergeSort_singleton name
  have names : sampleDirectory.list "samples" = [Text.ofString "a.json"] := sorted _
  have directory : sampleDirectory.nodeAt? "samples" = some .directory := rfl
  have inside : sampleDirectory.samplesAt "samples" = .ok [sampleFile] := by
    simp only [FileTree.samplesAt, directory, names]
    rfl
  simp only [overlappingInputs, FileTree.findSamples, FileTree.samplesIn, inside]
  rfl

def overlapReport : Report :=
  ⟨[(sampleFile, "A")], [(sampleFile, Samples.usedBy sampleFile sampleFile)]⟩

theorem convert_overlapping :
    ∃ after,
      overlappingInputs.convert.runOn ⟨sampleDirectory, []⟩ = (.ok overlapReport, after) := by
  apply Exists.intro
  apply Action.returns_bind_iff.mpr
  refine ⟨sampleDirectory, ⟨sampleDirectory, []⟩, rfl, ?_⟩
  apply Action.returns_bind_iff.mpr
  refine ⟨[sampleFile, sampleFile], ⟨sampleDirectory, []⟩, ?_, ?_⟩
  · exact Action.returns_check_iff.mpr ⟨findSamples_overlapping, rfl⟩
  · rfl

theorem overlapping_noted_twice :
    ∃ after, (Conversion.classSpec overlappingInputs).convert.runOn ⟨sampleDirectory, []⟩ =
        (.ok overlapReport, after) ∧
      sampleDirectory.findSamples overlappingInputs.inputs = .ok [sampleFile, sampleFile] ∧
      sampleFile ∈ overlapReport.generated.keys ∧ 2 ≤ [sampleFile, sampleFile].count sampleFile ∧
      sampleFile ∈ overlapReport.failed.keys := by
  obtain ⟨after, returns⟩ := convert_overlapping
  obtain ⟨files, found, -, each⟩ :=
    Conversion.converted_and_failed_iff (.classSpec overlappingInputs) _ _ _ returns
  have same := found.symm.trans findSamples_overlapping
  rw [Except.ok.injEq] at same
  subst same
  have converted : sampleFile ∈ overlapReport.generated.keys := by decide
  have twice : 2 ≤ [sampleFile, sampleFile].count sampleFile := by decide
  exact ⟨after, returns, findSamples_overlapping, converted, twice, (each _ converted).1.mpr twice⟩

/-- The report of the overlapping inputs says of one sample both that it was converted and that it
was not. -/
theorem overlapReport_notes_both :
    (∃ after, (Conversion.classSpec overlappingInputs).convert.runOn ⟨sampleDirectory, []⟩ =
      (.ok overlapReport, after)) ∧
    sampleFile ∈ overlapReport.generated.keys ∧ sampleFile ∈ overlapReport.failed.keys :=
  ⟨convert_overlapping, by decide, by decide⟩

end ClassSynth
