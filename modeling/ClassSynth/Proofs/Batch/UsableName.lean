import ClassSynth.Batch.Conversion
import ClassSynth.Proofs.Batch.Rejection
import ClassSynth.Proofs.Java.LegalName

/-!
# Class names are usable

A class name can be refused twice: by a synthesis when it is no identifier, and by a class model
when it is a reserved word.  Classes of a conversion are named after files, and the names of files
and all that are nested in them may stand in Java, so neither refusal is ever met.
-/

set_option autoImplicit false

namespace ClassSynth

open Java (IsLegal)

/-! ## Refusals of a class name -/

/-- Whether an error refuses a class name: as no identifier, or as a reserved word. -/
def ConversionError.refusesName : ConversionError → Bool
  | .synthesis (.invalidClassName _) => true
  | .reservedClass _ => true
  | .draft (.reservedClass _) => true
  | _ => false

/-- Whether an error is not a refusal of a class name. -/
def ConversionError.acceptsName (e : ConversionError) : Bool := !e.refusesName

variable {tree : FileTree} {raw : RawOptions}

theorem acceptsName_of_sampleOutcome {file : Text} {e : ConversionError}
    (outcome : tree.sampleOutcome raw file (ClassName.ofFile file) = .aborted e) :
    e.acceptsName = true := by
  -- A sample ends the batch where it is not read, or by options that are refused.
  unfold FileTree.sampleOutcome at outcome
  rcases loadSample_cases tree file with ⟨fault, -, loaded⟩ | ⟨refusal, loaded⟩ |
    ⟨source, fault, -, loaded⟩ | ⟨source, document, read, loaded⟩
  · rw [loaded] at outcome
    cases outcome
    rfl
  · rw [loaded] at outcome
    cases outcome
  · rw [loaded] at outcome
    cases fault with
    | overlongInteger digits =>
      cases outcome
      rfl
    | malformed cause place => cases outcome
    | nestedTooDeep container => cases outcome
  · rw [loaded] at outcome
    simp only at outcome
    cases valid : Options.ofRaw raw with
    | error refusal =>
      simp only [specOfDocument, valid, SampleOutcome.aborted.injEq] at outcome
      rw [← outcome]
      rfl
    | ok options =>
      have plain := Json.isPlain_of_read read
      exact absurd outcome
        (specOfDocument_ne_aborted valid plain (ClassName.isIdentifier_ofFile file) e)

theorem acceptsName_of_synthesizeFrom {files : List Text} {e : ConversionError} {done : Samples} :
    ∀ {s : Samples}, tree.synthesizeFrom raw s files = (.error e, done) →
      e.acceptsName = true := by
  induction files with
  | nil => exact fun ended => nomatch ended
  | cons file rest ih =>
    intro s ended
    rw [FileTree.synthesizeFrom] at ended
    cases went : tree.synthesizeSample raw s file with
    | mk outcome next =>
      cases outcome with
      | ok value =>
        rw [went] at ended
        exact ih ended
      | error cause =>
        rw [went] at ended
        obtain ⟨same, -⟩ := Prod.mk.inj ended
        cases same
        unfold FileTree.synthesizeSample at went
        cases holder : s.holders.get? (ClassName.ofFile file).fold with
        | some other => simp [holder] at went
        | none =>
          simp only [holder] at went
          split at went
          · cases went
          · cases went
          · rename_i aborted
            cases went
            exact acceptsName_of_sampleOutcome aborted

/-! ## Conversions -/

open ClassSynth.Action ConversionError

theorem endsBy_synthesizeSamples_acceptsName (raw : RawOptions) (samples : List Text) :
    (synthesizeSamples raw samples).EndsBy acceptsName :=
  endsBy_synthesizeSamples fun _ _ _ ended => acceptsName_of_synthesizeFrom ended

section

variable (path content : Text)

theorem endsBy_makeDirectories_acceptsName : (makeDirectories path).EndsBy acceptsName :=
  endsBy_attempt fun _ _ _ => rfl

theorem endsBy_writeText_acceptsName : (writeText path content).EndsBy acceptsName :=
  endsBy_attempt fun _ _ _ => rfl

end

namespace Java.Generator

variable (g : Generator) (project : Text)

theorem endsBy_writeProjectFile_acceptsName :
    (g.writeProjectFile project).EndsBy acceptsName := by
  unfold writeProjectFile
  refine (endsBy_makeDirectories_acceptsName _).bind fun _ _ _ _ => ?_
  refine endsBy_files.bind fun _ tree _ _ => ?_
  split
  · exact endsBy_pure _
  · exact (endsBy_writeText_acceptsName _ _).bind fun _ _ _ _ => endsBy_pure _

theorem endsBy_writeClass_acceptsName {spec : ClassSpec}
    (modelled : ∃ model, g.model spec = .ok model) :
    (g.writeClass spec project).EndsBy acceptsName := by
  obtain ⟨model, modelled⟩ := modelled
  unfold writeClass writeSource source
  refine (endsBy_makeDirectories_acceptsName _).bind fun _ _ _ _ => ?_
  refine (endsBy_change fun _ _ _ => rfl).bind fun _ _ _ _ => ?_
  refine (endsBy_check ?_).bind fun _ _ _ _ => ?_
  · intro e refused
    rw [modelled] at refused
    cases refused
  · exact (endsBy_writeText_acceptsName _ _).bind fun _ _ _ _ => endsBy_pure _

theorem endsBy_writeRoundTripTest_acceptsName (className sample : Text) :
    (g.writeRoundTripTest className sample project).EndsBy acceptsName := by
  unfold writeRoundTripTest writeBelow
  refine (endsBy_makeDirectories_acceptsName _).bind fun _ _ _ _ => ?_
  refine (endsBy_change fun _ _ _ => rfl).bind fun _ _ _ _ => ?_
  refine EndsBy.bind ?_ fun _ _ _ _ => endsBy_pure _
  exact (endsBy_makeDirectories_acceptsName _).bind fun _ _ _ _ => endsBy_writeText_acceptsName _ _

end Java.Generator

namespace JavaRequest

variable (request : JavaRequest) (g : Java.Generator) (project : Text)

theorem endsBy_writeSample_acceptsName (file : Text) {spec : ClassSpec}
    (modelled : ∃ model, g.model spec = .ok model) :
    (request.writeSample g project file spec).EndsBy acceptsName := by
  unfold writeSample
  refine (g.endsBy_writeClass_acceptsName project modelled).bind fun _ path _ _ => ?_
  split
  · refine (g.endsBy_writeRoundTripTest_acceptsName project _ _).bind fun _ _ _ _ => ?_
    exact (endsBy_log _ _).bind fun _ _ _ _ => endsBy_pure _
  · exact (endsBy_log _ _).bind fun _ _ _ _ => endsBy_pure _

theorem endsBy_writeSamples_acceptsName {specs : Keyed ClassSpec}
    (modelled : ∀ entry ∈ specs, ∃ model, g.model entry.2 = .ok model) : ∀ told,
    (request.writeSamples g project told specs).EndsBy acceptsName := by
  induction specs with
  | nil => exact fun told => endsBy_pure told
  | cons entry rest ih =>
    obtain ⟨file, spec⟩ := entry
    obtain ⟨first, later⟩ := List.forall_mem_cons.mp modelled
    intro told
    rw [writeSamples]
    exact (request.endsBy_writeSample_acceptsName g project file first).bind
      fun _ path _ _ => ih later _

theorem endsBy_writeAll_acceptsName {specs : Keyed ClassSpec}
    (modelled : ∀ entry ∈ specs, ∃ model, g.model entry.2 = .ok model) :
    (request.writeAll g specs).EndsBy acceptsName := by
  unfold writeAll
  split
  · exact endsBy_pure _
  · refine (endsBy_output _ rfl).bind fun _ project _ _ => ?_
    refine (g.endsBy_writeProjectFile_acceptsName project).bind fun _ _ _ _ => ?_
    exact request.endsBy_writeSamples_acceptsName g project modelled []

/-- Every class that is converted has a model, since it is named after its file. -/
theorem endsBy_convert_acceptsName : request.convert.EndsBy acceptsName := by
  unfold convert
  refine EndsBy.bind ?_ fun _ packageName _ _ => ?_
  · unfold chosenPackageName
    split
    · exact (endsBy_output _ rfl).bind fun _ _ _ _ => endsBy_pure _
    · exact endsBy_pure _
  refine (endsBy_check fun _ _ => rfl).bind fun _ g _ _ => ?_
  refine endsBy_files.bind fun _ tree _ _ => ?_
  refine (endsBy_check fun _ _ => rfl).bind fun _ files _ _ => ?_
  refine (endsBy_synthesizeSamples_acceptsName _ _).bind fun here samples _ returned => ?_
  have settles := Samples.settles_of_synthesizeSamples (returns_synthesizeSamples_iff.mp returned).1
  have modelled : ∀ entry ∈ samples.specs, ∃ model, g.model entry.2 = .ok model := by
    intro entry converted
    obtain ⟨-, options, document, success⟩ :=
      synthesis_of_sampleOutcome (settles.converted entry.1 entry.2 converted)
    exact exists_model_of_synthesizeFresh (ClassName.isLegal_ofFile entry.1) success g
  refine (request.endsBy_writeAll_acceptsName g modelled).bind fun _ _ _ _ => ?_
  split
  · exact (endsBy_log _ _).bind fun _ _ _ _ => endsBy_pure _
  · exact endsBy_pure _

end JavaRequest

theorem SpecRequest.endsBy_convert_acceptsName (request : SpecRequest) :
    request.convert.EndsBy acceptsName := by
  unfold convert makeOutputDirectory
  refine endsBy_files.bind fun _ tree _ _ => ?_
  refine (endsBy_check fun _ _ => rfl).bind fun _ files _ _ => ?_
  refine (endsBy_synthesizeSamples_acceptsName _ _).bind fun _ samples _ _ => ?_
  refine (endsBy_output _ rfl).bind fun _ output _ _ => ?_
  refine EndsBy.bind ?_ fun _ _ _ _ => ?_
  · refine endsBy_files.bind fun _ tree _ _ => ?_
    split
    · exact endsBy_attempt fun _ _ _ => rfl
    · exact endsBy_pure _
  · exact (endsBy_writeText_acceptsName _ _).bind fun _ _ _ _ => endsBy_pure _

theorem Conversion.endsBy_convert_acceptsName (conversion : Conversion) :
    conversion.convert.EndsBy acceptsName := by
  cases conversion with
  | java request => exact request.endsBy_convert_acceptsName
  | classSpec request => exact request.endsBy_convert_acceptsName

/-- Every file gives a class name that may stand in Java, every class of a tree with such a root has
such a name, and no batch of samples and no conversion ends by the refusal of a class name. -/
theorem class_names_are_usable :
    (∀ path, IsLegal (ClassName.ofFile path)) ∧
    (∀ o document name names spec later, IsLegal name →
      synthesize o document (some name) names = (.ok spec, later) →
      ∀ inner ∈ spec.walk, IsUsable inner) ∧
    (∀ (tree : FileTree) raw files e samples,
      tree.synthesizeSamples raw files = (.error e, samples) → e.refusesName = false) ∧
    ∀ (conversion : Conversion) before e after,
      conversion.convert.runOn before = (.error e, after) → e.refusesName = false := by
  have accepted : ∀ {e : ConversionError}, e.acceptsName = true → e.refusesName = false := by
    intro e accepts
    simpa [acceptsName] using accepts
  refine ⟨ClassName.isLegal_ofFile, ?_, ?_, ?_⟩
  · intro o document name names spec later legal success
    exact isUsable_of_synthesize legal success
  · intro tree raw files e samples ended
    exact accepted (acceptsName_of_synthesizeFrom ended)
  · intro conversion before e after ended
    exact accepted (conversion.endsBy_convert_acceptsName before e after ended)

/-- The capitals of a ligature are two letters, a nested class completes the name of a type, and a
conversion ends for its depth. -/
theorem class_names_are_usable_big :
    ClassName.ofFile "\ufb01-x.json" = "FIX" ∧
    IsLegal (ClassName.ofFile "\ufb01-x.json") ∧
    (∀ inner ∈ Java.bigSpec.walk, IsUsable inner) ∧
    (∃ e samples, JavaRequest.loneSample.synthesizeSamples Conversion.boundlessInputs.options
        ["a.json"] = (.error e, samples) ∧ e.refusesName = false) ∧
    ∃ e after, (Conversion.java Conversion.boundlessInputs).convert.runOn
      ⟨JavaRequest.loneSample, []⟩ = (.error e, after) ∧ e.refusesName = false := by
  obtain ⟨ofFile, ofTree, ofSamples, ofConversion⟩ := class_names_are_usable
  have big : synthesizeFresh .default (.object Java.bigMembers)
      (some (ClassName.ofFile "big.json")) = .ok Java.bigSpec := rfl
  have batch : JavaRequest.loneSample.synthesizeSamples Conversion.boundlessInputs.options
      ["a.json"] = (.error (.options (.negativeDepth (-1))), .start) := rfl
  have conversion : (Conversion.java Conversion.boundlessInputs).convert.runOn
      ⟨JavaRequest.loneSample, []⟩ =
        (.error (.options (.negativeDepth (-1))), ⟨JavaRequest.loneSample, []⟩) := rfl
  refine ⟨by decide +kernel, ofFile _, ?_, ⟨_, _, batch, ofSamples _ _ _ _ _ batch⟩,
    ⟨_, _, conversion, ofConversion _ _ _ _ conversion⟩⟩
  exact ofTree _ _ _ _ _ _ (ofFile "big.json") (Prod.ext big rfl)

end ClassSynth
