import ClassSynth.Proofs.Batch.Delivery
import ClassSynth.Proofs.Java.Unit

/-!
# The classes of a conversion

With round-trip tests a conversion writes two units for each converted sample, one with its class
and one with the test of it, and both are in the package of the conversion.  Class names are held
apart from one another, but not from the names of tests.  The main statement says of which samples
the classes and tests have names of their own.
-/

set_option autoImplicit false

namespace ClassSynth

open Java

def FileTree.Declares (tree : FileTree) (path name : Text) : Prop :=
  ∃ text bytes, Utf8.encode text = .ok bytes ∧ tree.read path = .ok bytes ∧
    declaredName? text = some name

namespace JavaRequest

variable {request : JavaRequest} {g : Generator} {project : Text} {specs : Keyed ClassSpec}

/-- The qualified names of the classes of samples and of the tests of these. -/
def declaredNames (g : Generator) (specs : Keyed ClassSpec) : List Text :=
  specs.map (fun entry => g.qualifiedName entry.2.name) ++
    specs.map (fun entry => g.qualifiedName (entry.2.name ++ "Test"))

theorem declares_of_leaves {before after : FileTree}
    (valid : ∀ segment ∈ g.package.segments, Package.isSegment segment = true)
    (words : ∀ entry ∈ specs, entry.2.name.IsWord) (tests : request.roundTripTests = true)
    (leaves : request.Leaves g project specs before after) : ∀ entry ∈ specs,
      after.Declares (Output.source.path g project entry.2.name) (g.qualifiedName entry.2.name) ∧
      after.Declares (Output.test.path g project entry.2.name)
        (g.qualifiedName (entry.2.name ++ "Test")) := by
  intro entry converted
  have word := words entry converted
  obtain ⟨⟨text, bytes, sourced, encoded, held⟩, -, test⟩ := leaves.delivered entry converted
  obtain ⟨testBytes, testEncoded, testHeld⟩ := test tests
  constructor
  · exact ⟨text, bytes, encoded, held, declaredName?_source valid word sourced⟩
  · exact ⟨_, testBytes, testEncoded, testHeld, declaredName?_test valid word _⟩

/-! ## Names apart -/

section

variable {f : Text → Text} (spreads : ∀ first second, f (first ++ second) = f first ++ f second)

include spreads

theorem qualifiedName_eq_iff (first second : Text) :
    f (g.qualifiedName first) = f (g.qualifiedName second) ↔ f first = f second := by
  rw [Generator.qualifiedName, Generator.qualifiedName]
  cases g.packageName? with
  | none => rfl
  | some package =>
    rw [qualify, qualify, spreads (package ++ _) first, spreads (package ++ _) second,
      List.append_cancel_left_eq]

/-- The names of classes are apart already, and so are those of tests: what is left are the names of
classes from those of tests. -/
theorem nodup_map_declaredNames_iff
    (apart : specs.Pairwise fun first second => f first.2.name ≠ f second.2.name) :
    ((declaredNames g specs).map f).Nodup ↔ ∀ entry ∈ specs, ∀ tested ∈ specs,
      f entry.2.name ≠ f (tested.2.name ++ "Test") := by
  have classes : (specs.map fun entry => f (g.qualifiedName entry.2.name)).Nodup := by
    apply List.pairwise_map.mpr
    apply apart.imp
    intro first second different same
    exact different ((qualifiedName_eq_iff spreads _ _).mp same)
  have tests : (specs.map fun entry => f (g.qualifiedName (entry.2.name ++ "Test"))).Nodup := by
    apply List.pairwise_map.mpr
    apply apart.imp
    intro first second different same
    have suffixed := (qualifiedName_eq_iff spreads _ _).mp same
    rw [spreads, spreads, List.append_cancel_right_eq] at suffixed
    exact different suffixed
  rw [declaredNames, List.map_append, List.map_map, List.map_map, List.nodup_append]
  constructor
  · rintro ⟨-, -, disjoint⟩ entry converted tested testedConverted same
    apply disjoint _ (List.mem_map_of_mem converted) _ (List.mem_map_of_mem testedConverted)
    exact (qualifiedName_eq_iff spreads _ _).mpr same
  · intro disjoint
    refine ⟨classes, tests, ?_⟩
    rintro _ ofClass _ ofTest same
    obtain ⟨entry, converted, rfl⟩ := List.mem_map.mp ofClass
    obtain ⟨tested, testedConverted, rfl⟩ := List.mem_map.mp ofTest
    exact disjoint entry converted tested testedConverted
      ((qualifiedName_eq_iff spreads _ _).mp same)

theorem nodup_map_declaredNames_iff_of_ofFile
    (names : ∀ entry ∈ specs, entry.2.name = ClassName.ofFile entry.1)
    (apart : specs.Pairwise fun first second =>
      f (ClassName.ofFile first.1) ≠ f (ClassName.ofFile second.1)) :
    ((declaredNames g specs).map f).Nodup ↔ ∀ file ∈ specs.keys, ∀ tested ∈ specs.keys,
      f (ClassName.ofFile file) ≠ f (ClassName.ofFile tested ++ "Test") := by
  have named : specs.Pairwise fun first second => f first.2.name ≠ f second.2.name := by
    apply apart.imp_of_mem
    intro first second firstConverted secondConverted different
    rwa [names first firstConverted, names second secondConverted]
  rw [nodup_map_declaredNames_iff spreads named, Keyed.keys]
  simp only [List.forall_mem_map]
  constructor
  · intro disjoint entry converted tested testedConverted
    rw [← names entry converted, ← names tested testedConverted]
    exact disjoint entry converted tested testedConverted
  · intro disjoint entry converted tested testedConverted
    rw [names entry converted, names tested testedConverted]
    exact disjoint entry converted tested testedConverted

end

/-- The units that a conversion with round-trip tests writes declare classes of different names,
also without regard to case, just when no converted sample has the class name of another with `Test`
at its end. -/
theorem declaredNames_nodup_iff (request : JavaRequest) (before after : Workspace)
    (report : Report) (tests : request.roundTripTests = true)
    (returns : request.convert.runOn before = (.ok report, after)) :
    ∃ name g, ∃ specs : Keyed ClassSpec,
      request.chosenPackageName.Returns before name before ∧ request.generator name = .ok g ∧
      report.generated.keys = specs.keys ∧
      (specs = [] → after.files = before.files) ∧
      (specs ≠ [] → ∃ project, request.project = some project ∧
        request.Leaves g project specs before.files after.files ∧ ∀ entry ∈ specs,
          after.files.Declares (Output.source.path g project entry.2.name)
            (g.qualifiedName entry.2.name) ∧
          after.files.Declares (Output.test.path g project entry.2.name)
            (g.qualifiedName (entry.2.name ++ "Test"))) ∧
      ((declaredNames g specs).Nodup ↔
        ∀ file ∈ report.generated.keys, ∀ tested ∈ report.generated.keys,
          ClassName.ofFile file ≠ ClassName.ofFile tested ++ "Test") ∧
      (((declaredNames g specs).map Text.fold).Nodup ↔
        ∀ file ∈ report.generated.keys, ∀ tested ∈ report.generated.keys,
          (ClassName.ofFile file).fold ≠ (ClassName.ofFile tested ++ "Test").fold) := by
  obtain ⟨name, g, files, samples, chosen, accepted, -, settles, names, keys, idle, written⟩ :=
    leaves_of_convert returns
  refine ⟨name, g, samples.specs, chosen, accepted, keys, idle, ?_, ?_, ?_⟩
  · intro nonempty
    obtain ⟨project, given, -, leaves⟩ := written nonempty
    have valid := isSegment_of_generator accepted
    exact ⟨project, given, leaves, declares_of_leaves valid (isWord_of_ofFile names) tests leaves⟩
  · have apart : samples.specs.Pairwise fun first second =>
        id (ClassName.ofFile first.1) ≠ id (ClassName.ofFile second.1) := by
      apply settles.apart.imp
      intro first second different same
      rw [id_eq, id_eq] at same
      exact different (congrArg Text.fold same)
    have same := nodup_map_declaredNames_iff_of_ofFile (g := g) (fun _ _ => rfl) names apart
    simp only [List.map_id, id_eq] at same
    rw [keys]
    exact same
  · rw [keys]
    exact nodup_map_declaredNames_iff_of_ofFile (fun _ _ => List.flatMap_append) names
      settles.apart

theorem siblings_names_repeat :
    siblingInputs.roundTripTests = true ∧
    ∃ report after g, ∃ specs : Keyed ClassSpec,
      siblingInputs.convert.runOn ⟨siblings, []⟩ = (.ok report, after) ∧
      report.generated.keys = specs.keys ∧ ¬ (declaredNames g specs).Nodup := by
  obtain ⟨report, after, returns, keys⟩ := convert_siblings
  obtain ⟨_, g, specs, -, -, same, -, -, apart, -⟩ :=
    declaredNames_nodup_iff siblingInputs _ _ _ rfl returns
  refine ⟨rfl, report, after, g, specs, returns, same, ?_⟩
  rw [apart, keys]
  intro disjoint
  exact disjoint "aTest.json" (by decide) "a.json" (by decide) (by decide)

/-- One sibling becomes a class that has the name of the test of the other. -/
theorem siblings_share_name :
    ∃ report after, siblingInputs.convert.runOn ⟨siblings, []⟩ = (.ok report, after) ∧
      after.files.Declares "out/src/main/java/demo/ATest.java" "demo.ATest" ∧
      after.files.Declares "out/src/test/java/demo/ATest.java" "demo.ATest" := by
  obtain ⟨report, after, returns, keys⟩ := convert_siblings
  obtain ⟨name, g, files, samples, chosen, accepted, -, -, names, same, -, written⟩ :=
    leaves_of_convert returns
  obtain ⟨rfl, -⟩ := Action.returns_pure_iff.mp chosen
  have demo : siblingInputs.generator siblingInputs.packageName =
      .ok ⟨⟨[Text.ofString "demo"]⟩, true, true⟩ := rfl
  have valid := isSegment_of_generator accepted
  rw [demo, Except.ok.injEq] at accepted
  subst accepted
  have exists_of_file : ∀ file ∈ [Text.ofString "a.json", Text.ofString "aTest.json"],
      ∃ entry ∈ samples.specs, entry.2.name = ClassName.ofFile file := by
    intro file listed
    rw [← keys, same] at listed
    obtain ⟨entry, converted, rfl⟩ := List.mem_map.mp listed
    exact ⟨entry, converted, names entry converted⟩
  obtain ⟨first, firstConverted, firstName⟩ := exists_of_file "a.json" (by decide)
  obtain ⟨second, secondConverted, secondName⟩ := exists_of_file "aTest.json" (by decide)
  obtain ⟨project, given, -, leaves⟩ := written (List.ne_nil_of_mem firstConverted)
  cases given
  have declares := declares_of_leaves valid (isWord_of_ofFile names) rfl leaves
  have ofTest := (declares first firstConverted).2
  have ofClass := (declares second secondConverted).1
  rw [firstName] at ofTest
  rw [secondName] at ofClass
  exact ⟨report, after, returns, ofClass, ofTest⟩

end JavaRequest

end ClassSynth
