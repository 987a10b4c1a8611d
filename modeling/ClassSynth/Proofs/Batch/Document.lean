import ClassSynth.Proofs.Batch.Delivery
import ClassSynth.Proofs.ClassTree.Dictionary
import ClassSynth.Proofs.Json.Printed

/-!
# Documents of class trees

A conversion to a class spec document puts the class tree of every converted sample under the name
of its root class.  A batch holds these names apart, so no entry replaces another, and each reads
back as the class tree it was made from.  A conversion to Java goes through the same samples and
comes to the same class trees.  The main statement is that the sources it writes are those which the
entries of the document are rendered to.
-/

set_option autoImplicit false

namespace ClassSynth

open ClassSynth.Action

/-! ## Entries -/

/-- Whether a document has an entry for every sample, in order: under the name that is told of the
sample, which no other entry has, and of a form that reads back as its class tree. -/
structure IsDocumentOf (specs : Keyed ClassSpec) (entries : Keyed Json) : Prop where
  named : entries.keys = (specNames specs).map Prod.snd
  distinct : entries.keys.Nodup
  readsBack : List.Forall₂ (fun sample entry => ClassOver.ofJson entry.2 = .ok sample.2)
    specs entries

/-- The entries of a document, when no two class trees have one name. -/
def specEntries (specs : Keyed ClassSpec) : Keyed Json :=
  specs.map fun entry => (entry.2.name, entry.2.toJson)

section

variable {specs : Keyed ClassSpec}
  (apart : specs.Pairwise fun first second => first.2.name ≠ second.2.name)

include apart

theorem specDocument_eq : specDocument (specs.map Prod.snd) = .object (specEntries specs) := by
  have distinct : ((specs.map Prod.snd).map ClassOver.name).Nodup :=
    List.pairwise_map.mpr (List.pairwise_map.mpr apart)
  have untaken : (Keyed.keys ([] : Keyed Json) ++
      (specs.map Prod.snd).map ClassOver.name).Nodup := distinct
  rw [specDocument, Keyed.foldl_put_of_nodup _ ClassOver.toJson untaken, List.nil_append,
    List.map_map]
  rfl

theorem isDocumentOf_specEntries : IsDocumentOf specs (specEntries specs) where
  named := by
    rw [Keyed.keys, specEntries, specNames, List.map_map, List.map_map]
    rfl
  distinct := by
    rw [Keyed.keys, specEntries, List.map_map]
    exact List.pairwise_map.mpr apart
  readsBack := by
    rw [specEntries, List.forall₂_map_right_iff, List.forall₂_same]
    exact fun entry _ => entry.2.ofJson_toJson

end

theorem printsPlainly_specEntries (specs : Keyed ClassSpec) :
    (Json.object (specEntries specs)).PrintsPlainly := by
  refine Json.printsPlainly_object (List.forall_mem_map.mpr ?_)
  exact fun entry _ => entry.2.printsPlainly_toJson

/-! ## What the two conversions write -/

/-- Whether a file holds a document in print.  It can be loaded from there if reading inverts
printing, as it does unless the document is too deep to be read. -/
structure FileTree.HoldsDocument (tree : FileTree) (entries : Keyed Json) (path : Text) : Prop where
  written : ∃ bytes, Utf8.encode ((Json.object entries).indented 0) = .ok bytes ∧
    tree.read path = .ok bytes
  loads : Json.read ((Json.object entries).indented 0) = .ok (.object entries) →
    tree.loadSample path = .ok (.object entries)

def FileTree.HoldsSource (tree : FileTree) (g : Java.Generator) (spec : ClassSpec) (path : Text) :
    Prop :=
  ∃ text bytes, g.source spec = .ok text ∧ Utf8.encode text = .ok bytes ∧ tree.read path = .ok bytes

/-- A conversion to a class spec document that returns has written the document of its samples. -/
theorem SpecRequest.document_of_convert {request : SpecRequest} {before after : Workspace}
    {report : Report} (returned : request.convert.Returns before report after) :
    ∃ files, ∃ samples : Samples, ∃ output,
      before.files.findSamples request.inputs = .ok files ∧
      before.files.synthesizeSamples request.options files = (.ok (), samples) ∧
      report = ⟨specNames samples.specs, samples.failed⟩ ∧ request.output = some output ∧
      (samples.specs.Pairwise fun first second => first.2.name ≠ second.2.name) ∧
      after.files.HoldsDocument (specEntries samples.specs) output := by
  unfold convert at returned
  simp only [returns_bind_iff, returns_check_iff, returns_files_iff, returns_output_iff,
    returns_pure_iff, returns_synthesizeSamples_iff] at returned
  obtain ⟨tree, _, ⟨rfl, rfl⟩, files, _, ⟨found, rfl⟩, samples, _, ⟨synthesized, rfl⟩, output, _,
    ⟨given, rfl⟩, _, _, -, _, _, wrote, same, rfl⟩ := returned
  obtain ⟨-, bytes, encoded, held⟩ := writes_of_returns_writeText wrote
  have apart := (JavaRequest.names_of_settles (Samples.settles_of_synthesizeSamples synthesized)).2
  rw [specDocument_eq apart] at encoded
  refine ⟨files, samples, output, found, synthesized, same, given, apart, ⟨bytes, encoded, held⟩,
    ?_⟩
  intro inverts
  rw [FileTree.loadSample_of_isPrinted (printsPlainly_specEntries _ 0) encoded held, inverts]
  rfl

namespace JavaRequest

variable {request : JavaRequest} {before after : Workspace} {report : Report}

/-- A conversion to Java that returns has written the source of each class tree where it tells. -/
theorem sources_of_convert (returned : request.convert.Returns before report after) :
    ∃ name g files, ∃ samples : Samples,
      request.chosenPackageName.Returns before name before ∧ request.generator name = .ok g ∧
      before.files.findSamples request.inputs = .ok files ∧
      before.files.synthesizeSamples request.options files = (.ok (), samples) ∧
      report.failed = samples.failed ∧ report.generated.keys = samples.specs.keys ∧
      List.Forall₂ (fun sample written => after.files.HoldsSource g sample.2 written.2)
        samples.specs report.generated := by
  obtain ⟨name, g, files, samples, chosen, accepted, found, synthesized, failed, keys, -,
    written⟩ := leaves_of_steps returned
  refine ⟨name, g, files, samples, chosen, accepted, found, synthesized, failed, keys, ?_⟩
  by_cases none : samples.specs = []
  · rw [none] at keys ⊢
    rw [List.map_eq_nil_iff.mp keys]
    exact .nil
  · obtain ⟨project, -, told, leaves⟩ := written none
    rw [told, generatedFor, List.forall₂_map_right_iff, List.forall₂_same]
    exact fun entry converted => (leaves.delivered entry converted).source

end JavaRequest

/-- Whether another tree has the same samples at input paths, and they load alike. -/
structure FileTree.SameSamples (inputs : List Text) (tree other : FileTree) : Prop where
  found : other.findSamples inputs = tree.findSamples inputs
  loaded : ∀ files, tree.findSamples inputs = .ok files →
    ∀ file ∈ files, other.loadSample file = tree.loadSample file

theorem FileTree.SameSamples.refl (inputs : List Text) (tree : FileTree) :
    tree.SameSamples inputs tree :=
  ⟨rfl, fun _ _ _ _ => rfl⟩

/-- A conversion to a class spec document that returns has written a document of the class trees of
its samples, under the names that its report tells.  A conversion to Java of the same samples under
the same options that returns has been through them with the same success and failure, and the
sources it has written are those of the class trees that the entries read back as. -/
theorem SpecRequest.document_renders_to_sources (request : SpecRequest) (before after : Workspace)
    (report : Report) (returns : request.convert.runOn before = (.ok report, after)) :
    ∃ files, ∃ samples : Samples, ∃ output entries,
      before.files.findSamples request.inputs = .ok files ∧
      before.files.synthesizeSamples request.options files = (.ok (), samples) ∧
      report = ⟨specNames samples.specs, samples.failed⟩ ∧ request.output = some output ∧
      after.files.HoldsDocument entries output ∧ IsDocumentOf samples.specs entries ∧
      ∀ (java : JavaRequest) (start finish : Workspace) (told : Report),
        java.inputs = request.inputs → java.options = request.options →
        before.files.SameSamples request.inputs start.files →
        java.convert.runOn start = (.ok told, finish) →
        told.generated.keys = report.generated.keys ∧ told.failed = report.failed ∧
        ∃ name g, java.chosenPackageName.Returns start name start ∧ java.generator name = .ok g ∧
          List.Forall₂ (fun entry written => ∃ spec, ClassOver.ofJson entry.2 = .ok spec ∧
              finish.files.HoldsSource g spec written.2)
            entries told.generated := by
  obtain ⟨files, samples, output, found, synthesized, rfl, given, apart, document⟩ :=
    document_of_convert returns
  refine ⟨files, samples, output, specEntries samples.specs, found, synthesized, rfl, given,
    document, isDocumentOf_specEntries apart, ?_⟩
  intro java start finish told inputs options same went
  obtain ⟨name, g, files', samples', chosen, accepted, found', synthesized', failed, keys,
    sources⟩ := JavaRequest.sources_of_convert went
  -- The other conversion finds the same files and comes to the same samples.
  rw [inputs, same.found, found, Except.ok.injEq] at found'
  subst found'
  rw [options, FileTree.synthesizeSamples,
    synthesizeFrom_congr .start (same.loaded files found)] at synthesized'
  obtain rfl : samples = samples' := congrArg Prod.snd (synthesized.symm.trans synthesized')
  have toldKeys : told.generated.keys = (specNames samples.specs).keys := by
    rw [keys, specNames, Keyed.keys, Keyed.keys, List.map_map]
    rfl
  refine ⟨toldKeys, failed, name, g, chosen, accepted, ?_⟩
  rw [specEntries, List.forall₂_map_left_iff]
  exact sources.imp fun sample written holds => ⟨sample.2, sample.2.ofJson_toJson, holds⟩

def siblingDocument : SpecRequest := ⟨JavaRequest.siblingInputs.inputs, some "specs.json", .default⟩

theorem convert_siblingDocument :
    ∃ report after, siblingDocument.convert.runOn ⟨JavaRequest.siblings, []⟩ = (.ok report, after) ∧
      report.generated.map Prod.snd = [Text.ofString "A", Text.ofString "ATest"] := by
  apply Action.exists_of_passes
  decide +kernel

theorem siblings_rendered_alike :
    ∃ report after told finish entries g,
      siblingDocument.convert.runOn ⟨JavaRequest.siblings, []⟩ = (.ok report, after) ∧
      JavaRequest.siblingInputs.convert.runOn ⟨JavaRequest.siblings, []⟩ = (.ok told, finish) ∧
      after.files.HoldsDocument entries "specs.json" ∧
      entries.keys = [Text.ofString "A", Text.ofString "ATest"] ∧
      told.generated.keys = [Text.ofString "a.json", Text.ofString "aTest.json"] ∧
      List.Forall₂ (fun entry written => ∃ spec, ClassOver.ofJson entry.2 = .ok spec ∧
          finish.files.HoldsSource g spec written.2)
        entries told.generated := by
  obtain ⟨report, after, returns, names⟩ := convert_siblingDocument
  obtain ⟨told, finish, went, keys⟩ := JavaRequest.convert_siblings
  obtain ⟨files, samples, output, entries, -, -, rfl, given, document, ofSamples, rendered⟩ :=
    SpecRequest.document_renders_to_sources siblingDocument _ _ _ returns
  obtain ⟨-, -, name, g, -, -, sources⟩ := rendered JavaRequest.siblingInputs _ finish told rfl rfl
    (.refl _ _) went
  cases given
  exact ⟨_, after, told, finish, entries, g, returns, went, document,
    ofSamples.named.trans names, keys, sources⟩

end ClassSynth
