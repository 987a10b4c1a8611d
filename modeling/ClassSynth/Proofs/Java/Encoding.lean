import ClassSynth.Proofs.Java.LegalName
import ClassSynth.Proofs.Java.Unit
import ClassSynth.Proofs.Json.Encoding

/-!
# What is generated has bytes

Names are words, keys are written as literals in plain ASCII, and no segment of a package name holds
a surrogate.  So the source of a class tree, its round-trip test and the project file can all be
written.
-/

set_option autoImplicit false

namespace ClassSynth.Java

/-! ## Packages -/

/-- No surrogate belongs to an identifier. -/
theorem wordRanges_avoid_surrogates :
    ((wordStartRanges ++ wordOnlyInsideRanges).all fun range =>
      decide (range.2 < 0xD800) || decide (0xDFFF < range.1)) = true := by
  decide +kernel

theorem not_isWord_of_isSurrogate {c : CodePoint} (surrogate : c.isSurrogate = true) :
    c.isWordStart = false ∧ c.isWordPart = false := by
  have value := CodePoint.val_of_isSurrogate surrogate
  have notAscii : c.isAscii = false := by
    rw [CodePoint.isAscii, decide_eq_false_iff_not]
    omega
  have outside : c.isIn (wordStartRanges ++ wordOnlyInsideRanges) = false := by
    rw [CodePoint.isIn, List.any_eq_false]
    intro range listed within
    have avoids := List.all_eq_true.mp wordRanges_avoid_surrogates range listed
    simp only [Bool.or_eq_true, Bool.and_eq_true, decide_eq_true_eq] at avoids within
    omega
  rw [CodePoint.isIn, List.any_append, Bool.or_eq_false_iff] at outside
  simp only [CodePoint.isWordStart, CodePoint.isWordPart, CodePoint.isIn, notAscii, outside,
    Bool.false_eq_true, if_false, Bool.or_self, and_self]

theorem isClean_of_isSegment {segment : Text} (valid : Package.isSegment segment = true) :
    Path.IsClean segment := by
  intro c member
  refine ⟨?_, ?_⟩
  · rw [Bool.eq_false_iff]
    intro surrogate
    obtain ⟨noStart, noPart⟩ := not_isWord_of_isSurrogate surrogate
    exact Package.not_mem_of_isSegment valid noStart noPart member
  · rintro rfl
    exact Package.not_mem_of_isSegment valid (by decide) (by decide) member

theorem isEncodable_of_isSegment {segment : Text} (valid : Package.isSegment segment = true) :
    segment.IsEncodable := fun c member => (isClean_of_isSegment valid c member).1

namespace Output

variable {g : Generator} (valid : ∀ segment ∈ g.package.segments, Package.isSegment segment = true)
  {project : Text} (clean : Path.IsClean project)

include valid clean

theorem isClean_directory (output : Output) : Path.IsClean (output.directory g project) := by
  have fixed : ∀ folder ∈ ["src", "main", "java", "test", "resources"],
      Path.IsClean (Text.ofString folder) := by
    have noNull : ∀ folder ∈ ["src", "main", "java", "test", "resources"],
        '\x00' ∉ folder.toList := by
      decide
    exact fun folder listed => Path.isClean_ofString (noNull folder listed)
  have packages := fun segment listed => isClean_of_isSegment (valid segment listed)
  refine Path.IsClean.foldl_join ?_ clean
  cases output <;>
    simp only [folders, List.forall_mem_cons, List.not_mem_nil, false_implies, implies_true,
      and_true]
  case source => exact ⟨fixed _ (by decide), fixed _ (by decide), fixed _ (by decide), packages⟩
  case resource => exact ⟨fixed _ (by decide), fixed _ (by decide), fixed _ (by decide)⟩
  case test => exact ⟨fixed _ (by decide), fixed _ (by decide), fixed _ (by decide), packages⟩

theorem isClean_path {className : Text} (word : className.IsWord) (output : Output) :
    Path.IsClean (output.path g project className) := by
  have suffix : Path.IsClean output.suffix := by
    cases output <;> exact Path.isClean_ofString (by decide)
  rw [path_eq]
  exact (isClean_directory valid clean output).join
    ((Path.isClean_append_iff _ _).mpr ⟨Path.isClean_of_isWord word, suffix⟩)

end Output

/-! ## Project files and tests -/

/-- A project file has bytes when all that varies in it has. -/
theorem ProjectFile.isEncodable_text (f : ProjectFile)
    (each : ∀ value ∈ [f.groupId, f.artifactId, f.jdk, f.jackson, f.lombokVersion, f.junit,
      f.compiler, f.surefire], value.IsEncodable) : f.text.IsEncodable := by
  simp only [List.forall_mem_cons, List.not_mem_nil, false_implies, implies_true, and_true] at each
  obtain ⟨group, artifact, jdk, jackson, lombok, junit, compiler, surefire⟩ := each
  apply Text.isEncodable_textOfLines
  simp only [List.forall_mem_append]
  refine ⟨⟨⟨⟨?_, ?_⟩, ?_⟩, ?_⟩, ?_⟩
  · simp [headLines, group, artifact, jdk, jackson]
  · split
    · simp [lombokDependencyLines, lombok]
    · simp
  · simp [testDependencyLines, junit, compiler]
  · split
    · simp [lombokProcessorLines, lombok]
    · simp
  · simp [tailLines, surefire]

section

variable {g : Generator} (valid : ∀ segment ∈ g.package.segments, Package.isSegment segment = true)

include valid

theorem isEncodable_packageName : g.package.name.IsEncodable :=
  Text.isEncodable_join (Text.isEncodable_ofString _) fun segment listed =>
    isEncodable_of_isSegment (valid segment listed)

theorem isEncodable_projectFile : (ProjectFile.ofGenerator g).text.IsEncodable := by
  have segments : ∀ segment ∈ ProjectFile.nameSegments g.package, segment.IsEncodable := by
    rw [ProjectFile.nameSegments]
    split
    · simp
    · exact fun segment listed => isEncodable_of_isSegment (valid segment listed)
  have last : ((ProjectFile.nameSegments g.package).getLastD []).IsEncodable := by
    rw [List.getLastD_eq_getLast?]
    cases ends : (ProjectFile.nameSegments g.package).getLast? with
    | none => exact Text.isEncodable_nil
    | some segment => exact segments segment (List.mem_of_getLast? ends)
  have group : (ProjectFile.ofGenerator g).groupId.IsEncodable := by
    rw [ProjectFile.ofGenerator]
    simp only
    split
    · exact last
    · exact Text.isEncodable_join (Text.isEncodable_ofString _) fun segment listed =>
        segments segment (List.mem_of_mem_dropLast listed)
  apply ProjectFile.isEncodable_text
  simp only [List.forall_mem_cons, List.not_mem_nil, false_implies, implies_true, and_true]
  exact ⟨group, last, Text.isEncodable_ofString _, Text.isEncodable_ofString _,
    Text.isEncodable_ofString _, Text.isEncodable_ofString _, Text.isEncodable_ofString _,
    Text.isEncodable_ofString _⟩

theorem isEncodable_roundTripTest {className resourceName : Text} (word : className.IsWord)
    (resource : resourceName.IsEncodable) :
    (RoundTripTest.ofClass g.package className resourceName).text.IsEncodable := by
  have name := Text.isEncodable_of_isWord word
  have packageLine : ∀ line ∈ (RoundTripTest.ofClass g.package className resourceName).packageLines,
      line.IsEncodable := by
    rw [RoundTripTest.packageLines, RoundTripTest.ofClass]
    cases g.package.segments.isEmpty with
    | true => simp
    | false => simp [isEncodable_packageName valid]
  apply Text.isEncodable_textOfLines
  rw [List.forall_mem_append]
  refine ⟨packageLine, ?_⟩
  simp [RoundTripTest.bodyLines, RoundTripTest.ofClass, name, resource]

end

/-! ## Sources -/

theorem isEncodable_typeText {type : FieldType} (boxed : Bool)
    (words : ∀ name, type.reference? = some name → name.IsWord) :
    (typeText boxed type).IsEncodable := by
  induction type generalizing boxed with
  | primitive kind => cases boxed <;> cases kind <;> simp [typeText, boxedType, primitiveType]
  | list element ih => simpa [typeText] using ih true words
  | reference className => exact Text.isEncodable_of_isWord (words className rfl)

/-- Whether all that the lines of a class are made of has bytes. -/
structure HasBytes (model : ClassModel) : Prop where
  name : model.name.IsWord
  annotations : ∀ label ∈ model.annotations, label.IsEncodable
  fields : ∀ field ∈ model.fields,
    field.name.IsWord ∧ field.keyLiteral.IsEncodable ∧ field.type.IsEncodable

theorem isEncodable_fieldLines (style : Style) {field : FieldModel} (word : field.name.IsWord)
    (key : field.keyLiteral.IsEncodable) (type : field.type.IsEncodable) :
    ∀ line ∈ fieldLines style field, line.IsEncodable := by
  have name := Text.isEncodable_of_isWord word
  rw [fieldLines]
  cases style.jackson <;> simp [name, key, type]

theorem isEncodable_accessorLines {field : FieldModel} (word : field.name.IsWord)
    (type : field.type.IsEncodable) : ∀ line ∈ accessorLines field, line.IsEncodable := by
  have name := Text.isEncodable_of_isWord word
  have suffix := Text.isEncodable_of_isWord (Text.isWord_capitalizeFirst word)
  simp [accessorLines, name, suffix, type]

theorem HasBytes.isEncodable_ownText {model : ClassModel} (bytes : HasBytes model) (style : Style)
    (isNested : Bool) : ∀ line ∈ model.ownText style isNested, line.IsEncodable := by
  have name := Text.isEncodable_of_isWord bytes.name
  have methods : ∀ line ∈ constructorLines model.name ++ model.fields.flatMap accessorLines,
      line.IsEncodable := by
    rw [List.forall_mem_append]
    refine ⟨by simp [constructorLines, name], ?_⟩
    intro line listed
    obtain ⟨field, carried, within⟩ := List.mem_flatMap.mp listed
    obtain ⟨word, -, type⟩ := bytes.fields field carried
    exact isEncodable_accessorLines word type line within
  simp only [ClassModel.ownText, ownLines, List.forall_mem_append, List.forall_mem_singleton]
  refine ⟨⟨⟨?_, ?_⟩, ?_, ?_⟩, by simp [ending]⟩
  · intro line listed
    obtain ⟨label, carried, rfl⟩ := List.mem_map.mp listed
    exact (Text.isEncodable_cons_iff _ _).mpr
      ⟨CodePoint.isSurrogate_ofChar _, bytes.annotations label carried⟩
  · cases isNested <;> simp [heading, name]
  · intro line listed
    obtain ⟨field, carried, within⟩ := List.mem_flatMap.mp listed
    obtain ⟨word, key, type⟩ := bytes.fields field carried
    exact isEncodable_fieldLines style word key type line within
  · split
    · simp
    · exact methods

section

variable {g : Generator} {spec : ClassSpec} {model : ClassModel}

theorem ModelsClass.hasBytes {cls : ClassSpec} {inner : ClassModel}
    (models : ModelsClass g.lombok cls inner) (words : HasWords cls) : HasBytes inner where
  name := models.name ▸ words.name
  annotations := by
    have each : ∀ lombok hasFields, ∀ label ∈ annotationsFor lombok hasFields,
        label.IsEncodable := by
      intro lombok hasFields
      cases lombok <;> cases hasFields <;> simp [annotationsFor]
    rw [models.annotations]
    exact each _ _
  fields := by
    intro field carried
    have named : field.name.IsWord :=
      isWord_of_mem_fieldModels words.fieldNames [] field (models.fields ▸ carried)
    obtain ⟨declared, listed, modelsField⟩ := exists_field_of_mem models carried
    rw [modelsField.keyLiteral, modelsField.type]
    exact ⟨named, Text.isEncodable_literal _,
      isEncodable_typeText false (words.references _ listed)⟩

/-- A surrogate in a definition would stand in a line of one of the classes. -/
theorem isEncodable_definition (modelled : g.model spec = .ok model)
    (words : ∀ inner ∈ spec.walk, HasWords inner) : (g.definition model).IsEncodable := by
  intro c member
  rw [Bool.eq_false_iff]
  intro surrogate
  have mark : IsMark [c] := by
    refine ⟨List.cons_ne_nil _ _, ?_, ?_⟩ <;>
    · rw [List.mem_singleton]
      rintro rfl
      exact absurd surrogate (by decide)
  have found : Text.hasInfix [c] (g.definition model) = true :=
    (Text.hasInfix_iff _ _).mpr ((List.singleton_infix_iff c _).mpr member)
  obtain ⟨inner, present, isNested, line, listed, occurs⟩ :=
    exists_of_hasInfix_definition mark found
  obtain ⟨cls, within, models⟩ := exists_class_of_mem_walk modelled present
  have plain := (models.hasBytes (words cls within)).isEncodable_ownText _ _ line listed
  rw [plain c (occurs.subset (List.mem_singleton_self c))] at surrogate
  cases surrogate

theorem isEncodable_header
    (valid : ∀ segment ∈ g.package.segments, Package.isSegment segment = true)
    (definition : Text) : (g.header (g.importsFor definition)).IsEncodable := by
  have marks : ∀ mark ∈ g.importMarks, mark.2.IsEncodable := by
    rw [Generator.importMarks]
    cases g.jackson <;> cases g.lombok <;> simp
  have imports : ∀ line ∈ importLines (g.importsFor definition), line.IsEncodable := by
    intro line listed
    rw [importLines] at listed
    split at listed
    · cases listed
    · rw [List.mem_append, List.mem_singleton] at listed
      rcases listed with ofImport | rfl
      · obtain ⟨name, present, rfl⟩ := List.mem_map.mp ofImport
        obtain ⟨mark, found, rfl⟩ := List.mem_map.mp present
        simp [marks mark (List.mem_filter.mp found).1]
      · exact Text.isEncodable_nil
  have package : ∀ line ∈ packageLines g.packageName?, line.IsEncodable := by
    rw [Generator.packageName?]
    split
    · simp [packageLines]
    · simp [packageLines, packageOpening, isEncodable_packageName valid]
  rw [Generator.header_eq]
  exact Text.isEncodable_textOfLines (List.forall_mem_append.mpr ⟨package, imports⟩)

/-- The class of a sample has a source, and the source has bytes. -/
theorem exists_source (valid : ∀ segment ∈ g.package.segments, Package.isSegment segment = true)
    {options : Options} {document : Json} {file : Text}
    (tree : synthesizeFresh options document (some (ClassName.ofFile file)) = .ok spec) :
    ∃ text, g.source spec = .ok text ∧ text.IsEncodable := by
  obtain ⟨identifier, members, mirrored⟩ := mirrors_of_synthesizeFresh tree
  have word := Text.isWord_of_isIdentifier identifier
  obtain ⟨model, modelled⟩ :=
    exists_model_of_synthesizeFresh (ClassName.isLegal_ofFile file) tree g
  refine ⟨g.sourceOfModel model, ?_, ?_⟩
  · rw [Generator.source, modelled]
    rfl
  · exact (Text.isEncodable_append_iff _ _).mpr ⟨isEncodable_header valid _,
      isEncodable_definition modelled (mirrored.hasWords_of_mem_walk word)⟩

end

end ClassSynth.Java
