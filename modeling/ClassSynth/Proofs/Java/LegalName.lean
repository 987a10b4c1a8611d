import ClassSynth.Proofs.Java.FieldName
import ClassSynth.Proofs.Java.ReservedName

/-!
# Legal names

The class name of a file may stand in Java, and what is nested in a class with such a name has one
too, and a longer one.  For fields, escaping a reserved word and telling a name from those taken
both lead to names with an underscore, and no reserved word holds one but the single underscore,
which is too short to come out.  So a class has Java names for its fields whatever their identifiers
are, equal ones among them too.
-/

set_option autoImplicit false

namespace ClassSynth

namespace Java

/-- Whether a name may stand in a Java class. -/
structure IsLegal (name : Text) : Prop where
  identifier : name.isIdentifier = true
  unreserved : isReservedWord name = false

/-- Only the single underscore is reserved among the names that hold one. -/
theorem eq_underscore_of_isReservedWord {name : Text} (reserved : isReservedWord name = true)
    (holds : underscore ∈ name) : name = [underscore] := by
  have words : (reservedWords.all fun word =>
      decide (word = [underscore]) || !word.contains underscore) = true := by decide +kernel
  have shape := List.all_eq_true.mp words name (List.contains_iff_mem.mp reserved)
  rw [Bool.or_eq_true, decide_eq_true_eq] at shape
  rcases shape with same | without
  · exact same
  · simp [holds] at without

theorem isLegal_cons_underscore {name : Text} (word : name.IsWord) (nonempty : name ≠ []) :
    IsLegal (underscore :: name) := by
  constructor
  · have start : underscore.isIdentifierStart = true := by decide
    rw [Text.isIdentifier, start, Bool.true_and]
    exact List.all_eq_true.mpr word
  · rw [Bool.eq_false_iff]
    intro reserved
    have same := eq_underscore_of_isReservedWord reserved List.mem_cons_self
    exact nonempty (List.cons.inj same).2

theorem isLegal_escaped {name : Text} (identifier : name.isIdentifier = true) :
    IsLegal (escaped name) := by
  rw [escaped]
  cases reserved : isReservedWord name with
  | false => exact ⟨identifier, reserved⟩
  | true =>
    refine isLegal_cons_underscore (Text.isWord_of_isIdentifier identifier) ?_
    rintro rfl
    cases identifier

theorem IsLegal.lengthen_once {name : Text} (legal : IsLegal name) :
    IsLegal (name ++ [underscore]) := by
  constructor
  · apply Text.isIdentifier_append legal.identifier
    exact List.forall_mem_singleton.mpr CodePoint.isIdentifierPart_underscore
  · rw [Bool.eq_false_iff]
    intro reserved
    have same := eq_underscore_of_isReservedWord reserved (by simp)
    have empty : name = [] := by simpa using same
    rw [empty] at legal
    cases legal.identifier

theorem LengthensTo.isLegal {taken : List Text} {rounds : Nat} {name result : Text}
    (run : LengthensTo taken rounds name result) (legal : IsLegal name) : IsLegal result := by
  induction run with
  | free _ => exact legal
  | round _ _ ih => exact ih legal.lengthen_once

theorem isLegal_fieldName {name : Text} (identifier : name.isIdentifier = true)
    (taken : List Text) : IsLegal (fieldName name taken) := by
  obtain ⟨rounds, -, run⟩ := exists_lengthensTo_fieldName name taken
  exact run.isLegal (isLegal_escaped identifier)

/-! ## All fields of a class -/

theorem fieldModels_append (earlier later : List Field) : ∀ taken : List Text,
    fieldModels taken (earlier ++ later) = fieldModels taken earlier ++
      fieldModels (taken ++ (fieldModels taken earlier).map FieldModel.name) later := by
  induction earlier with
  | nil => simp [fieldModels]
  | cons field rest ih =>
    intro taken
    simp only [List.cons_append, fieldModels, ih, List.map_cons, List.append_assoc, List.nil_append]

theorem isLegal_of_mem_fieldModels {fields : List Field}
    (identifiers : ∀ field ∈ fields, field.name.isIdentifier = true) :
    ∀ taken, ∀ model ∈ fieldModels taken fields, IsLegal model.name := by
  induction fields with
  | nil => simp [fieldModels]
  | cons field rest ih =>
    obtain ⟨first, later⟩ := List.forall_mem_cons.mp identifiers
    intro taken
    rw [fieldModels]
    exact List.forall_mem_cons.mpr ⟨isLegal_fieldName first taken, ih later _⟩

/-- How a field gets its Java name when the fields before it have theirs. -/
structure NamesNext (earlier : List Field) (before : List FieldModel) (field : Field)
    (model : FieldModel) : Prop where
  /-- The loop that lengthens the name ends after at most as many rounds as there are names. -/
  ends : ∃ rounds ≤ before.length,
    LengthensTo (before.map FieldModel.name) rounds (escaped field.name) model.name
  /-- The name is kept if it is not reserved, no field before has it, and none was given it. -/
  kept : isReservedWord field.name = false → (∀ other ∈ earlier, other.name ≠ field.name) →
    (∀ renamed ∈ earlier.zip before, renamed.2.name ≠ renamed.1.name →
      renamed.2.name ≠ field.name) →
    model.name = field.name

/-- What the Java names of the fields of a class are like. -/
structure NamesFields (fields : List Field) (models : List FieldModel) : Prop where
  inOrder : List.Forall₂ ModelsField fields models
  distinct : (models.map FieldModel.name).Nodup
  legal : ∀ model ∈ models, IsLegal model.name
  each : ∀ earlier field later, fields = earlier ++ field :: later →
    ∃ before model after, models = before ++ model :: after ∧ before.length = earlier.length ∧
      NamesNext earlier before field model

theorem namesNext_fieldModels (earlier : List Field) (field : Field) :
    NamesNext earlier (fieldModels [] earlier) field
      ⟨fieldName field.name ((fieldModels [] earlier).map FieldModel.name),
        field.jsonName.literal, typeText false field.type⟩ := by
  constructor
  · have run := exists_lengthensTo_fieldName field.name
      ((fieldModels [] earlier).map FieldModel.name)
    rwa [List.length_map] at run
  · intro unreserved first untaken
    refine fieldName_of_not_mem unreserved ?_
    intro present
    obtain ⟨model, listed, same⟩ := List.mem_map.mp present
    obtain ⟨other, paired⟩ := exists_mem_zip_of_forall₂ (modelsField_fieldModels earlier []) listed
    -- A taken name is the own name of a field before, or one that such a field was given.
    by_cases asIs : model.name = other.name
    · exact first other (List.of_mem_zip paired).1 (asIs.symm.trans same)
    · exact untaken (other, model) paired asIs same

theorem namesFields_fieldModels {fields : List Field}
    (identifiers : ∀ field ∈ fields, field.name.isIdentifier = true) :
    NamesFields fields (fieldModels [] fields) where
  inOrder := modelsField_fieldModels fields []
  distinct := (names_fieldModels_distinct fields []).1
  legal := isLegal_of_mem_fieldModels identifiers []
  each := by
    rintro earlier field later rfl
    have split := fieldModels_append earlier (field :: later) []
    rw [fieldModels, List.nil_append] at split
    have lengths := (modelsField_fieldModels earlier []).length_eq
    exact ⟨_, _, _, split, lengths.symm, namesNext_fieldModels earlier field⟩

/-! ## All classes of a tree -/

theorem exists_model_iff (g : Generator) (spec : ClassSpec) :
    (∃ model, g.model spec = .ok model) ↔
      ∀ cls ∈ spec.walk, isReservedWord cls.name = false := by
  constructor
  · rintro ⟨model, modelled⟩ cls within
    obtain ⟨inner, -, models⟩ := exists_model_of_mem_walk modelled within
    exact models.unreserved
  · exact exists_classModel spec

/-- In every class with identifiers for fields, the fields keep their number and their order and get
legal Java names that are all different; only reserved class names prevent a model. -/
theorem classModel_names_fields (g : Generator) (spec : ClassSpec) :
    (∀ cls ∈ spec.walk, (∀ field ∈ cls.fields, field.name.isIdentifier = true) →
      NamesFields cls.fields (fieldModels [] cls.fields)) ∧
    ((∃ model, g.model spec = .ok model) ↔
      ∀ cls ∈ spec.walk, isReservedWord cls.name = false) ∧
    ∀ model, g.model spec = .ok model →
      List.Forall₂ (fun cls inner => inner.name = cls.name ∧
          inner.fields = fieldModels [] cls.fields)
        spec.walk model.walk := by
  refine ⟨?_, exists_model_iff g spec, ?_⟩
  · intro cls _ identifiers
    exact namesFields_fieldModels identifiers
  · intro model modelled
    refine (models_walk spec model modelled).imp ?_
    intro cls inner models
    exact ⟨models.name, models.fields⟩

/-- A class whose fields get in each other's way: the escaped name of the first is that of the
second, whose longer name is that of the third. -/
def crossedSpec : ClassSpec :=
  ⟨"Box", ["class", "_class", "_class_", "_", "class"].map fun name =>
    ⟨Text.ofString name, .primitive .int, Text.ofString name⟩, []⟩

theorem classModel_names_fields_crossed :
    (∀ field ∈ crossedSpec.fields, field.name.isIdentifier = true) ∧
    NamesFields crossedSpec.fields (fieldModels [] crossedSpec.fields) ∧
    (fieldModels [] crossedSpec.fields).map FieldModel.name =
      ["_class", "_class_", "_class__", "__", "_class___"] ∧
    ∃ model, usualGenerator.model crossedSpec = .ok model := by
  obtain ⟨named, modelled, -⟩ := classModel_names_fields usualGenerator crossedSpec
  have identifiers : ∀ field ∈ crossedSpec.fields, field.name.isIdentifier = true := by
    decide +kernel
  refine ⟨identifiers, named crossedSpec List.mem_cons_self identifiers, by decide +kernel, ?_⟩
  exact modelled.mpr (by decide +kernel)

end Java

open Java (IsLegal)

/-! ## The names of classes -/

theorem ClassName.isLegal_ofFile (path : Text) : IsLegal (ClassName.ofFile path) :=
  ⟨isIdentifier_ofFile path, Java.isReservedWord_ofFile path⟩

theorem Java.IsLegal.ne_nil {name : Text} (legal : IsLegal name) : name ≠ [] := by
  rintro rfl
  cases legal.identifier

section

variable {policy : EmptyArrays} {naming : NestedNaming}

theorem NestedNaming.isLegal_className {owner : Text} (legal : IsLegal owner) (key : Text)
    (object : List (Text × Json)) : IsLegal (naming.className owner key object) := by
  constructor
  · rw [NestedNaming.className]
    exact Text.isIdentifier_append legal.identifier
      (Text.isWord_capitalizeFirst (Text.isWord_sanitize _))
  · exact Java.isReservedWord_of_isCompound (naming.isCompound_className legal.ne_nil key object)

theorem NestedNaming.goesOn_className (owner key : Text) (object : List (Text × Json)) :
    owner <+: naming.className owner key object ∧ naming.className owner key object ≠ owner := by
  obtain ⟨c, rest, segment, -⟩ := Text.exists_capitalizeFirst_sanitize (naming.segment key object)
  rw [NestedNaming.className, segment]
  exact ⟨List.prefix_append _ _, by simp⟩

theorem Mirrors.goesOn_of_mem_nested {members : List (Text × Json)} {spec nested : ClassSpec}
    (mirrored : Mirrors policy naming members spec) (listed : nested ∈ spec.nested) :
    spec.name <+: nested.name ∧ nested.name ≠ spec.name := by
  cases mirrored with
  | intro fields names below =>
    obtain ⟨held, -, named⟩ := exists_related_of_mem names listed
    rw [named]
    exact naming.goesOn_className spec.name held.1 held.2

/-- Whether the name of a class may stand in Java, and those of its nested classes go on from it. -/
structure IsUsable (spec : ClassSpec) : Prop where
  legal : IsLegal spec.name
  nested : ∀ inner ∈ spec.nested, spec.name <+: inner.name ∧ inner.name ≠ spec.name

theorem Mirrors.isUsable_of_mem_walk {members : List (Text × Json)} {spec : ClassSpec}
    (mirrored : Mirrors policy naming members spec) (root : IsLegal spec.name) :
    ∀ inner ∈ spec.walk, IsUsable inner := by
  intro inner within
  obtain ⟨object, mirrors⟩ := mirrored.exists_of_mem_walk within
  refine ⟨?_, fun nested listed => mirrors.goesOn_of_mem_nested listed⟩
  refine mirrored.forall_names IsLegal ?_ root inner within
  intro owner key held legal
  exact naming.isLegal_className legal key held

end

theorem isUsable_of_synthesize {o : Options} {document : Json} {name : Text}
    {names later : NameTable} {spec : ClassSpec} (legal : IsLegal name)
    (success : synthesize o document (some name) names = (.ok spec, later)) :
    ∀ inner ∈ spec.walk, IsUsable inner := by
  obtain ⟨given, members, same, -, -, tree, rfl, -⟩ :=
    (synthesize_eq_ok_iff o document (some name) names later spec).mp success
  cases same
  have mirrored := mirrors_ofObject name members tree
  exact mirrored.isUsable_of_mem_walk legal

theorem exists_model_of_synthesizeFresh {o : Options} {document : Json} {name : Text}
    {spec : ClassSpec} (legal : IsLegal name)
    (success : synthesizeFresh o document (some name) = .ok spec) (g : Java.Generator) :
    ∃ model, g.model spec = .ok model := by
  rw [Java.exists_model_iff]
  intro inner within
  exact (isUsable_of_synthesize legal (Prod.ext success rfl) inner within).legal.unreserved

end ClassSynth
