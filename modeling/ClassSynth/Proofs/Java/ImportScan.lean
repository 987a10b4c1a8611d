import ClassSynth.Proofs.Inference.Naming
import ClassSynth.Proofs.Java.Occurrence
import ClassSynth.Proofs.Json.Literal

/-!
# What the search for imports finds

Imports are found by searching the text of a definition for marks.  What is found is told by the
class tree: by the types and the keys of its fields, by the annotations of its classes and by their
names.
-/

set_option autoImplicit false

namespace ClassSynth.Java

/-- Whether a class of a tree has a field. -/
def HasFields (spec : ClassSpec) : Prop := ∃ inner ∈ spec.walk, inner.fields ≠ []

/-- Whether a field of a tree is a list, or has a key, if keys are carried, that reads like one. -/
def MentionsList (jackson : Bool) (spec : ClassSpec) : Prop :=
  ∃ inner ∈ spec.walk, ∃ field ∈ inner.fields,
    (∃ element, field.type = .list element) ∨
      (jackson = true ∧ Text.hasInfix "List<" field.jsonName = true)

theorem exists_list_of_mem_typeText {type : FieldType} {boxed : Bool}
    (words : ∀ name, type.reference? = some name → name.IsWord)
    (present : CodePoint.ofChar '<' ∈ typeText boxed type) : ∃ element, type = .list element := by
  cases type with
  | primitive kind => cases kind <;> cases boxed <;> exact absurd present (by decide)
  | list element => exact ⟨element, rfl⟩
  | reference className =>
    have special : IsSpecial (CodePoint.ofChar '<') := .inl rfl
    exact absurd present (special.not_mem_word (words className rfl))

/-- Whether the line that carries a key holds a mark only where the key itself does. -/
structure IsKeyMark (first : CodePoint) (rest : Text) : Prop where
  written : ∀ c ∈ first :: rest, literalPoint c = [c]
  unescaped : first.isEscapePoint = false
  noOpening : CodePoint.ofChar '(' ∉ first :: rest
  noClosing : CodePoint.ofChar ')' ∉ first :: rest
  elsewhere : ¬ first :: rest <:+: ("@JsonProperty" : Text)

theorem IsKeyMark.infix_keyLine_iff {first : CodePoint} {rest : Text} (mark : IsKeyMark first rest)
    {field : FieldModel} {key : Text} (carries : field.keyLiteral = key.literal) :
    first :: rest <:+: keyLine field ↔ first :: rest <:+: key := by
  have shape : keyLine field = ("@JsonProperty" : Text) ++ CodePoint.ofChar '(' ::
      (key.literal ++ CodePoint.ofChar ')' :: []) := by
    rw [keyLine, carries]
    exact List.append_assoc _ _ _
  rw [shape, Text.infix_append_cons_iff mark.noOpening, Text.infix_append_cons_iff mark.noClosing,
    List.infix_nil, or_iff_right mark.elsewhere, or_iff_left (List.cons_ne_nil _ _)]
  exact infix_literal_iff mark.written mark.unescaped key

theorem isKeyMark_list : IsKeyMark (CodePoint.ofChar 'L') "ist<" := by
  have written : (("List<" : Text).all fun c => decide (literalPoint c = [c])) = true := by decide
  refine ⟨?_, by decide, by decide, by decide, ?_⟩
  · intro c member
    exact of_decide_eq_true (List.all_eq_true.mp written c member)
  · rw [← Text.hasInfix_iff]
    decide

section

variable {g : Generator} {spec : ClassSpec} {model : ClassModel}

theorem exists_model_of_source {text : Text} (sourced : g.source spec = .ok text) :
    ∃ model, g.model spec = .ok model ∧ text = g.sourceOfModel model := by
  rw [Generator.source] at sourced
  cases modelled : g.model spec with
  | error e =>
    rw [modelled] at sourced
    cases sourced
  | ok model =>
    rw [modelled] at sourced
    exact ⟨model, rfl, (Except.ok.inj sourced).symm⟩

theorem exists_class_of_mem_walk (modelled : g.model spec = .ok model) {inner : ClassModel}
    (present : inner ∈ model.walk) : ∃ cls ∈ spec.walk, ModelsClass g.lombok cls inner :=
  exists_related_of_mem (models_walk spec model modelled) present

theorem exists_model_of_mem_walk (modelled : g.model spec = .ok model) {cls : ClassSpec}
    (present : cls ∈ spec.walk) : ∃ inner ∈ model.walk, ModelsClass g.lombok cls inner :=
  exists_related_of_mem (models_walk spec model modelled).flip present

theorem exists_field_of_mem {cls : ClassSpec} {inner : ClassModel}
    (models : ModelsClass g.lombok cls inner) {fieldModel : FieldModel}
    (carried : fieldModel ∈ inner.fields) : ∃ field ∈ cls.fields, ModelsField field fieldModel := by
  rw [models.fields] at carried
  exact exists_related_of_mem (modelsField_fieldModels cls.fields []) carried

theorem exists_fieldModel_of_mem {cls : ClassSpec} {inner : ClassModel}
    (models : ModelsClass g.lombok cls inner) {field : Field} (carried : field ∈ cls.fields) :
    ∃ fieldModel ∈ inner.fields, ModelsField field fieldModel := by
  rw [models.fields]
  exact exists_related_of_mem (modelsField_fieldModels cls.fields []).flip carried

theorem mem_ownText_of_mem_fieldLines {style : Style} {inner : ClassModel} {field : FieldModel}
    {line : Text} (carried : field ∈ inner.fields) (listed : line ∈ fieldLines style field)
    (isNested : Bool) : line ∈ inner.ownText style isNested := by
  have own : line ∈ ownLines style inner.name inner.fields :=
    List.mem_append_left _ (List.mem_flatMap.mpr ⟨field, carried, listed⟩)
  exact List.mem_append_left _ (List.mem_append_right _ own)

/-- A special code point in an occurrence of a mark leads to an annotation or to a field. -/
theorem special_of_scan (modelled : g.model spec = .ok model)
    (words : ∀ inner ∈ spec.walk, HasWords inner) {pattern : Text} (mark : IsMark pattern)
    {c : CodePoint} (special : IsSpecial c) (holds : c ∈ pattern)
    (found : Text.hasInfix pattern (g.definition model) = true) :
    ∃ cls ∈ spec.walk, ∃ line, pattern <:+: line ∧
      ((∃ label ∈ annotationsFor g.lombok (!cls.fields.isEmpty),
        line = CodePoint.ofChar '@' :: label) ∨
      ∃ field ∈ cls.fields, c ∈ typeText false field.type ∨
        (g.jackson = true ∧
          ∃ carrier, carrier.keyLiteral = field.jsonName.literal ∧ line = keyLine carrier)) := by
  obtain ⟨inner, present, isNested, line, listed, occurs⟩ :=
    exists_of_hasInfix_definition mark found
  obtain ⟨cls, within, models⟩ := exists_class_of_mem_walk modelled present
  have hasWords := words cls within
  have name : inner.name.IsWord := models.name ▸ hasWords.name
  have fieldNames : ∀ field ∈ inner.fields, field.name.IsWord := by
    rw [models.fields]
    exact isWord_of_mem_fieldModels hasWords.fieldNames []
  refine ⟨cls, within, line, occurs, ?_⟩
  rcases ownText_of_special special name fieldNames listed (occurs.subset holds) with
    ⟨label, carried, same⟩ | ⟨fieldModel, carried, place⟩
  · exact .inl ⟨label, models.annotations ▸ carried, same⟩
  · obtain ⟨field, declared, modelsField⟩ := exists_field_of_mem models carried
    refine .inr ⟨field, declared, ?_⟩
    rw [modelsField.type] at place
    rcases place with inType | ⟨jackson, same⟩
    · exact .inl inType
    · exact .inr ⟨jackson, fieldModel, modelsField.keyLiteral, same⟩

theorem isMark_list : IsMark "List<" := ⟨by decide, by decide, by decide⟩

/-- The mark of list types is found just when the tree mentions one. -/
theorem scan_list_iff (modelled : g.model spec = .ok model)
    (words : ∀ inner ∈ spec.walk, HasWords inner) :
    Text.hasInfix "List<" (g.definition model) = true ↔ MentionsList g.jackson spec := by
  constructor
  · intro found
    obtain ⟨cls, within, line, occurs, ⟨label, listed, rfl⟩ | ⟨field, declared, place⟩⟩ :=
      special_of_scan modelled words isMark_list (.inl rfl) (by decide) found
    · -- No annotation holds the mark.
      have others : ∀ lombok fields, ((annotationsFor lombok fields).all fun label =>
          !Text.hasInfix "List<" (CodePoint.ofChar '@' :: label)) = true := by decide
      have absent := List.all_eq_true.mp (others _ _) label listed
      rw [(Text.hasInfix_iff _ _).mpr occurs] at absent
      cases absent
    · refine ⟨cls, within, field, declared, ?_⟩
      rcases place with inType | ⟨jackson, carrier, carries, rfl⟩
      · have references := (words cls within).references field declared
        exact .inl (exists_list_of_mem_typeText references inType)
      · have inKey := (isKeyMark_list.infix_keyLine_iff carries).mp occurs
        exact .inr ⟨jackson, (Text.hasInfix_iff _ _).mpr inKey⟩
  · rintro ⟨cls, within, field, declared, reason⟩
    obtain ⟨inner, present, models⟩ := exists_model_of_mem_walk modelled within
    obtain ⟨fieldModel, carried, modelsField⟩ := exists_fieldModel_of_mem models declared
    refine hasInfix_definition_of_mem isMark_list present ?_
    intro isNested
    rcases reason with ⟨element, list⟩ | ⟨jackson, inKey⟩
    · refine ⟨_, mem_ownText_of_mem_fieldLines carried
        (List.mem_append_right _ List.mem_cons_self) isNested, ?_⟩
      rw [modelsField.type, list, typeText]
      exact ⟨"private ", typeText true element ++ ">" ++ " " ++ fieldModel.name ++ ";",
        by simp only [List.append_assoc]⟩
    · refine ⟨keyLine fieldModel, mem_ownText_of_mem_fieldLines carried ?_ isNested, ?_⟩
      · simp [fieldLines, Generator.style, jackson, keyLine]
      · have carries := modelsField.keyLiteral
        exact (isKeyMark_list.infix_keyLine_iff carries).mpr ((Text.hasInfix_iff _ _).mp inKey)

/-- A mark with an at sign is found only in a tree with fields, unless it stands for an annotation
of classes without fields. -/
theorem hasFields_of_scan (modelled : g.model spec = .ok model)
    (words : ∀ inner ∈ spec.walk, HasWords inner) {pattern : Text} (mark : IsMark pattern)
    (holds : CodePoint.ofChar '@' ∈ pattern)
    (elsewhere : ∀ label ∈ annotationsFor g.lombok false,
      Text.hasInfix pattern (CodePoint.ofChar '@' :: label) = false)
    (found : Text.hasInfix pattern (g.definition model) = true) : HasFields spec := by
  obtain ⟨cls, within, line, occurs, ⟨label, listed, rfl⟩ | ⟨field, declared, -⟩⟩ :=
    special_of_scan modelled words mark (.inr rfl) holds found
  · refine ⟨cls, within, ?_⟩
    intro noFields
    rw [noFields] at listed
    have absent := elsewhere label listed
    rw [(Text.hasInfix_iff _ _).mpr occurs] at absent
    cases absent
  · exact ⟨cls, within, List.ne_nil_of_mem declared⟩

theorem scan_label (modelled : g.model spec = .ok model) {cls : ClassSpec}
    (within : cls ∈ spec.walk) {label : Text} (mark : IsMark (CodePoint.ofChar '@' :: label))
    (listed : label ∈ annotationsFor g.lombok (!cls.fields.isEmpty)) :
    Text.hasInfix (CodePoint.ofChar '@' :: label) (g.definition model) = true := by
  obtain ⟨inner, present, models⟩ := exists_model_of_mem_walk modelled within
  refine hasInfix_definition_of_mem mark present ?_
  intro isNested
  refine ⟨CodePoint.ofChar '@' :: label, ?_, List.infix_refl _⟩
  have carried : CodePoint.ofChar '@' :: label ∈
      inner.annotations.map (CodePoint.ofChar '@' :: ·) :=
    List.mem_map_of_mem (models.annotations ▸ listed)
  exact List.mem_append_left _ (List.mem_append_left _ (List.mem_append_left _ carried))

theorem scan_className (modelled : g.model spec = .ok model) {cls : ClassSpec}
    (within : cls ∈ spec.walk) (mark : IsMark cls.name) :
    Text.hasInfix cls.name (g.definition model) = true := by
  obtain ⟨inner, present, models⟩ := exists_model_of_mem_walk modelled within
  refine hasInfix_definition_of_mem mark present ?_
  intro isNested
  refine ⟨heading isNested inner.name, ?_, ?_⟩
  · exact List.mem_append_left _ (List.mem_append_left _
      (List.mem_append_right _ (List.mem_singleton_self _)))
  · rw [models.name, heading]
    exact List.infix_append _ _ _

/-- The mark of keys is found just when a class has a field. -/
theorem scan_jsonProperty_iff (modelled : g.model spec = .ok model)
    (words : ∀ inner ∈ spec.walk, HasWords inner) (jackson : g.jackson = true) :
    Text.hasInfix "@JsonProperty" (g.definition model) = true ↔ HasFields spec := by
  have mark : IsMark "@JsonProperty" := ⟨by decide, by decide, by decide⟩
  constructor
  · refine hasFields_of_scan modelled words mark (by decide) ?_
    have others : ∀ lombok, ((annotationsFor lombok false).all fun label =>
        !Text.hasInfix "@JsonProperty" (CodePoint.ofChar '@' :: label)) = true := by decide
    intro label listed
    simpa using List.all_eq_true.mp (others g.lombok) label listed
  · rintro ⟨cls, within, nonempty⟩
    obtain ⟨field, declared⟩ := List.exists_mem_of_ne_nil _ nonempty
    obtain ⟨inner, present, models⟩ := exists_model_of_mem_walk modelled within
    obtain ⟨fieldModel, carried, -⟩ := exists_fieldModel_of_mem models declared
    refine hasInfix_definition_of_mem mark present ?_
    intro isNested
    refine ⟨keyLine fieldModel, mem_ownText_of_mem_fieldLines carried ?_ isNested, ?_⟩
    · simp [fieldLines, Generator.style, jackson, keyLine]
    · exact ⟨[], "(" ++ fieldModel.keyLiteral ++ ")", rfl⟩

/-- The mark of an annotation is found just when the annotation does not depend on fields or some
class has a field. -/
theorem scan_label_iff (modelled : g.model spec = .ok model)
    (words : ∀ inner ∈ spec.walk, HasWords inner) (lombok : g.lombok = true) {label : Text}
    (listed : label ∈ annotationsFor true true) :
    Text.hasInfix (CodePoint.ofChar '@' :: label) (g.definition model) = true ↔
      label ∈ annotationsFor true false ∨ HasFields spec := by
  have marks : ∀ other ∈ annotationsFor true true, IsMark (CodePoint.ofChar '@' :: other) := by
    simp only [annotationsFor, if_true, List.forall_mem_cons]
    exact ⟨⟨by decide, by decide, by decide⟩, ⟨by decide, by decide, by decide⟩,
      ⟨by decide, by decide, by decide⟩, ⟨by decide, by decide, by decide⟩, by simp⟩
  have mark := marks label listed
  have apart : ((annotationsFor true true).all fun one =>
      (annotationsFor true false).all fun other => decide (one ∈ annotationsFor true false) ||
        !Text.hasInfix (CodePoint.ofChar '@' :: one) (CodePoint.ofChar '@' :: other)) = true := by
    decide
  constructor
  · intro found
    by_cases always : label ∈ annotationsFor true false
    · exact .inl always
    · refine .inr (hasFields_of_scan modelled words mark List.mem_cons_self ?_ found)
      intro other plain
      rw [lombok] at plain
      have absent := List.all_eq_true.mp (List.all_eq_true.mp apart label listed) other plain
      simpa [always] using absent
  · rintro (always | ⟨cls, within, nonempty⟩)
    · refine scan_label modelled (ClassOver.mem_walk_self spec) mark ?_
      rw [lombok]
      cases spec.fields.isEmpty with
      | true => exact always
      | false => exact listed
    · refine scan_label modelled within mark ?_
      rw [lombok, List.isEmpty_eq_false_iff.mpr nonempty]
      exact listed

end

end ClassSynth.Java
