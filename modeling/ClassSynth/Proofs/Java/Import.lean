import ClassSynth.Proofs.Java.Hiding
import ClassSynth.Proofs.Java.LegalName

/-!
# The imports of a unit

A unit imports what its text mentions.  Lists, annotations and big integers are mentioned where
the class tree has them, but the marks that are searched for also stand in keys, and that of big
integers in the names of classes, of fields and of accessors.  The main statement says exactly which
imports a unit has, in which order, and so when one is there that the tree does not need.
-/

set_option autoImplicit false

namespace ClassSynth

namespace Java

/-- The mark of big integers. -/
def bigIntegerMark : Text := CodePoint.ofChar 'B' :: "igInteger"

theorem isMark_bigInteger : IsMark bigIntegerMark := ⟨by decide, by decide, by decide⟩

theorem isKeyMark_bigInteger : IsKeyMark (CodePoint.ofChar 'B') "igInteger" := by
  have written : (bigIntegerMark.all fun c => decide (literalPoint c = [c])) = true := by decide
  refine ⟨?_, by decide, by decide, by decide, ?_⟩
  · intro c member
    exact of_decide_eq_true (List.all_eq_true.mp written c member)
  · rw [← Text.hasInfix_iff]
    decide

/-! ## The mark of big integers in the lines of a class -/

/-- Whether a fixed part of a line keeps the mark on one side of it. -/
def isGap : Text → Bool
  | [] => false
  | c :: rest => !bigIntegerMark.contains c && !rest.contains (CodePoint.ofChar 'B')

section

variable {gap : Text} (apart : isGap gap = true)

include apart

theorem infix_gap_iff (part behind : Text) :
    bigIntegerMark <:+: part ++ (gap ++ behind) ↔
      bigIntegerMark <:+: part ∨ bigIntegerMark <:+: behind := by
  cases gap with
  | nil => cases apart
  | cons c rest =>
    simp only [isGap, Bool.and_eq_true, Bool.not_eq_true', List.contains_eq_mem,
      decide_eq_false_iff_not] at apart
    have begins : bigIntegerMark <:+: rest ++ behind ↔ bigIntegerMark <:+: behind :=
      Text.infix_append_iff_of_not_mem apart.2 "igInteger" behind
    rw [List.cons_append, Text.infix_append_cons_iff apart.1, begins]

theorem infix_gap_first_iff (behind : Text) :
    bigIntegerMark <:+: gap ++ behind ↔ bigIntegerMark <:+: behind := by
  have sides := infix_gap_iff apart [] behind
  rwa [List.nil_append, List.infix_nil, or_iff_right isMark_bigInteger.nonempty] at sides

theorem infix_gap_last_iff (part : Text) :
    bigIntegerMark <:+: part ++ gap ↔ bigIntegerMark <:+: part := by
  have sides := infix_gap_iff apart part []
  rwa [List.append_nil, List.infix_nil, or_iff_left isMark_bigInteger.nonempty] at sides

end

theorem not_infix_ending : ¬ bigIntegerMark <:+: ending := by
  rw [← Text.hasInfix_iff]
  decide

theorem infix_heading_iff (isNested : Bool) (name : Text) :
    bigIntegerMark <:+: heading isNested name ↔ bigIntegerMark <:+: name := by
  cases isNested <;>
    simp (disch := decide) only [heading, if_true, if_false, Bool.false_eq_true, List.append_assoc,
      infix_gap_first_iff, infix_gap_last_iff]

theorem occurs_constructorLines_iff (name : Text) :
    Occurs bigIntegerMark (constructorLines name) ↔ bigIntegerMark <:+: name := by
  have last := not_infix_ending
  rw [ending] at last
  simp (disch := decide) only [constructorLines, occurs_nil_cons_iff isMark_bigInteger.nonempty,
    occurs_cons_iff, occurs_nil_iff, List.append_assoc, infix_gap_first_iff, infix_gap_last_iff,
    last, or_false]

theorem occurs_accessorLines_iff (field : FieldModel) :
    Occurs bigIntegerMark (accessorLines field) ↔ bigIntegerMark <:+: field.type ∨
      bigIntegerMark <:+: field.name ∨ bigIntegerMark <:+: field.name.capitalizeFirst := by
  have last := not_infix_ending
  rw [ending] at last
  simp (disch := decide) only [accessorLines, occurs_nil_cons_iff isMark_bigInteger.nonempty,
    occurs_cons_iff, occurs_nil_iff, List.append_assoc, infix_gap_iff, infix_gap_first_iff,
    infix_gap_last_iff, last, false_or, or_false]
  tauto

theorem occurs_fieldLines_iff (style : Style) (field : FieldModel) :
    Occurs bigIntegerMark (fieldLines style field) ↔
      (style.jackson = true ∧ bigIntegerMark <:+: keyLine field) ∨
        bigIntegerMark <:+: field.type ∨ bigIntegerMark <:+: field.name := by
  have declaration : Occurs bigIntegerMark ["private " ++ field.type ++ " " ++ field.name ++ ";"] ↔
      bigIntegerMark <:+: field.type ∨ bigIntegerMark <:+: field.name := by
    simp (disch := decide) only [occurs_cons_iff, occurs_nil_iff, List.append_assoc, infix_gap_iff,
      infix_gap_first_iff, infix_gap_last_iff, or_false]
  rw [fieldLines, occurs_append_iff, declaration]
  cases style.jackson <;> simp [occurs_cons_iff, occurs_nil_iff, keyLine]

/-- Whether a field leads to the mark in the lines of its class. -/
def Shows (style : Style) (field : FieldModel) : Prop :=
  bigIntegerMark <:+: field.type ∨ bigIntegerMark <:+: field.name ∨
    (style.lombok = false ∧ bigIntegerMark <:+: field.name.capitalizeFirst) ∨
    (style.jackson = true ∧ bigIntegerMark <:+: keyLine field)

theorem shows_iff (style : Style) (field : FieldModel) :
    Shows style field ↔ Occurs bigIntegerMark (fieldLines style field) ∨
      (style.lombok = false ∧ Occurs bigIntegerMark (accessorLines field)) := by
  rw [Shows, occurs_fieldLines_iff, occurs_accessorLines_iff]
  tauto

theorem occurs_ownLines_iff (style : Style) (name : Text) (fields : List FieldModel) :
    Occurs bigIntegerMark (ownLines style name fields) ↔
      (style.lombok = false ∧ bigIntegerMark <:+: name) ∨
        ∃ field ∈ fields, Shows style field := by
  simp only [ownLines, shows_iff, occurs_append_iff, occurs_flatMap_iff]
  cases style.lombok with
  | true => simp [occurs_nil_iff]
  | false =>
    simp only [Bool.false_eq_true, if_false, occurs_append_iff, occurs_flatMap_iff,
      occurs_constructorLines_iff, true_and, and_or_left, exists_or]
    exact or_left_comm

/-- The annotations do not hold the mark, and the heading holds it where the name does. -/
theorem occurs_ownText_iff (style : Style) (isNested : Bool) {model : ClassModel}
    {lombok hasFields : Bool} (annotations : model.annotations = annotationsFor lombok hasFields) :
    Occurs bigIntegerMark (model.ownText style isNested) ↔
      bigIntegerMark <:+: model.name ∨ ∃ field ∈ model.fields, Shows style field := by
  have quiet : ∀ lombok fields, ((annotationsFor lombok fields).all fun label =>
      !Text.hasInfix bigIntegerMark (CodePoint.ofChar '@' :: label)) = true := by decide
  have none : ¬ Occurs bigIntegerMark (model.annotations.map (CodePoint.ofChar '@' :: ·)) := by
    rintro ⟨line, listed, occurs⟩
    obtain ⟨label, offered, rfl⟩ := List.mem_map.mp listed
    rw [annotations] at offered
    have absent := List.all_eq_true.mp (quiet lombok hasFields) label offered
    rw [(Text.hasInfix_iff _ _).mpr occurs] at absent
    cases absent
  simp only [ClassModel.ownText, occurs_append_iff, occurs_cons_iff, occurs_nil_iff,
    occurs_ownLines_iff, infix_heading_iff, not_infix_ending, none, false_or, or_false]
  tauto

/-! ## The mark of big integers in a tree -/

theorem infix_typeText_iff (type : FieldType) : ∀ boxed,
    bigIntegerMark <:+: typeText boxed type ↔ type.core = .primitive .bigInteger ∨
      ∃ name, type.reference? = some name ∧ bigIntegerMark <:+: name := by
  induction type with
  | primitive kind =>
    intro boxed
    have names : Text.hasInfix bigIntegerMark (typeText boxed (.primitive kind)) =
        decide (kind = .bigInteger) := by
      cases boxed <;> cases kind <;> decide
    rw [← Text.hasInfix_iff, names]
    simp [TypeOver.core, TypeOver.reference?]
  | list element ih =>
    intro boxed
    rw [typeText, List.append_assoc, infix_gap_first_iff (by decide),
      infix_gap_last_iff (by decide)]
    exact ih true
  | reference className =>
    intro boxed
    simp [typeText, TypeOver.core, TypeOver.reference?]

theorem infix_escaped_iff (name : Text) :
    bigIntegerMark <:+: escaped name ↔ bigIntegerMark <:+: name := by
  rw [escaped]
  split
  · exact Text.infix_cons_iff_of_not_mem isMark_bigInteger.nonempty (by decide) name
  · exact Iff.rfl

theorem infix_fieldName_iff (name : Text) (taken : List Text) :
    bigIntegerMark <:+: fieldName name taken ↔ bigIntegerMark <:+: name := by
  obtain ⟨rounds, -, run⟩ := exists_lengthensTo_fieldName name taken
  rw [run.result_eq, Text.infix_append_replicate_iff isMark_bigInteger.nonempty (by decide),
    infix_escaped_iff]

theorem infix_capitalized_escaped_iff (name : Text) :
    bigIntegerMark <:+: (escaped name).capitalizeFirst ↔
      bigIntegerMark <:+: name.capitalizeFirst := by
  rw [escaped]
  cases reserved : isReservedWord name with
  | false => rfl
  | true =>
    -- No reserved word comes to the mark, with or without a capital.
    have words : (reservedWords.all fun word => !Text.hasInfix bigIntegerMark word &&
        !Text.hasInfix bigIntegerMark word.capitalizeFirst) = true := by decide +kernel
    have none := List.all_eq_true.mp words name (List.contains_iff_mem.mp reserved)
    rw [Bool.and_eq_true, Bool.not_eq_true', Bool.not_eq_true'] at none
    have capital : CodePoint.toUpper underscore = [underscore] := by decide
    rw [if_pos rfl, Text.capitalizeFirst, capital, List.singleton_append,
      Text.infix_cons_iff_of_not_mem isMark_bigInteger.nonempty (by decide),
      ← Text.hasInfix_iff, ← Text.hasInfix_iff, none.1, none.2]

theorem infix_capitalized_fieldName_iff {name : Text} (nonempty : name ≠ []) (taken : List Text) :
    bigIntegerMark <:+: (fieldName name taken).capitalizeFirst ↔
      bigIntegerMark <:+: name.capitalizeFirst := by
  obtain ⟨rounds, -, run⟩ := exists_lengthensTo_fieldName name taken
  rw [run.result_eq, ← infix_capitalized_escaped_iff name]
  cases first : escaped name with
  | nil =>
    rw [escaped] at first
    split at first
    · cases first
    · exact absurd first nonempty
  | cons c rest =>
    have split : Text.capitalizeFirst (c :: rest ++ List.replicate rounds underscore) =
        Text.capitalizeFirst (c :: rest) ++ List.replicate rounds underscore :=
      (List.append_assoc _ _ _).symm
    rw [split, Text.infix_append_replicate_iff isMark_bigInteger.nonempty (by decide)]

/-- Whether a class of a tree has a field of some kind. -/
def SomeField (spec : ClassSpec) (kind : Field → Prop) : Prop :=
  ∃ cls ∈ spec.walk, ∃ field ∈ cls.fields, kind field

instance (spec : ClassSpec) (kind : Field → Prop) [DecidablePred kind] :
    Decidable (SomeField spec kind) :=
  inferInstanceAs (Decidable (∃ cls ∈ spec.walk, ∃ field ∈ cls.fields, kind field))

/-- Whether the unit of a class tree shows the mark of big integers other than by a type. -/
inductive ShowsBigInteger (g : Generator) (spec : ClassSpec) : Prop where
  | className (cls : ClassSpec) (within : cls ∈ spec.walk) (occurs : bigIntegerMark <:+: cls.name)
  | fieldName (some : SomeField spec fun field => bigIntegerMark <:+: field.name)
  | accessor (lombok : g.lombok = false)
      (some : SomeField spec fun field => bigIntegerMark <:+: field.name.capitalizeFirst)
  | key (jackson : g.jackson = true)
      (some : SomeField spec fun field => bigIntegerMark <:+: field.jsonName)

section

variable {g : Generator} {spec : ClassSpec} {model : ClassModel}

/-- What makes the model of a field show the mark. -/
def CallsForMark (style : Style) (field : Field) : Prop :=
  (field.type.core = .primitive .bigInteger ∨
    ∃ name, field.type.reference? = some name ∧ bigIntegerMark <:+: name) ∨
  bigIntegerMark <:+: field.name ∨
  (style.lombok = false ∧ bigIntegerMark <:+: field.name.capitalizeFirst) ∨
  (style.jackson = true ∧ bigIntegerMark <:+: field.jsonName)

theorem shows_iff_callsForMark {style : Style} {field : Field} {model : FieldModel}
    (models : ModelsField field model) (nonempty : field.name ≠ []) :
    Shows style model ↔ CallsForMark style field := by
  obtain ⟨taken, named⟩ := models.name
  have key : bigIntegerMark <:+: keyLine model ↔ bigIntegerMark <:+: field.jsonName :=
    isKeyMark_bigInteger.infix_keyLine_iff models.keyLiteral
  rw [Shows, CallsForMark, models.type, named, infix_typeText_iff, infix_fieldName_iff,
    infix_capitalized_fieldName_iff nonempty, key]

/-- The mark of big integers is found in a class where its name or a field leads to it. -/
theorem scan_bigInteger_iff_exists (modelled : g.model spec = .ok model) :
    Text.hasInfix bigIntegerMark (g.definition model) = true ↔
      ∃ inner ∈ model.walk,
        bigIntegerMark <:+: inner.name ∨ ∃ field ∈ inner.fields, Shows g.style field := by
  have eachClass : ∀ inner ∈ model.walk, ∀ isNested,
      Occurs bigIntegerMark (inner.ownText g.style isNested) ↔
        bigIntegerMark <:+: inner.name ∨ ∃ field ∈ inner.fields, Shows g.style field := by
    intro inner present isNested
    obtain ⟨cls, -, models⟩ := exists_class_of_mem_walk modelled present
    exact occurs_ownText_iff g.style isNested models.annotations
  constructor
  · intro found
    obtain ⟨inner, present, isNested, occurs⟩ :=
      exists_of_hasInfix_definition isMark_bigInteger found
    exact ⟨inner, present, (eachClass inner present isNested).mp occurs⟩
  · rintro ⟨inner, present, reason⟩
    refine hasInfix_definition_of_mem isMark_bigInteger present ?_
    exact fun isNested => (eachClass inner present isNested).mpr reason

/-- Types are named in the unit by their classes too, so they add only those of big integers. -/
theorem scan_bigInteger_iff (modelled : g.model spec = .ok model)
    (named : ∀ cls ∈ spec.walk, ∀ field ∈ cls.fields, field.name ≠ [])
    (closed : ∀ cls ∈ spec.walk, ∀ field ∈ cls.fields, ∀ name,
      field.type.reference? = some name → ∃ inner ∈ spec.walk, inner.name = name) :
    Text.hasInfix bigIntegerMark (g.definition model) = true ↔
      SomeField spec (fun field => field.type.core = .primitive .bigInteger) ∨
        ShowsBigInteger g spec := by
  rw [scan_bigInteger_iff_exists modelled]
  constructor
  · rintro ⟨inner, present, reason⟩
    obtain ⟨cls, within, models⟩ := exists_class_of_mem_walk modelled present
    rcases reason with inName | ⟨fieldModel, carried, shows⟩
    · exact .inr (.className cls within (models.name ▸ inName))
    · obtain ⟨field, declared, modelsField⟩ := exists_field_of_mem models carried
      rcases (shows_iff_callsForMark modelsField (named cls within field declared)).mp shows with
        (big | ⟨name, referred, inName⟩) | inName | ⟨lombok, inName⟩ | ⟨jackson, inKey⟩
      · exact .inl ⟨cls, within, field, declared, big⟩
      · obtain ⟨other, elsewhere, same⟩ := closed cls within field declared name referred
        exact .inr (.className other elsewhere (same ▸ inName))
      · exact .inr (.fieldName ⟨cls, within, field, declared, inName⟩)
      · exact .inr (.accessor lombok ⟨cls, within, field, declared, inName⟩)
      · exact .inr (.key jackson ⟨cls, within, field, declared, inKey⟩)
  · have ofField : ∀ cls ∈ spec.walk, ∀ field ∈ cls.fields, CallsForMark g.style field →
        ∃ inner ∈ model.walk,
          bigIntegerMark <:+: inner.name ∨ ∃ field ∈ inner.fields, Shows g.style field := by
      intro cls within field declared calls
      obtain ⟨inner, present, models⟩ := exists_model_of_mem_walk modelled within
      obtain ⟨fieldModel, carried, modelsField⟩ := exists_fieldModel_of_mem models declared
      have shows := (shows_iff_callsForMark modelsField (named cls within field declared)).mpr calls
      exact ⟨inner, present, .inr ⟨fieldModel, carried, shows⟩⟩
    rintro (⟨cls, within, field, declared, big⟩ | ⟨cls, within, inName⟩ |
      ⟨cls, within, field, declared, inName⟩ | ⟨lombok, cls, within, field, declared, inName⟩ |
      ⟨jackson, cls, within, field, declared, inKey⟩)
    · exact ofField cls within field declared (.inl (.inl big))
    · obtain ⟨inner, present, models⟩ := exists_model_of_mem_walk modelled within
      exact ⟨inner, present, .inl (models.name ▸ inName)⟩
    · exact ofField cls within field declared (.inr (.inl inName))
    · exact ofField cls within field declared (.inr (.inr (.inl ⟨lombok, inName⟩)))
    · exact ofField cls within field declared (.inr (.inr (.inr ⟨jackson, inKey⟩)))

end

/-! ## Imports -/

/-- All names that a unit can import, in alphabetical order. -/
def knownImports : List Text := usualGenerator.importMarks.map Prod.snd

theorem sorted_knownImports :
    (knownImports.Pairwise fun first second => Text.precedes first second = true) ∧
      knownImports.Nodup := by
  decide +kernel

theorem importMarks_sublist (g : Generator) :
    g.importMarks.Sublist usualGenerator.importMarks := by
  have each : ∀ lombok jackson,
      (Generator.importMarks ⟨.unnamed, lombok, jackson⟩).Sublist usualGenerator.importMarks := by
    decide +kernel
  exact each g.lombok g.jackson

theorem importsFor_sublist (g : Generator) (definition : Text) :
    (g.importsFor definition).Sublist knownImports :=
  (List.filter_sublist.trans (importMarks_sublist g)).map Prod.snd

theorem mem_importsFor_iff (g : Generator) (definition : Text) {mark : Text × Text}
    (listed : mark ∈ usualGenerator.importMarks) :
    mark.2 ∈ g.importsFor definition ↔
      mark ∈ g.importMarks ∧ Text.hasInfix mark.1 definition = true := by
  simp only [Generator.importsFor, List.mem_map, List.mem_filter]
  constructor
  · rintro ⟨other, ⟨searched, found⟩, same⟩
    have known := (importMarks_sublist g).subset searched
    have other_eq := List.inj_on_of_nodup_map sorted_knownImports.2 known listed same
    exact other_eq ▸ ⟨searched, found⟩
  · exact fun found => ⟨mark, found, rfl⟩

/-- What decides which imports the unit of a class tree has. -/
structure Generator.ImportsOf (g : Generator) (spec : ClassSpec) (imports : List Text) : Prop where
  sorted : imports.Pairwise fun first second => Text.precedes first second = true
  distinct : imports.Nodup
  known : ∀ name ∈ imports, name ∈ knownImports
  list : Text.ofString "java.util.List" ∈ imports ↔
    SomeField spec (fun field => ∃ element, field.type = .list element) ∨
      (g.jackson = true ∧ SomeField spec fun field => ("List<" : Text) <:+: field.jsonName)
  bigInteger : Text.ofString "java.math.BigInteger" ∈ imports ↔
    SomeField spec (fun field => field.type.core = .primitive .bigInteger) ∨ ShowsBigInteger g spec
  jsonProperty : Text.ofString "com.fasterxml.jackson.annotation.JsonProperty" ∈ imports ↔
    g.jackson = true ∧ HasFields spec
  everyClass : ∀ label ∈ [Text.ofString "Data", Text.ofString "NoArgsConstructor"],
    "lombok." ++ label ∈ imports ↔ g.lombok = true
  classWithFields : ∀ label ∈ [Text.ofString "Builder", Text.ofString "AllArgsConstructor"],
    "lombok." ++ label ∈ imports ↔ g.lombok = true ∧ HasFields spec

section

variable {g : Generator} {spec : ClassSpec} {model : ClassModel}

theorem mentionsList_iff (jackson : Bool) (spec : ClassSpec) :
    MentionsList jackson spec ↔
      SomeField spec (fun field => ∃ element, field.type = .list element) ∨
        (jackson = true ∧ SomeField spec fun field => ("List<" : Text) <:+: field.jsonName) := by
  simp only [MentionsList, SomeField, Text.hasInfix_iff]
  constructor
  · rintro ⟨cls, within, field, declared, list | ⟨keys, inKey⟩⟩
    · exact .inl ⟨cls, within, field, declared, list⟩
    · exact .inr ⟨keys, cls, within, field, declared, inKey⟩
  · rintro (⟨cls, within, field, declared, list⟩ | ⟨keys, cls, within, field, declared, inKey⟩)
    · exact ⟨cls, within, field, declared, .inl list⟩
    · exact ⟨cls, within, field, declared, .inr ⟨keys, inKey⟩⟩

theorem mem_importsFor_label_iff (modelled : g.model spec = .ok model)
    (words : ∀ inner ∈ spec.walk, HasWords inner) {label : Text}
    (offered : label ∈ annotationsFor true true) :
    "lombok." ++ label ∈ g.importsFor (g.definition model) ↔
      g.lombok = true ∧ (label ∈ annotationsFor true false ∨ HasFields spec) := by
  have possible : ∀ label ∈ annotationsFor true true,
      labelMark label ∈ usualGenerator.importMarks := by decide +kernel
  have searched : ∀ label ∈ annotationsFor true true, ∀ lombok jackson,
      labelMark label ∈ Generator.importMarks ⟨.unnamed, lombok, jackson⟩ ↔ lombok = true := by
    decide +kernel
  refine (mem_importsFor_iff g (g.definition model) (possible label offered)).trans ?_
  refine (and_congr_left fun _ => searched label offered g.lombok g.jackson).trans ?_
  exact and_congr_right fun lombok => scan_label_iff modelled words lombok offered

theorem importsOf_importsFor (modelled : g.model spec = .ok model)
    (words : ∀ inner ∈ spec.walk, HasWords inner)
    (named : ∀ cls ∈ spec.walk, ∀ field ∈ cls.fields, field.name ≠ [])
    (closed : ∀ cls ∈ spec.walk, ∀ field ∈ cls.fields, ∀ name,
      field.type.reference? = some name → ∃ inner ∈ spec.walk, inner.name = name) :
    g.ImportsOf spec (g.importsFor (g.definition model)) where
  sorted := sorted_knownImports.1.sublist (importsFor_sublist g _)
  distinct := sorted_knownImports.2.sublist (importsFor_sublist g _)
  known := (importsFor_sublist g _).subset
  list := by
    have always : (Text.ofString "List<", Text.ofString "java.util.List") ∈ g.importMarks :=
      (g.mem_importMarks_iff _).mpr (.inr (.inr (.inl rfl)))
    rw [← mentionsList_iff, ← scan_list_iff modelled words]
    exact (mem_importsFor_iff g _ (by decide)).trans (and_iff_right always)
  bigInteger := by
    have always : (bigIntegerMark, Text.ofString "java.math.BigInteger") ∈ g.importMarks :=
      (g.mem_importMarks_iff _).mpr (.inr (.inl rfl))
    rw [← scan_bigInteger_iff modelled named closed]
    exact (mem_importsFor_iff g _ (by decide)).trans (and_iff_right always)
  jsonProperty := by
    have possible : (Text.ofString "@JsonProperty",
        Text.ofString "com.fasterxml.jackson.annotation.JsonProperty") ∈
          usualGenerator.importMarks := by decide
    have searched : ∀ lombok jackson,
        (Text.ofString "@JsonProperty",
          Text.ofString "com.fasterxml.jackson.annotation.JsonProperty") ∈
            Generator.importMarks ⟨.unnamed, lombok, jackson⟩ ↔ jackson = true := by decide
    refine (mem_importsFor_iff g _ possible).trans ?_
    refine (and_congr_left fun _ => searched g.lombok g.jackson).trans ?_
    exact and_congr_right fun jackson => scan_jsonProperty_iff modelled words jackson
  everyClass := by
    have always : ∀ label ∈ [Text.ofString "Data", Text.ofString "NoArgsConstructor"],
        label ∈ annotationsFor true true ∧ label ∈ annotationsFor true false := by decide
    intro label listed
    obtain ⟨offered, plain⟩ := always label listed
    rw [mem_importsFor_label_iff modelled words offered]
    exact and_iff_left (.inl plain)
  classWithFields := by
    have sometimes : ∀ label ∈ [Text.ofString "Builder", Text.ofString "AllArgsConstructor"],
        label ∈ annotationsFor true true ∧ label ∉ annotationsFor true false := by decide
    intro label listed
    obtain ⟨offered, special⟩ := sometimes label listed
    rw [mem_importsFor_label_iff modelled words offered, or_iff_right special]

end

end Java

/-! ## Units of synthesized trees -/

section

variable {policy : EmptyArrays} {naming : NestedNaming}

theorem Mirrors.name_ne_nil {members : List (Text × Json)} {spec : ClassSpec}
    (mirrored : Mirrors policy naming members spec) : ∀ field ∈ spec.fields, field.name ≠ [] := by
  cases mirrored with
  | intro fields names nested =>
    intro field declared empty
    obtain ⟨member, -, mirrors⟩ := exists_related_of_mem fields declared
    have identifier := Text.isIdentifier_sanitize member.1
    rw [← mirrors.name, empty] at identifier
    cases identifier

/-- What a field of a tree refers to is a class of the tree. -/
theorem Mirrors.exists_of_reference {members : List (Text × Json)} {spec : ClassSpec}
    (mirrored : Mirrors policy naming members spec) {cls : ClassSpec} (within : cls ∈ spec.walk)
    {field : Field} (declared : field ∈ cls.fields) {name : Text}
    (referred : field.type.reference? = some name) : ∃ inner ∈ spec.walk, inner.name = name := by
  obtain ⟨object, mirrors⟩ := mirrored.exists_of_mem_walk within
  have listed : name ∈ cls.references := List.mem_filterMap.mpr ⟨field, declared, referred⟩
  rw [mirrors.references_eq] at listed
  obtain ⟨inner, nested, same⟩ := List.mem_map.mp listed
  have below := ClassOver.mem_walk_of_mem_nested nested
  exact ⟨inner, ClassOver.walk_trans spec cls inner within below, same⟩

end

open Java

/-- The unit of a synthesized class tree has its imports above the definition.  An import is there
for a need of the tree, but `java.util.List` and `java.math.BigInteger` are also there for a key
that holds their mark, and the latter for the name of a class, a field or an accessor that does. -/
theorem synthesized_source_imports (g : Generator) (o : Options) (document : Json)
    (className : Option Text) (names later : NameTable) (spec : ClassSpec) (text : Text)
    (success : synthesize o document className names = (.ok spec, later))
    (sourced : g.source spec = .ok text) :
    ∃ model, g.model spec = .ok model ∧
      text = g.header (g.importsFor (g.definition model)) ++ g.definition model ∧
      g.ImportsOf spec (g.importsFor (g.definition model)) := by
  obtain ⟨name, members, -, identifier, -, tree, rfl, -⟩ :=
    (synthesize_eq_ok_iff o document className names later spec).mp success
  have mirrored := mirrors_ofObject name members tree
  obtain ⟨model, modelled, written⟩ := exists_model_of_source sourced
  refine ⟨model, modelled, written, importsOf_importsFor modelled ?_ ?_ ?_⟩
  · exact mirrored.hasWords_of_mem_walk (Text.isWord_of_isIdentifier identifier)
  · intro cls within
    obtain ⟨object, mirrors⟩ := mirrored.exists_of_mem_walk within
    exact mirrors.name_ne_nil
  · intro cls within field declared name referred
    exact mirrored.exists_of_reference within declared referred

theorem bigSpec_imports :
    ∃ later text model,
      synthesize .default (.object bigMembers) (some "Big") [] = (.ok bigSpec, later) ∧
      usualGenerator.source bigSpec = .ok text ∧ usualGenerator.model bigSpec = .ok model ∧
      usualGenerator.importsFor (usualGenerator.definition model) =
        [Text.ofString "com.fasterxml.jackson.annotation.JsonProperty",
          Text.ofString "java.math.BigInteger", Text.ofString "lombok.AllArgsConstructor",
          Text.ofString "lombok.Builder", Text.ofString "lombok.Data",
          Text.ofString "lombok.NoArgsConstructor"] ∧
      usualGenerator.ImportsOf bigSpec
        (usualGenerator.importsFor (usualGenerator.definition model)) := by
  have success : synthesize .default (.object bigMembers) (some "Big") [] =
      (.ok bigSpec, (synthesize .default (.object bigMembers) (some "Big") []).2) := rfl
  have sourced : usualGenerator.source bigSpec = .ok (usualGenerator.sourceOfModel _) := rfl
  obtain ⟨model, modelled, -, imports⟩ :=
    synthesized_source_imports usualGenerator _ _ _ _ _ _ _ success sourced
  have known := modelled
  cases known
  exact ⟨_, _, _, success, sourced, modelled, by decide +kernel, imports⟩

/-- A class with one small integer, whose name alone makes its unit import big integers. -/
theorem className_imports_bigInteger :
    ∃ spec model,
      synthesizeFresh .default (.object [("id", .integer 1)])
        (some (ClassName.ofFile "bigInteger.json")) = .ok spec ∧
      usualGenerator.model spec = .ok model ∧
      Text.ofString "java.math.BigInteger" ∈
        usualGenerator.importsFor (usualGenerator.definition model) ∧
      ¬ SomeField spec fun field => field.type.core = .primitive .bigInteger := by
  exact ⟨.ofObject .byField "BigInteger" [("id", .integer 1)], _, rfl, rfl, by decide +kernel,
    by decide⟩

end ClassSynth
