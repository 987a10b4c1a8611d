import ClassSynth.Java.Source
import ClassSynth.Proofs.Identifier
import ClassSynth.Proofs.Java.FieldName
import ClassSynth.Proofs.Java.Model
import ClassSynth.Proofs.Text.Infix

/-!
# Occurrences in a definition

What occurs in the text of a definition occurs in a line of one of its classes, whatever stands
around the class.  Two code points have a place of their own there: the at sign stands before
annotations, and the angle bracket in types, and otherwise both only in the keys of fields.
-/

set_option autoImplicit false

namespace ClassSynth.Java

/-! ## The lines of a definition -/

/-- Whether a pattern occurs in one of several lines. -/
def Occurs (pattern : Text) (lines : List Text) : Prop := ∃ line ∈ lines, pattern <:+: line

/-- Whether a text can be a mark: not empty, and on one line without blanks. -/
structure IsMark (pattern : Text) : Prop where
  nonempty : pattern ≠ []
  noBlank : CodePoint.ofChar ' ' ∉ pattern
  noLineFeed : CodePoint.ofChar '\n' ∉ pattern

section

variable {pattern : Text}

theorem occurs_append_iff (first second : List Text) :
    Occurs pattern (first ++ second) ↔ Occurs pattern first ∨ Occurs pattern second := by
  simp [Occurs, or_and_right, exists_or]

theorem occurs_nil_iff : Occurs pattern [] ↔ False := by
  simp [Occurs]

theorem occurs_cons_iff (line : Text) (rest : List Text) :
    Occurs pattern (line :: rest) ↔ pattern <:+: line ∨ Occurs pattern rest := by
  simp [Occurs]

theorem occurs_nil_cons_iff (nonempty : pattern ≠ []) (rest : List Text) :
    Occurs pattern ([] :: rest) ↔ Occurs pattern rest := by
  rw [occurs_cons_iff, List.infix_nil, or_iff_right nonempty]

theorem occurs_flatMap_iff {Item : Type} (items : List Item) (lines : Item → List Text) :
    Occurs pattern (items.flatMap lines) ↔ ∃ item ∈ items, Occurs pattern (lines item) := by
  simp only [Occurs, List.mem_flatMap]
  constructor
  · rintro ⟨line, ⟨item, carried, listed⟩, occurs⟩
    exact ⟨item, carried, line, listed, occurs⟩
  · rintro ⟨item, carried, line, listed, occurs⟩
    exact ⟨line, ⟨item, carried, listed⟩, occurs⟩

theorem infix_textOfLines_iff (mark : IsMark pattern) (lines : List Text) :
    pattern <:+: textOfLines lines ↔ Occurs pattern lines := by
  induction lines with
  | nil => simp [textOfLines, Occurs, mark.nonempty]
  | cons line rest ih =>
    have shape :
        textOfLines (line :: rest) = line ++ CodePoint.ofChar '\n' :: textOfLines rest := by
      simp [textOfLines]
    rw [shape, Text.infix_append_cons_iff mark.noLineFeed, ih]
    simp [Occurs]

theorem infix_indentLine_iff (mark : IsMark pattern) (line : Text) :
    pattern <:+: indentLine line ↔ pattern <:+: line := by
  cases line with
  | nil => rfl
  | cons c rest =>
    have shape : indentLine (c :: rest) = CodePoint.ofChar ' ' :: CodePoint.ofChar ' ' ::
        CodePoint.ofChar ' ' :: CodePoint.ofChar ' ' :: c :: rest := rfl
    have skip := Text.infix_cons_iff_of_not_mem mark.nonempty mark.noBlank
    rw [shape, skip, skip, skip, skip]

theorem occurs_map_indentLine_iff (mark : IsMark pattern) (lines : List Text) :
    Occurs pattern (lines.map indentLine) ↔ Occurs pattern lines := by
  simp [Occurs, infix_indentLine_iff mark]

end

/-- The lines of a class without the classes nested in it, none of them indented. -/
def ClassModel.ownText (style : Style) (isNested : Bool) (model : ClassModel) : List Text :=
  model.annotations.map (CodePoint.ofChar '@' :: ·) ++ [heading isNested model.name] ++
    ownLines style model.name model.fields ++ [ending]

section

variable {pattern : Text} (style : Style)

mutual

theorem occurs_lines_iff (mark : IsMark pattern) : (model : ClassModel) → (isNested : Bool) →
    (Occurs pattern (model.lines style isNested) ↔
      Occurs pattern (model.ownText style isNested) ∨
        ∃ inner ∈ ClassModel.walkAll model.nested, Occurs pattern (inner.ownText style true))
  | ⟨name, annotations, fields, nested⟩, isNested => by
    have below := occurs_nestedLines_iff mark nested
    simp only [ClassModel.lines, ClassModel.ownText, occurs_append_iff,
      occurs_map_indentLine_iff mark, below]
    constructor
    · rintro ((found | found | found) | found)
      · exact .inl (.inl (.inl found))
      · exact .inl (.inl (.inr found))
      · exact .inr found
      · exact .inl (.inr found)
    · rintro (((found | found) | found) | found)
      · exact .inl (.inl found)
      · exact .inl (.inr (.inl found))
      · exact .inr found
      · exact .inl (.inr (.inr found))

theorem occurs_nestedLines_iff (mark : IsMark pattern) : (models : List ClassModel) →
    (Occurs pattern (nestedLines style models) ↔
      ∃ inner ∈ ClassModel.walkAll models, Occurs pattern (inner.ownText style true))
  | [] => by simp [nestedLines, ClassModel.walkAll, Occurs]
  | ⟨name, annotations, fields, nested⟩ :: rest => by
    have first := occurs_lines_iff mark ⟨name, annotations, fields, nested⟩ true
    have later := occurs_nestedLines_iff mark rest
    rw [nestedLines, occurs_nil_cons_iff mark.nonempty, occurs_append_iff, first, later]
    simp [ClassModel.walkAll, ClassModel.walk, or_assoc, or_and_right, exists_or]

end

end

/-- A search of a definition finds what occurs in a class of it. -/
theorem hasInfix_definition_iff (g : Generator) (model : ClassModel) {pattern : Text}
    (mark : IsMark pattern) :
    Text.hasInfix pattern (g.definition model) = true ↔
      Occurs pattern (model.ownText g.style false) ∨
        ∃ inner ∈ ClassModel.walkAll model.nested, Occurs pattern (inner.ownText g.style true) := by
  rw [Text.hasInfix_iff, Generator.definition, infix_textOfLines_iff mark, occurs_lines_iff _ mark]

theorem ClassModel.walk_eq (model : ClassModel) : model.walk = model :: walkAll model.nested := by
  cases model
  rfl

theorem exists_of_hasInfix_definition {g : Generator} {model : ClassModel} {pattern : Text}
    (mark : IsMark pattern) (found : Text.hasInfix pattern (g.definition model) = true) :
    ∃ inner ∈ model.walk, ∃ isNested, Occurs pattern (inner.ownText g.style isNested) := by
  rw [model.walk_eq]
  rcases (hasInfix_definition_iff g model mark).mp found with here | ⟨inner, present, below⟩
  · exact ⟨model, List.mem_cons_self, false, here⟩
  · exact ⟨inner, List.mem_cons_of_mem _ present, true, below⟩

theorem hasInfix_definition_of_mem {g : Generator} {model inner : ClassModel} {pattern : Text}
    (mark : IsMark pattern) (present : inner ∈ model.walk)
    (occurs : ∀ isNested, Occurs pattern (inner.ownText g.style isNested)) :
    Text.hasInfix pattern (g.definition model) = true := by
  rw [hasInfix_definition_iff g model mark]
  rw [model.walk_eq] at present
  rcases List.mem_cons.mp present with rfl | below
  · exact .inl (occurs false)
  · exact .inr ⟨inner, below, occurs true⟩

/-! ## Names and types -/

theorem isWord_escaped {name : Text} (word : name.IsWord) : (escaped name).IsWord := by
  rw [escaped]
  split
  · exact List.forall_mem_cons.mpr ⟨CodePoint.isIdentifierPart_underscore, word⟩
  · exact word

theorem isWord_fieldName {name : Text} (word : name.IsWord) (taken : List Text) :
    (fieldName name taken).IsWord := by
  obtain ⟨rounds, -, run⟩ := exists_lengthensTo_fieldName name taken
  rw [run.result_eq]
  refine (Text.isWord_append_iff _ _).mpr ⟨isWord_escaped word, ?_⟩
  exact fun c member => List.eq_of_mem_replicate member ▸ CodePoint.isIdentifierPart_underscore

theorem isWord_of_mem_fieldModels {fields : List Field}
    (words : ∀ field ∈ fields, field.name.IsWord) :
    ∀ taken, ∀ field ∈ fieldModels taken fields, field.name.IsWord := by
  induction fields with
  | nil => simp [fieldModels]
  | cons field rest ih =>
    obtain ⟨word, words⟩ := List.forall_mem_cons.mp words
    intro taken
    rw [fieldModels]
    exact List.forall_mem_cons.mpr ⟨isWord_fieldName word taken, ih words _⟩

/-- A code point of marks that stands in no name and in no fixed part of a line but annotations. -/
def IsSpecial (c : CodePoint) : Prop := c = CodePoint.ofChar '<' ∨ c = CodePoint.ofChar '@'

theorem IsSpecial.not_mem_word {c : CodePoint} (special : IsSpecial c) {t : Text}
    (word : t.IsWord) : c ∉ t := by
  intro present
  have part := word c present
  rcases special with rfl | rfl
  · exact absurd part (by decide)
  · exact absurd part (by decide)

/-- The line of a field that carries its key. -/
def keyLine (field : FieldModel) : Text := "@JsonProperty(" ++ field.keyLiteral ++ ")"

section

variable {c : CodePoint} (special : IsSpecial c)

include special

theorem not_mem_heading {name : Text} (word : name.IsWord) (isNested : Bool) :
    c ∉ heading isNested name := by
  have noName := special.not_mem_word word
  rcases special with rfl | rfl <;> cases isNested <;> simp +decide [heading, noName]

theorem not_mem_of_mem_constructorLines {name line : Text} (word : name.IsWord)
    (listed : line ∈ constructorLines name) : c ∉ line := by
  have noName := special.not_mem_word word
  simp only [constructorLines, List.mem_cons, List.not_mem_nil, or_false] at listed
  rcases special with rfl | rfl <;> rcases listed with rfl | rfl | rfl <;> simp +decide [noName]

theorem mem_type_of_mem_accessorLines {field : FieldModel} {line : Text}
    (word : field.name.IsWord) (listed : line ∈ accessorLines field) (present : c ∈ line) :
    c ∈ field.type := by
  have noName := special.not_mem_word word
  have noSuffix := special.not_mem_word (Text.isWord_capitalizeFirst word)
  simp only [accessorLines, List.mem_cons, List.not_mem_nil, or_false] at listed
  by_contra noType
  rcases special with rfl | rfl <;>
    rcases listed with rfl | rfl | rfl | rfl | rfl | rfl | rfl | rfl <;>
    simp +decide [noName, noSuffix, noType] at present

theorem mem_type_of_mem_fieldLines {style : Style} {field : FieldModel} {line : Text}
    (word : field.name.IsWord) (listed : line ∈ fieldLines style field) (present : c ∈ line) :
    c ∈ field.type ∨ (style.jackson = true ∧ line = keyLine field) := by
  have noName := special.not_mem_word word
  rw [fieldLines, List.mem_append, List.mem_singleton] at listed
  rcases listed with listed | rfl
  · split at listed
    · rename_i jackson
      exact .inr ⟨jackson, List.mem_singleton.mp listed⟩
    · cases listed
  · left
    by_contra noType
    rcases special with rfl | rfl <;> simp +decide [noName, noType] at present

/-- A line that holds a special code point is an annotation of the class or belongs to a field, and
then the code point stands in the type of the field, or the line carries its key. -/
theorem ownText_of_special {style : Style} {isNested : Bool} {model : ClassModel}
    (name : model.name.IsWord) (fieldNames : ∀ field ∈ model.fields, field.name.IsWord)
    {line : Text} (listed : line ∈ model.ownText style isNested) (present : c ∈ line) :
    (∃ label ∈ model.annotations, line = CodePoint.ofChar '@' :: label) ∨
      ∃ field ∈ model.fields,
        c ∈ field.type ∨ (style.jackson = true ∧ line = keyLine field) := by
  simp only [ClassModel.ownText, ownLines, List.mem_append, List.mem_map, List.mem_singleton,
    List.mem_flatMap] at listed
  rcases listed with ((⟨label, listed, rfl⟩ | rfl) | ⟨field, carried, listed⟩ | listed) | rfl
  · exact .inl ⟨label, listed, rfl⟩
  · exact absurd present (not_mem_heading special name isNested)
  · exact .inr ⟨field, carried,
      mem_type_of_mem_fieldLines special (fieldNames field carried) listed present⟩
  · split at listed
    · cases listed
    · rw [List.mem_append, List.mem_flatMap] at listed
      rcases listed with listed | ⟨field, carried, listed⟩
      · exact absurd present (not_mem_of_mem_constructorLines special name listed)
      · exact .inr ⟨field, carried,
          .inl (mem_type_of_mem_accessorLines special (fieldNames field carried) listed present)⟩
  · rcases special with rfl | rfl <;> exact absurd present (by decide)

end

end ClassSynth.Java
