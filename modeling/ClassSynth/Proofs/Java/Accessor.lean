import Mathlib.Data.List.Infix
import Mathlib.Data.List.Nodup
import Mathlib.Logic.Function.Iterate
import ClassSynth.Proofs.Inference.Naming
import ClassSynth.Proofs.Java.FieldName
import ClassSynth.Proofs.Java.ImportScan
import ClassSynth.Proofs.Text.Cut

/-!
# Accessors

A class without Lombok declares a getter and a setter for each of its fields, named after the field
with its first letter in upper case.  The names of fields are told apart before that letter changes,
and not with the methods that every class inherits in view.  The main statement says of which
classes the accessors have names of their own, and which declare a method `getClass` over that of
`java.lang.Object`.
-/

set_option autoImplicit false

namespace ClassSynth.Java

/-- A method as its heading declares it: its name, and whether it has no parameters. -/
structure Method where
  name : Text
  takesNothing : Bool
deriving DecidableEq

def memberOpening : Text := "    public "

/-- The method whose heading a line of a class is, if it is one.  Other public members are told by
what stands before the parenthesis: a constructor has no type there, and a nested class has no
parenthesis at all. -/
def Method.ofLine? (line : Text) : Option Method :=
  if Text.startsWith line memberOpening then
    let declared := line.drop memberOpening.length
    let signature := declared.takeWhile fun c => decide (c ≠ CodePoint.ofChar '(')
    match Text.cutAt (CodePoint.ofChar ' ') signature, declared.drop signature.length with
    | [_, name], _ :: parameters =>
      some ⟨name, decide (parameters.head? = some (CodePoint.ofChar ')'))⟩
    | _, _ => none
  else none

/-- The methods that a class declares, read off its lines; those of nested classes stand deeper. -/
def methodsIn (lines : List Text) : List Method := lines.filterMap Method.ofLine?

/-- The getter and the setter of a field. -/
def accessors (field : FieldModel) : List Method :=
  [⟨"get" ++ field.name.capitalizeFirst, true⟩, ⟨"set" ++ field.name.capitalizeFirst, false⟩]

/-! ## Reading headings -/

theorem Method.ofLine?_of_not_startsWith {line : Text}
    (other : Text.startsWith line memberOpening = false) : ofLine? line = none := by
  rw [ofLine?, other, if_neg Bool.false_ne_true]

/-- What is public and has a parenthesis is read by the pieces before it. -/
theorem Method.ofLine?_public {signature : Text} (plain : CodePoint.ofChar '(' ∉ signature)
    (behind : Text) :
    ofLine? (memberOpening ++ (signature ++ CodePoint.ofChar '(' :: behind)) =
      match Text.cutAt (CodePoint.ofChar ' ') signature with
      | [_, name] => some ⟨name, decide (behind.head? = some (CodePoint.ofChar ')'))⟩
      | _ => none := by
  have opens : Text.startsWith (memberOpening ++ (signature ++ CodePoint.ofChar '(' :: behind))
      memberOpening = true :=
    List.isPrefixOf_iff_prefix.mpr (List.prefix_append _ _)
  rw [ofLine?, opens, if_pos rfl, List.drop_left]
  simp only [Text.takeWhile_append_cons _ plain, List.drop_left]
  rcases Text.cutAt (CodePoint.ofChar ' ') signature with _ | ⟨_, _ | ⟨_, _ | _⟩⟩ <;> rfl

/-- Whether a text can be a word of a heading. -/
structure IsPiece (t : Text) : Prop where
  noBlank : CodePoint.ofChar ' ' ∉ t
  noOpening : CodePoint.ofChar '(' ∉ t
  noClosing : CodePoint.ofChar ')' ∉ t

theorem Method.ofLine?_heading {type name : Text} (ofType : IsPiece type) (ofName : IsPiece name)
    (behind : Text) :
    ofLine? (memberOpening ++
        ((type ++ CodePoint.ofChar ' ' :: name) ++ CodePoint.ofChar '(' :: behind)) =
      some ⟨name, decide (behind.head? = some (CodePoint.ofChar ')'))⟩ := by
  have plain : CodePoint.ofChar '(' ∉ type ++ CodePoint.ofChar ' ' :: name := by
    have blank : CodePoint.ofChar '(' ≠ CodePoint.ofChar ' ' := by decide
    simp [ofType.noOpening, ofName.noOpening, blank]
  rw [ofLine?_public plain, Text.cutAt_append_cons, Text.cutAt_of_not_mem _ ofType.noBlank,
    Text.cutAt_of_not_mem _ ofName.noBlank]
  rfl

theorem isPiece_append {first second : Text} (ofFirst : IsPiece first) (ofSecond : IsPiece second) :
    IsPiece (first ++ second) := by
  constructor
  · rw [List.mem_append, not_or]
    exact ⟨ofFirst.noBlank, ofSecond.noBlank⟩
  · rw [List.mem_append, not_or]
    exact ⟨ofFirst.noOpening, ofSecond.noOpening⟩
  · rw [List.mem_append, not_or]
    exact ⟨ofFirst.noClosing, ofSecond.noClosing⟩

theorem isPiece_of_isWord {t : Text} (word : t.IsWord) : IsPiece t :=
  ⟨fun present => absurd (word _ present) (by decide),
    fun present => absurd (word _ present) (by decide),
    fun present => absurd (word _ present) (by decide)⟩

theorem isPiece_typeText {type : FieldType}
    (words : ∀ name, type.reference? = some name → name.IsWord) :
    ∀ boxed, IsPiece (typeText boxed type) := by
  induction type with
  | primitive kind =>
    intro boxed
    cases kind <;> cases boxed <;> exact ⟨by decide, by decide, by decide⟩
  | list element ih =>
    intro boxed
    have brackets : IsPiece (Text.ofString "List<") ∧ IsPiece (Text.ofString ">") :=
      ⟨⟨by decide, by decide, by decide⟩, ⟨by decide, by decide, by decide⟩⟩
    apply isPiece_append _ brackets.2
    apply isPiece_append brackets.1
    exact ih words true
  | reference className => exact fun _ => isPiece_of_isWord (words className rfl)

/-! ## The methods of a class -/

/-- Whether the headings of the accessors of a field can be read. -/
structure IsReadable (field : FieldModel) : Prop where
  name : field.name.IsWord
  type : IsPiece field.type

theorem methodsIn_append (first second : List Text) :
    methodsIn (first ++ second) = methodsIn first ++ methodsIn second :=
  List.filterMap_append

theorem methodsIn_eq_nil {lines : List Text}
    (others : ∀ line ∈ lines, Text.startsWith line memberOpening = false) :
    methodsIn lines = [] := by
  apply List.filterMap_eq_nil_iff.mpr
  intro line listed
  exact Method.ofLine?_of_not_startsWith (others line listed)

theorem methodsIn_fieldLines (style : Style) (field : FieldModel) :
    methodsIn ((fieldLines style field).map indentLine) = [] := by
  apply methodsIn_eq_nil
  intro line listed
  obtain ⟨bare, carried, rfl⟩ := List.mem_map.mp listed
  rw [fieldLines, List.mem_append, List.mem_singleton] at carried
  rcases carried with key | rfl
  · split at key
    · rw [List.mem_singleton] at key
      subst key
      rfl
    · cases key
  · rfl

theorem methodsIn_constructorLines {name : Text} (word : name.IsWord) :
    methodsIn ((constructorLines name).map indentLine) = [] := by
  have piece := isPiece_of_isWord word
  have shape : indentLine ("public " ++ name ++ "() \x7b") =
      memberOpening ++ (name ++ CodePoint.ofChar '(' :: Text.ofString ") \x7b") := by
    simp [indentLine, memberOpening, Text.ofString]
  have heading : Method.ofLine? (indentLine ("public " ++ name ++ "() \x7b")) = none := by
    rw [shape, Method.ofLine?_public piece.noOpening, Text.cutAt_of_not_mem _ piece.noBlank]
  apply List.filterMap_eq_nil_iff.mpr
  rw [constructorLines]
  intro line listed
  simp only [List.map_cons, List.map_nil, List.mem_cons, List.not_mem_nil, or_false] at listed
  rcases listed with rfl | rfl | rfl
  · rfl
  · exact heading
  · rfl

theorem Method.ofLine?_getter {field : FieldModel} (readable : IsReadable field) :
    ofLine? (indentLine ("public " ++ field.type ++ " get" ++ field.name.capitalizeFirst ++
      "() \x7b")) = some ⟨"get" ++ field.name.capitalizeFirst, true⟩ := by
  have verb : IsPiece (Text.ofString "get") := ⟨by decide, by decide, by decide⟩
  have suffix := isPiece_of_isWord (Text.isWord_capitalizeFirst readable.name)
  have shape : indentLine ("public " ++ field.type ++ " get" ++ field.name.capitalizeFirst ++
      "() \x7b") = memberOpening ++ ((field.type ++ CodePoint.ofChar ' ' ::
        ("get" ++ field.name.capitalizeFirst)) ++ CodePoint.ofChar '(' ::
          Text.ofString ") \x7b") := by
    simp [indentLine, memberOpening, Text.ofString]
  rw [shape, ofLine?_heading readable.type (isPiece_append verb suffix)]
  rfl

theorem Method.ofLine?_setter {field : FieldModel} (readable : IsReadable field) :
    ofLine? (indentLine ("public void set" ++ field.name.capitalizeFirst ++ "(" ++ field.type ++
      " " ++ field.name ++ ") \x7b")) = some ⟨"set" ++ field.name.capitalizeFirst, false⟩ := by
  have void : IsPiece (Text.ofString "void") := ⟨by decide, by decide, by decide⟩
  have verb : IsPiece (Text.ofString "set") := ⟨by decide, by decide, by decide⟩
  have suffix := isPiece_of_isWord (Text.isWord_capitalizeFirst readable.name)
  have shape : indentLine ("public void set" ++ field.name.capitalizeFirst ++ "(" ++ field.type ++
      " " ++ field.name ++ ") \x7b") = memberOpening ++ ((Text.ofString "void" ++
        CodePoint.ofChar ' ' :: ("set" ++ field.name.capitalizeFirst)) ++ CodePoint.ofChar '(' ::
          (field.type ++ CodePoint.ofChar ' ' :: (field.name ++ Text.ofString ") \x7b"))) := by
    simp [indentLine, memberOpening, Text.ofString]
  have parameter : (field.type ++ CodePoint.ofChar ' ' ::
      (field.name ++ Text.ofString ") \x7b")).head? ≠ some (CodePoint.ofChar ')') := by
    intro closes
    cases type : field.type with
    | nil =>
      rw [type] at closes
      exact absurd closes (by simp; decide)
    | cons c rest =>
      rw [type] at closes
      have noClosing := readable.type.noClosing
      rw [type] at noClosing
      exact noClosing (Option.some.inj closes ▸ List.mem_cons_self)
  rw [shape, ofLine?_heading void (isPiece_append verb suffix), decide_eq_false parameter]

theorem methodsIn_accessorLines {field : FieldModel} (readable : IsReadable field) :
    methodsIn ((accessorLines field).map indentLine) = accessors field := by
  have getter := Method.ofLine?_getter readable
  have setter := Method.ofLine?_setter readable
  have getterBody : Method.ofLine? (indentLine ("    return " ++ field.name ++ ";")) = none := rfl
  have setterBody : Method.ofLine? (indentLine ("    this." ++ field.name ++ " = " ++ field.name ++
    ";")) = none := rfl
  have ending : Method.ofLine? (indentLine "\x7d") = none := rfl
  have blank : Method.ofLine? (indentLine []) = none := rfl
  simp only [methodsIn, accessorLines, List.map_cons, List.map_nil, List.filterMap_cons,
    List.filterMap_nil, getter, setter, getterBody, setterBody, ending, blank]
  rfl

theorem Method.ofLine?_nestedHeading (name : Text) :
    ofLine? (indentLine (heading true name)) = none := by
  have shape : indentLine (heading true name) = memberOpening ++
      (Text.ofString "static" ++ CodePoint.ofChar ' ' ::
        (Text.ofString "class" ++ CodePoint.ofChar ' ' :: (name ++ Text.ofString " \x7b"))) := by
    simp [heading, indentLine, memberOpening, Text.ofString]
  have opens : Text.startsWith (indentLine (heading true name)) memberOpening = true := by
    rw [shape]
    exact List.isPrefixOf_iff_prefix.mpr (List.prefix_append _ _)
  have words : CodePoint.ofChar ' ' ∉ Text.ofString "static" ∧
      CodePoint.ofChar ' ' ∉ Text.ofString "class" := ⟨by decide, by decide⟩
  rw [ofLine?, opens, if_pos rfl, shape, List.drop_left]
  -- Whatever the name is, two pieces stand before it and one at least begins with it.
  have signature : ∀ rest : Text, (Text.ofString "static" ++ CodePoint.ofChar ' ' ::
      (Text.ofString "class" ++ CodePoint.ofChar ' ' :: rest)).takeWhile
        (fun c => decide (c ≠ CodePoint.ofChar '(')) =
      Text.ofString "static" ++ CodePoint.ofChar ' ' ::
        (Text.ofString "class" ++ CodePoint.ofChar ' ' ::
          rest.takeWhile fun c => decide (c ≠ CodePoint.ofChar '(')) := fun _ => rfl
  simp only [signature, Text.cutAt_append_cons, Text.cutAt_of_not_mem _ words.1,
    Text.cutAt_of_not_mem _ words.2]
  obtain ⟨piece, pieces, cut⟩ := List.exists_cons_of_ne_nil (Text.cutAt_ne_nil
    (CodePoint.ofChar ' ') ((name ++ Text.ofString " \x7b").takeWhile
      fun c => decide (c ≠ CodePoint.ofChar '(')))
  rw [cut]
  rfl

theorem methodsIn_indented (lines : List Text) :
    methodsIn ((lines.map indentLine).map indentLine) = [] := by
  apply methodsIn_eq_nil
  intro line listed
  obtain ⟨outer, inside, rfl⟩ := List.mem_map.mp listed
  obtain ⟨bare, -, rfl⟩ := List.mem_map.mp inside
  cases bare with
  | nil => rfl
  | cons c rest => rfl

theorem methodsIn_annotations (annotations : List Text) :
    methodsIn (annotations.map (CodePoint.ofChar '@' :: ·)) = [] ∧
      methodsIn ((annotations.map (CodePoint.ofChar '@' :: ·)).map indentLine) = [] := by
  constructor
  · apply methodsIn_eq_nil
    intro line listed
    obtain ⟨label, -, rfl⟩ := List.mem_map.mp listed
    rfl
  · apply methodsIn_eq_nil
    intro line listed
    obtain ⟨bare, inside, rfl⟩ := List.mem_map.mp listed
    obtain ⟨label, -, rfl⟩ := List.mem_map.mp inside
    rfl

/-- A class declares no method of a class nested in it. -/
theorem methodsIn_nestedLines (style : Style) (models : List ClassModel) :
    methodsIn ((nestedLines style models).map indentLine) = [] := by
  induction models with
  | nil => rfl
  | cons model rest ih =>
    obtain ⟨name, annotations, fields, nested⟩ := model
    have blank : methodsIn [indentLine []] = [] := rfl
    have first : methodsIn [indentLine (heading true name)] = [] := by
      rw [methodsIn, List.filterMap_cons, Method.ofLine?_nestedHeading]
      rfl
    have last : methodsIn [indentLine ending] = [] := rfl
    rw [nestedLines, ← List.singleton_append, ClassModel.lines]
    simp only [List.map_append, methodsIn_append, List.map_cons, List.map_nil, blank, first, last,
      (methodsIn_annotations annotations).2, methodsIn_indented, ih, List.append_nil]

/-- Without Lombok a class declares a getter and a setter for each field, and no other method. -/
theorem methodsIn_lines {style : Style} (lombok : style.lombok = false) (isNested : Bool)
    {model : ClassModel} (word : model.name.IsWord)
    (readable : ∀ field ∈ model.fields, IsReadable field) :
    methodsIn (model.lines style isNested) = model.fields.flatMap accessors := by
  obtain ⟨name, annotations, fields, nested⟩ := model
  have first : methodsIn [heading isNested name] = [] := by cases isNested <;> rfl
  have last : methodsIn [ending] = [] := rfl
  have declared : methodsIn ((fields.flatMap (fieldLines style)).map indentLine) = [] := by
    rw [List.map_flatMap, methodsIn, List.filterMap_flatMap]
    apply List.flatMap_eq_nil_iff.mpr
    exact fun field _ => methodsIn_fieldLines style field
  have accessible : methodsIn ((fields.flatMap accessorLines).map indentLine) =
      fields.flatMap accessors := by
    rw [List.map_flatMap, methodsIn, List.filterMap_flatMap]
    apply List.flatMap_congr
    exact fun field carried => methodsIn_accessorLines (readable field carried)
  rw [ClassModel.lines, ownLines, lombok, if_neg Bool.false_ne_true]
  simp only [List.map_append, methodsIn_append, first, last, (methodsIn_annotations annotations).1,
    declared, accessible, methodsIn_constructorLines word, methodsIn_nestedLines, List.nil_append,
    List.append_nil]

/-! ## The classes of a unit -/

section

variable (style : Style)

mutual

/-- The lines of every class stand in those of the unit, one after another and some levels in. -/
theorem lines_within : (model : ClassModel) → (isNested : Bool) → ∀ inner ∈ model.walk,
    ∃ level nested, (inner.lines style nested).map indentLine^[level] <:+:
      model.lines style isNested
  | ⟨name, annotations, fields, nested⟩, isNested => by
    intro inner present
    rw [ClassModel.walk] at present
    rcases List.mem_cons.mp present with rfl | below
    · refine ⟨0, isNested, ?_⟩
      rw [Function.iterate_zero, List.map_id]
    · obtain ⟨level, innerNested, within⟩ := nestedLines_within nested inner below
      refine ⟨level + 1, innerNested, ?_⟩
      rw [Function.iterate_succ', ← List.map_map, ClassModel.lines]
      apply (within.map indentLine).trans
      rw [List.map_append, ← List.append_assoc]
      exact List.infix_append _ _ _

theorem nestedLines_within : (models : List ClassModel) → ∀ inner ∈ ClassModel.walkAll models,
    ∃ level nested, (inner.lines style nested).map indentLine^[level] <:+: nestedLines style models
  | [], inner, present => by simp [ClassModel.walkAll] at present
  | model :: rest, inner, present => by
    rw [ClassModel.walkAll, List.mem_append] at present
    rw [nestedLines]
    rcases present with here | later
    · obtain ⟨level, nested, within⟩ := lines_within model true inner here
      refine ⟨level, nested, within.trans ?_⟩
      exact List.infix_append [[]] _ _
    · obtain ⟨level, nested, within⟩ := nestedLines_within rest inner later
      refine ⟨level, nested, within.trans ?_⟩
      exact (List.suffix_append ([] :: model.lines style true) _).isInfix

end

end

theorem infix_sourceOfModel {g : Generator} {model : ClassModel} {lines : List Text}
    (within : lines <:+: model.lines g.style false) :
    textOfLines lines <:+: g.sourceOfModel model := by
  have inDefinition : textOfLines lines <:+: g.definition model := within.flatMap _
  exact inDefinition.trans (List.suffix_append _ _).isInfix

/-! ## The names of accessors -/

/-- Capitalizing changes only a first letter in lower case. -/
theorem capitalizeFirst_cases {t : Text} (word : t.IsWord) :
    t.capitalizeFirst = t ∨ ∃ c rest, t = c :: rest ∧ c.isAsciiLower = true ∧
      t.capitalizeFirst = CodePoint.ofNumber (c.val - 32) :: rest := by
  cases t with
  | nil => exact .inl rfl
  | cons c rest =>
    have part := word c List.mem_cons_self
    rw [Text.capitalizeFirst, CodePoint.toUpper,
      if_pos (CodePoint.isAscii_of_isIdentifierPart part)]
    by_cases letter : c.isAsciiLower = true
    · rw [if_pos letter]
      exact .inr ⟨c, rest, rfl, letter, rfl⟩
    · rw [if_neg letter]
      exact .inl rfl

theorem capitalizeFirst_of_underscore {t : Text} (first : t.head? = some underscore) :
    t.capitalizeFirst = t := by
  cases t with
  | nil => rfl
  | cons c rest =>
    cases first
    rfl

/-- A name that begins with an underscore shares its capitalized form with no other word. -/
theorem eq_of_capitalizeFirst_eq {first second : Text} (word : second.IsWord)
    (begins : first.head? = some underscore)
    (same : first.capitalizeFirst = second.capitalizeFirst) : first = second := by
  rw [capitalizeFirst_of_underscore begins] at same
  rcases capitalizeFirst_cases word with unchanged | ⟨c, rest, rfl, letter, changed⟩
  · rwa [unchanged] at same
  · exfalso
    have capital := CodePoint.isAsciiUpper_of_isAsciiLower letter
    rw [same, changed] at begins
    rw [Option.some.inj begins] at capital
    exact absurd capital (by decide)

theorem eq_of_capitalizeFirst_eq_class {name : Text} (word : name.IsWord)
    (same : name.capitalizeFirst = "Class") : name = "Class" ∨ name = "class" := by
  rcases capitalizeFirst_cases word with unchanged | ⟨c, rest, rfl, letter, changed⟩
  · rw [unchanged] at same
    exact .inl same
  · right
    rw [changed] at same
    obtain ⟨capital, tail⟩ := List.cons.inj same
    have value : (CodePoint.ofNumber (c.val - 32)).val = (c.val - 32) % 0x110000 := rfl
    have letters : 'a'.toNat = 97 ∧ 'z'.toNat = 122 := by decide
    have number : (CodePoint.ofNumber (c.val - 32)).val = 67 := by
      rw [capital]
      rfl
    simp only [CodePoint.isAsciiLower, CodePoint.isBetween, Bool.and_eq_true,
      decide_eq_true_eq] at letter
    have lower : c.val = 99 := by omega
    have isLetter : c = CodePoint.ofChar 'c' := Fin.ext lower
    rw [isLetter, tail]
    rfl

/-- Whether no two fields of a class come to one name by a capital, both kept as they are. -/
def CapitalsApart (cls : ClassSpec) : Prop :=
  ∀ first ∈ cls.fields, ∀ second ∈ cls.fields,
    isReservedWord first.name = false → isReservedWord second.name = false →
    first.name.capitalizeFirst = second.name.capitalizeFirst → first.name = second.name

theorem nodup_accessors_iff (fields : List FieldModel) :
    ((fields.flatMap accessors).map Method.name).Nodup ↔
      (fields.map fun field => field.name.capitalizeFirst).Nodup := by
  have verbs : ∀ first second : Text,
      Text.ofString "get" ++ first ≠ Text.ofString "set" ++ second := by
    intro first second same
    exact absurd (List.cons.inj same).1 (by decide)
  have each : ∀ field, ((accessors field).map Method.name).Nodup := by
    intro field
    simp only [accessors, List.map_cons, List.map_nil, List.nodup_cons, List.mem_singleton,
      List.not_mem_nil, not_false_iff, List.nodup_nil, and_true]
    exact verbs _ _
  have apart : ∀ first second : FieldModel,
      List.Disjoint ((accessors first).map Method.name) ((accessors second).map Method.name) ↔
        first.name.capitalizeFirst ≠ second.name.capitalizeFirst := by
    intro first second
    simp only [accessors, List.map_cons, List.map_nil, List.disjoint_cons_left,
      List.disjoint_nil_left, List.mem_cons, List.not_mem_nil, or_false, and_true, not_or]
    constructor
    · rintro ⟨⟨getters, -⟩, -⟩ same
      exact getters (congrArg _ same)
    · intro different
      refine ⟨⟨?_, verbs _ _⟩, (verbs _ _).symm, ?_⟩
      · exact fun same => different (List.append_cancel_left same)
      · exact fun same => different (List.append_cancel_left same)
  rw [List.map_flatMap, List.nodup_flatMap, List.Nodup, List.pairwise_map]
  constructor
  · rintro ⟨-, pairwise⟩
    exact pairwise.imp fun {first second} => (apart first second).mp
  · intro pairwise
    exact ⟨fun field _ => each field, pairwise.imp fun {first second} => (apart first second).mpr⟩

section

variable {cls : ClassSpec} (words : HasWords cls) (apart : FieldsApart cls)

include words apart

theorem nodup_capitals_iff :
    ((fieldModels [] cls.fields).map fun field => field.name.capitalizeFirst).Nodup ↔
      CapitalsApart cls := by
  have related := namesField_fieldModels cls.fields [] apart (by simp)
  have distinct := (names_fieldModels_distinct cls.fields []).1
  have word := isWord_of_mem_fieldModels words.fieldNames []
  have shape : ((fieldModels [] cls.fields).map fun field => field.name.capitalizeFirst) =
      ((fieldModels [] cls.fields).map FieldModel.name).map Text.capitalizeFirst := by
    rw [List.map_map]
    rfl
  rw [shape, List.nodup_map_iff_inj_on distinct]
  constructor
  · intro injective first firstCarried second secondCarried firstFree secondFree same
    -- An underscore stays what it is, and so only names without one can meet.
    by_cases firstBegins : first.name.head? = some underscore
    · exact eq_of_capitalizeFirst_eq (words.fieldNames second secondCarried) firstBegins same
    · by_cases secondBegins : second.name.head? = some underscore
      · exact (eq_of_capitalizeFirst_eq (words.fieldNames first firstCarried) secondBegins
          same.symm).symm
      · obtain ⟨firstModel, firstListed, firstNamed⟩ :=
          exists_related_of_mem related.flip firstCarried
        obtain ⟨secondModel, secondListed, secondNamed⟩ :=
          exists_related_of_mem related.flip secondCarried
        have firstKept := firstNamed.plain ⟨firstFree, firstBegins⟩
        have secondKept := secondNamed.plain ⟨secondFree, secondBegins⟩
        rw [← firstKept, ← secondKept] at same ⊢
        exact injective _ (List.mem_map_of_mem firstListed) _ (List.mem_map_of_mem secondListed)
          same
  · intro capitalsApart first firstNames second secondNames same
    obtain ⟨firstModel, firstListed, rfl⟩ := List.mem_map.mp firstNames
    obtain ⟨secondModel, secondListed, rfl⟩ := List.mem_map.mp secondNames
    obtain ⟨firstField, firstCarried, firstNamed⟩ := exists_related_of_mem related firstListed
    obtain ⟨secondField, secondCarried, secondNamed⟩ := exists_related_of_mem related secondListed
    by_cases firstPlain : IsPlainName firstField.name
    · by_cases secondPlain : IsPlainName secondField.name
      · rw [firstNamed.plain firstPlain, secondNamed.plain secondPlain] at same ⊢
        exact capitalsApart firstField firstCarried secondField secondCarried
          firstPlain.unreserved secondPlain.unreserved same
      · exact (eq_of_capitalizeFirst_eq (word firstModel firstListed)
          (secondNamed.special secondPlain) same.symm).symm
    · exact eq_of_capitalizeFirst_eq (word secondModel secondListed)
        (firstNamed.special firstPlain) same

theorem exists_getClass_iff :
    ⟨"getClass", true⟩ ∈ (fieldModels [] cls.fields).flatMap accessors ↔
      ∃ field ∈ cls.fields, field.name = "Class" := by
  have related := namesField_fieldModels cls.fields [] apart (by simp)
  have word := isWord_of_mem_fieldModels words.fieldNames []
  have getter : ∀ suffix : Text, (⟨"getClass", true⟩ : Method) = ⟨"get" ++ suffix, true⟩ ↔
      suffix = "Class" := by
    intro suffix
    have verb : (Text.ofString "getClass") = Text.ofString "get" ++ Text.ofString "Class" := rfl
    rw [Method.mk.injEq, and_iff_left rfl, verb, List.append_cancel_left_eq, eq_comm]
  have getClass : ∀ field : FieldModel, ⟨"getClass", true⟩ ∈ accessors field ↔
      field.name.capitalizeFirst = "Class" := by
    intro field
    rw [accessors, List.mem_cons, List.mem_singleton, getter, or_iff_left]
    intro same
    exact absurd (Method.mk.inj same).2 (by decide)
  simp only [List.mem_flatMap, getClass]
  have plain : IsPlainName "Class" := ⟨by decide, by decide⟩
  constructor
  · rintro ⟨model, listed, capital⟩
    obtain ⟨field, carried, named⟩ := exists_related_of_mem related listed
    refine ⟨field, carried, ?_⟩
    by_cases kept : IsPlainName field.name
    · rw [named.plain kept] at capital
      have word := words.fieldNames field carried
      refine (eq_of_capitalizeFirst_eq_class word capital).resolve_right ?_
      intro lower
      have reserved := kept.unreserved
      rw [lower] at reserved
      exact absurd reserved (by decide)
    · have begins := named.special kept
      rw [← capitalizeFirst_of_underscore begins, capital] at begins
      exact absurd begins (by decide)
  · rintro ⟨field, carried, name⟩
    obtain ⟨model, listed, named⟩ := exists_related_of_mem related.flip carried
    refine ⟨model, listed, ?_⟩
    rw [named.plain (name ▸ plain), name]
    rfl

end

theorem isReadable_of_modelsClass {g : Generator} {cls : ClassSpec} {inner : ClassModel}
    (words : HasWords cls) (models : ModelsClass g.lombok cls inner) :
    ∀ field ∈ inner.fields, IsReadable field := by
  intro field carried
  obtain ⟨origin, listed, typed⟩ := exists_field_of_mem models carried
  rw [models.fields] at carried
  refine ⟨isWord_of_mem_fieldModels words.fieldNames [] field carried, ?_⟩
  rw [typed.type]
  exact isPiece_typeText (words.references origin listed) false

/-- Without Lombok the lines of every class stand in the unit, and what methods they declare is told
by the fields of the class: the methods have names of their own just when the fields stay apart
under a capital, and one of them without parameters is called `getClass` just when a field is
`Class`. -/
theorem accessors_apart_iff (g : Generator) (o : Options) (document : Json)
    (className : Option Text) (spec : ClassSpec) (model : ClassModel) (lombok : g.lombok = false)
    (success : synthesizeFresh o document className = .ok spec)
    (modelled : g.model spec = .ok model) :
    List.Forall₂ (fun cls inner => ∃ level isNested,
        textOfLines ((inner.lines g.style isNested).map indentLine^[level]) <:+:
          g.sourceOfModel model ∧
        (((methodsIn (inner.lines g.style isNested)).map Method.name).Nodup ↔
          CapitalsApart cls) ∧
        (⟨"getClass", true⟩ ∈ methodsIn (inner.lines g.style isNested) ↔
          ∃ field ∈ cls.fields, field.name = "Class"))
      spec.walk model.walk := by
  obtain ⟨identifier, members, mirrored⟩ := mirrors_of_synthesizeFresh success
  have words := mirrored.hasWords_of_mem_walk (Text.isWord_of_isIdentifier identifier)
  have apart := fieldsApart_of_synthesizeFresh success
  obtain ⟨sameLength, paired⟩ := List.forall₂_iff_zip.mp (models_walk spec model modelled)
  apply List.forall₂_iff_zip.mpr
  refine ⟨sameLength, ?_⟩
  intro cls inner pair
  obtain ⟨within, present⟩ := List.of_mem_zip pair
  have models := paired pair
  have ofClass := words cls within
  have declared : ∀ isNested, methodsIn (inner.lines g.style isNested) =
      (fieldModels [] cls.fields).flatMap accessors := by
    intro isNested
    rw [← models.fields]
    apply methodsIn_lines lombok isNested
    · rw [models.name]
      exact ofClass.name
    · exact isReadable_of_modelsClass ofClass models
  obtain ⟨level, isNested, stands⟩ := lines_within g.style model false inner present
  refine ⟨level, isNested, infix_sourceOfModel stands, ?_, ?_⟩
  · rw [declared, nodup_accessors_iff]
    exact nodup_capitals_iff ofClass (apart cls within)
  · rw [declared]
    exact exists_getClass_iff ofClass (apart cls within)

/-- A generator that leaves nothing to Lombok. -/
def plainGenerator : Generator := ⟨.unnamed, false, true⟩

/-- A document of two members that a capital makes one, above one whose getter every class has. -/
def clashingMembers : List (Text × Json) :=
  [("a", .integer 1), ("A", .integer 2), ("box", .object [("Class", .string "x")])]

def boxSpec : ClassSpec := ⟨"PairBox", [⟨"Class", .primitive .string, "Class"⟩], []⟩

def pairSpec : ClassSpec :=
  ⟨"Pair", [⟨"a", .primitive .int, "a"⟩, ⟨"A", .primitive .int, "A"⟩,
    ⟨"box", .reference "PairBox", "box"⟩], [boxSpec]⟩

theorem synthesize_pair :
    synthesizeFresh .default (.object clashingMembers) (some "Pair") = .ok pairSpec := rfl

theorem pairSpec_accessors_clash :
    ∃ model inner, plainGenerator.model pairSpec = .ok model ∧ model.walk = [model, inner] ∧
      (∃ isNested,
        ¬ ((methodsIn (model.lines plainGenerator.style isNested)).map Method.name).Nodup) ∧
      ∃ isNested,
        ((methodsIn (inner.lines plainGenerator.style isNested)).map Method.name).Nodup ∧
        ⟨"getClass", true⟩ ∈ methodsIn (inner.lines plainGenerator.style isNested) := by
  have both := accessors_apart_iff plainGenerator .default (.object clashingMembers)
    (some "Pair") pairSpec _ rfl synthesize_pair rfl
  obtain ⟨root, below⟩ := List.forall₂_cons.mp both
  obtain ⟨box, -⟩ := List.forall₂_cons.mp below
  obtain ⟨-, rootNested, -, rootApart, -⟩ := root
  obtain ⟨-, boxNested, -, boxApart, boxGetClass⟩ := box
  refine ⟨_, _, rfl, rfl, ⟨rootNested, ?_⟩, boxNested, ?_, ?_⟩
  · rw [rootApart]
    intro capitalsApart
    have same : Text.ofString "a" = Text.ofString "A" :=
      capitalsApart _ List.mem_cons_self _ (List.mem_cons_of_mem _ List.mem_cons_self) (by decide)
        (by decide) (by decide)
    exact absurd same (by decide)
  · apply boxApart.mpr
    intro first firstListed second secondListed _ _ _
    rw [List.mem_singleton.mp firstListed, List.mem_singleton.mp secondListed]
  · exact boxGetClass.mpr ⟨_, List.mem_cons_self, rfl⟩

/-- Two keys that differ in the case of their first letter give two getters of one name, and a key
`Class` gives a getter that overrides a final method. -/
theorem keys_share_accessors :
    (∃ spec model,
      synthesizeFresh .default (.object [("a", .integer 1), ("A", .integer 2)]) (some "Pair") =
        .ok spec ∧ plainGenerator.model spec = .ok model ∧
      methodsIn (model.lines plainGenerator.style false) =
        [⟨"getA", true⟩, ⟨"setA", false⟩, ⟨"getA", true⟩, ⟨"setA", false⟩]) ∧
    ∃ spec model,
      synthesizeFresh .default (.object [("Class", .string "x")]) (some "Box") = .ok spec ∧
      plainGenerator.model spec = .ok model ∧
      methodsIn (model.lines plainGenerator.style false) =
        [⟨"getClass", true⟩, ⟨"setClass", false⟩] :=
  ⟨⟨_, _, rfl, rfl, by decide⟩, _, _, rfl, rfl, by decide⟩

end ClassSynth.Java
