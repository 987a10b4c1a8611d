import ClassSynth.Proofs.Java.ImportScan

/-!
# Java types

A type is written as a name behind as many openings of lists as it has layers.  What a kind is
called depends on whether it is boxed, and below the outermost layer it always is.  The main
statement is that types which refer to no class under a name of Java's own are told apart by their
texts, and that no primitive type of Java becomes the type argument of a list.
-/

set_option autoImplicit false

namespace ClassSynth.Java

/-- The names by which the primitive kinds go in Java, boxed or not. -/
def builtInTypes : List Text := List.map Text.ofString
  ["String", "int", "Integer", "long", "Long", "BigInteger", "boolean", "Boolean", "double",
    "Double"]

/-- The primitive types of Java among them, which cannot be type arguments. -/
def unboxedTypes : List Text := List.map Text.ofString ["int", "long", "boolean", "double"]

/-- Whether a type refers to classes only by identifiers that are no names of Java's own. -/
def RefersFreely (type : FieldType) : Prop :=
  ∀ name, type.reference? = some name → name.isIdentifier = true ∧ name ∉ builtInTypes

def listText (argument : Text) : Text := "List<" ++ argument ++ ">"

/-- Whether a text is the type argument of a list in a Java type, at any depth. -/
def IsListArgument (argument type : Text) : Prop := listText argument <:+: type

section

variable {type other : FieldType} {boxed : Bool}

theorem RefersFreely.isWord (free : RefersFreely type) :
    ∀ name, type.reference? = some name → name.IsWord :=
  fun name refers => Text.isWord_of_isIdentifier (free name refers).1

/-! ## Types are known from their texts -/

theorem typeText_primitive_mem (boxed : Bool) (kind : Primitive) :
    typeText boxed (.primitive kind) ∈ builtInTypes := by
  cases boxed <;> cases kind <;> decide

theorem eq_of_typeText_primitive_eq {kind kind' : Primitive}
    (same : typeText boxed (.primitive kind) = typeText boxed (.primitive kind')) :
    kind = kind' := by
  revert same
  cases boxed <;> cases kind <;> cases kind' <;> decide

theorem mem_typeText_list (boxed : Bool) (element : FieldType) :
    CodePoint.ofChar '<' ∈ typeText boxed (.list element) := by
  rw [typeText, List.append_assoc]
  exact List.mem_append_left _ (by decide)

theorem exists_list_of_typeText_eq {element : FieldType} (free : RefersFreely type)
    (same : typeText boxed type = typeText boxed (.list element)) :
    ∃ inner, type = .list inner := by
  have bracket := mem_typeText_list boxed element
  rw [← same] at bracket
  exact exists_list_of_mem_typeText free.isWord bracket

theorem eq_of_typeText_eq (free : RefersFreely type) (otherFree : RefersFreely other)
    (same : typeText boxed type = typeText boxed other) : type = other := by
  induction type generalizing other boxed with
  | primitive kind =>
    cases other with
    | primitive kind' => rw [eq_of_typeText_primitive_eq same]
    | list element =>
      obtain ⟨inner, list⟩ := exists_list_of_typeText_eq free same
      cases list
    | reference className =>
      have builtIn := typeText_primitive_mem boxed kind
      rw [same] at builtIn
      exact absurd builtIn (otherFree className rfl).2
  | list element ih =>
    obtain ⟨inner, rfl⟩ := exists_list_of_typeText_eq otherFree same.symm
    have elementFree : RefersFreely element := free
    have innerFree : RefersFreely inner := otherFree
    have inside : typeText true element = typeText true inner :=
      List.append_cancel_left (List.append_cancel_right same)
    rw [ih elementFree innerFree inside]
  | reference className =>
    cases other with
    | primitive kind =>
      have builtIn := typeText_primitive_mem boxed kind
      rw [← same] at builtIn
      exact absurd builtIn (free className rfl).2
    | list element =>
      obtain ⟨inner, list⟩ := exists_list_of_typeText_eq free same
      cases list
    | reference className' => exact congrArg TypeOver.reference same

/-! ## Type arguments -/

theorem core_cases (type : FieldType) : (∃ kind, type.core = .primitive kind) ∨
    ∃ name, type.core = .reference name ∧ type.reference? = some name := by
  induction type with
  | primitive kind => exact .inl ⟨kind, rfl⟩
  | list element ih => exact ih
  | reference className => exact .inr ⟨className, rfl, rfl⟩

theorem isWord_typeText_core (words : ∀ name, type.reference? = some name → name.IsWord) :
    (typeText boxed type.core).IsWord := by
  rcases core_cases type with ⟨kind, core⟩ | ⟨name, core, refers⟩
  · have fixed : (typeText boxed (.primitive kind)).all CodePoint.isIdentifierPart = true := by
      cases boxed <;> cases kind <;> decide
    rw [core]
    exact List.all_eq_true.mp fixed
  · rw [core]
    exact words name refers

/-- A word that is ended by a bracket where a type begins is all of that type, which is no list. -/
theorem eq_core_of_prefix {argument behind closings : Text} (word : argument.IsWord)
    (words : ∀ name, type.reference? = some name → name.IsWord) (ends : closings.EndsWord)
    (same : argument ++ CodePoint.ofChar '>' :: behind = typeText true type ++ closings) :
    argument = typeText true type.core := by
  have closing : (CodePoint.ofChar '>').isIdentifierPart = false := by decide
  have opening : (CodePoint.ofChar '<').isIdentifierPart = false := by decide
  have argumentEnds := Text.endsWord_cons closing behind
  have wordCase : (typeText true type.core).IsWord := isWord_typeText_core words
  cases type with
  | primitive kind => exact (Text.eq_of_word_append_eq word wordCase argumentEnds ends same).1
  | list element =>
    have list : Text.IsWord "List" := List.all_eq_true.mp (by decide)
    have shape : typeText true (.list element) ++ closings = ("List" : Text) ++
        CodePoint.ofChar '<' :: (typeText true element ++ ">" ++ closings) := by
      simp [typeText, Text.ofString]
    rw [shape] at same
    obtain ⟨-, brackets⟩ := Text.eq_of_word_append_eq word list argumentEnds
      (Text.endsWord_cons opening _) same
    exact absurd (List.cons.inj brackets).1 (by decide)
  | reference className =>
    exact (Text.eq_of_word_append_eq word wordCase argumentEnds ends same).1

theorem exists_list_of_infix {argument closings : Text}
    (words : ∀ name, type.reference? = some name → name.IsWord)
    (closes : ∀ c ∈ closings, c = CodePoint.ofChar '>')
    (occurs : listText argument <:+: typeText boxed type ++ closings) :
    ∃ element, type = .list element := by
  have opening : CodePoint.ofChar '<' ∈ listText argument := by
    rw [listText, List.append_assoc]
    exact List.mem_append_left _ (by decide)
  rcases List.mem_append.mp (occurs.subset opening) with inType | inClosings
  · exact exists_list_of_mem_typeText words inType
  · exact absurd (closes _ inClosings) (by decide)

/-- A word that is a type argument stands for what is below all layers. -/
theorem eq_core_of_infix {argument closings : Text} (word : argument.IsWord)
    (words : ∀ name, type.reference? = some name → name.IsWord)
    (closes : ∀ c ∈ closings, c = CodePoint.ofChar '>')
    (occurs : listText argument <:+: typeText true type ++ closings) :
    argument = typeText true type.core := by
  induction type generalizing closings with
  | primitive kind =>
    obtain ⟨element, list⟩ := exists_list_of_infix words closes occurs
    cases list
  | list element ih =>
    have shape : typeText true (.list element) ++ closings = CodePoint.ofChar 'L' ::
        ("ist<" ++ (typeText true element ++ CodePoint.ofChar '>' :: closings)) := by
      simp [typeText, Text.ofString]
    have sought : listText argument =
        CodePoint.ofChar 'L' :: ("ist<" ++ (argument ++ [CodePoint.ofChar '>'])) := by
      simp [listText, Text.ofString]
    have closesAll : ∀ c ∈ CodePoint.ofChar '>' :: closings, c = CodePoint.ofChar '>' :=
      List.forall_mem_cons.mpr ⟨rfl, closes⟩
    have elsewhere : CodePoint.ofChar 'L' ∉ Text.ofString "ist<" := by decide
    rw [shape, sought, List.infix_cons_iff] at occurs
    rcases occurs with here | further
    · obtain ⟨behind, same⟩ := (List.prefix_append_right_inj _).mp (List.cons_prefix_cons.mp here).2
      rw [List.append_assoc, List.singleton_append] at same
      have ends : Text.EndsWord (CodePoint.ofChar '>' :: closings) :=
        Text.endsWord_cons (by decide) closings
      have elementWords : ∀ name, element.reference? = some name → name.IsWord := words
      have core : argument = typeText true element.core :=
        eq_core_of_prefix word elementWords ends same
      exact core
    · rw [Text.infix_append_iff_of_not_mem elsewhere, ← sought] at further
      exact ih words closesAll further
  | reference className =>
    obtain ⟨element, list⟩ := exists_list_of_infix words closes occurs
    cases list

theorem typeText_core_not_mem_unboxedTypes (free : RefersFreely type) :
    typeText true type.core ∉ unboxedTypes := by
  rcases core_cases type with ⟨kind, core⟩ | ⟨name, core, refers⟩
  · rw [core]
    cases kind <;> decide
  · have builtIn : ∀ name ∈ unboxedTypes, name ∈ builtInTypes := by decide
    rw [core]
    exact fun unboxed => (free name refers).2 (builtIn name unboxed)

/-- The type argument of a list, where it is a word, is the boxed type below all layers. -/
theorem eq_core_of_isListArgument {argument : Text} (word : argument.IsWord)
    (words : ∀ name, type.reference? = some name → name.IsWord)
    (isArgument : IsListArgument argument (typeText boxed type)) :
    argument = typeText true type.core := by
  have noClosings : ∀ c ∈ ([] : Text), c = CodePoint.ofChar '>' := List.forall_mem_nil _
  have occurs : listText argument <:+: typeText boxed type ++ [] := by
    rw [List.append_nil]
    exact isArgument
  obtain ⟨element, rfl⟩ := exists_list_of_infix words noClosings occurs
  exact eq_core_of_infix word words noClosings occurs

end

/-- Types that refer to no class under a name of Java's own have one text just when they are the
same, be they boxed or not; and none of the primitive types of Java is the type argument of a list
in such a text. -/
theorem typeText_faithful (boxed : Bool) (type other : FieldType) (free : RefersFreely type)
    (otherFree : RefersFreely other) :
    (typeText boxed type = typeText boxed other ↔ type = other) ∧
      ∀ unboxed ∈ unboxedTypes, ¬ IsListArgument unboxed (typeText boxed type) := by
  constructor
  · exact ⟨eq_of_typeText_eq free otherFree, congrArg (typeText boxed)⟩
  · intro unboxed listed isArgument
    have words : ∀ name ∈ unboxedTypes, name.all CodePoint.isIdentifierPart = true := by decide
    have word : unboxed.IsWord := List.all_eq_true.mp (words unboxed listed)
    rw [eq_core_of_isListArgument word free.isWord isArgument] at listed
    exact typeText_core_not_mem_unboxedTypes free listed

/-- A list of lists of numbers, and a list of a class that has the name of lists. -/
def tableType : FieldType := .list (.list (.primitive .int))

def namesakeType : FieldType := .list (.reference "List")

theorem tableType_is_faithful :
    RefersFreely tableType ∧ RefersFreely namesakeType ∧
    typeText false tableType = Text.ofString "List<List<Integer>>" ∧
    typeText false namesakeType = Text.ofString "List<List>" ∧
    (typeText false tableType = typeText false namesakeType ↔ tableType = namesakeType) ∧
    ¬ IsListArgument "int" (typeText false tableType) := by
  have free : RefersFreely tableType := by
    intro name refers
    cases refers
  have namesakeFree : RefersFreely namesakeType := by
    intro name refers
    cases refers
    decide
  have faithful := typeText_faithful false tableType namesakeType free namesakeFree
  exact ⟨free, namesakeFree, rfl, rfl, faithful.1, faithful.2 _ List.mem_cons_self⟩

end ClassSynth.Java
