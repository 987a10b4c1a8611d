import ClassSynth.Java.Layout
import ClassSynth.Proofs.Java.Lexical
import ClassSynth.Proofs.Java.Model
import ClassSynth.Proofs.Text.Hexadecimal

/-!
# Key literals are Java string literals

The key of a field is written as a JSON string and read as a Java string literal.  The two grammars
differ, and Java translates Unicode escapes first, so what a backslash means hangs on those before
it.  The main statement is that the literal of every key is read whole and denotes the key, in its
annotation too.
-/

set_option autoImplicit false

namespace ClassSynth.Java

/-! ## Translating Unicode escapes -/

theorem translateFrom_add_two (t : Text) : ∀ backslashes,
    translateFrom (.raw (backslashes + 2)) t = translateFrom (.raw backslashes) t := by
  induction t with
  | nil => simp [translateFrom]
  | cons c rest ih =>
    intro backslashes
    have parity : (backslashes + 2) % 2 = backslashes % 2 := by omega
    simp only [translateFrom, parity, ih]

theorem translate_cons_of_ne {c : CodePoint} (plain : c ≠ backslash) (rest : Text) :
    translate (c :: rest) = (translate rest).map (c.utf16 ++ ·) := by
  simp [translate, translateFrom, plain]

/-- Two code points that begin with a backslash and have no `u` behind it stay as they are. -/
theorem translate_backslash_cons {letter : CodePoint} (noEscape : letter ≠ escapeLetter)
    (rest : Text) : translate (backslash :: letter :: rest) =
      (translate rest).map ([CodeUnit.backslash] ++ letter.utf16 ++ ·) := by
  have unit : backslash.utf16 = [CodeUnit.backslash] := by decide
  by_cases doubled : letter = backslash
  · subst doubled
    have even := translateFrom_add_two rest 0
    simp [translate, translateFrom, noEscape, unit, even, Function.comp_def]
  · simp [translate, translateFrom, noEscape, doubled, unit, Function.comp_def]

theorem translate_numericEscape {n : Nat} (small : n < 0x10000) (rest : Text) :
    translate (numericEscape n ++ rest) = (translate rest).map ([CodeUnit.ofNumber n] ++ ·) := by
  have written : numericEscape n = backslash :: escapeLetter :: Text.ofHex 4 n := rfl
  have noLetter : ∀ value < 16, hexDigit value ≠ escapeLetter := by decide
  have digit := hexValue?_hexDigit
  have first : n / 16 / 16 / 16 < 16 := by omega
  have second : n / 16 / 16 % 16 < 16 := by omega
  have third : n / 16 % 16 < 16 := by omega
  have last : n % 16 < 16 := by omega
  have value :
      ((n / 16 / 16 / 16 * 16 + n / 16 / 16 % 16) * 16 + n / 16 % 16) * 16 + n % 16 = n := by
    omega
  have start : escapeLetter ≠ backslash := by decide
  rw [written, Text.ofHex_four small]
  simp [translate, translateFrom, noLetter _ first, digit _ first, digit _ second, digit _ third,
    digit _ last, value]

/-! ## Reading characters -/

theorem charactersFrom_cons_of_plain {u : CodeUnit}
    (plain : u ∉ CodeUnit.special) (rest : List CodeUnit) : charactersFrom 0 (u :: rest) =
      (charactersFrom 0 rest).map fun (units, behind) => ([u] ++ units, behind) := by
  simp only [CodeUnit.special, List.mem_cons, List.not_mem_nil, or_false, not_or] at plain
  simp [charactersFrom, plain]

theorem charactersFrom_backslash_cons {letter value : CodeUnit}
    (escape : letterEscapes.lookup letter = some value) (rest : List CodeUnit) :
    charactersFrom 0 (CodeUnit.backslash :: letter :: rest) =
      (charactersFrom 0 rest).map fun (units, behind) => ([value] ++ units, behind) := by
  have noQuote : CodeUnit.backslash ≠ CodeUnit.quote := by decide
  have noBreak : ¬ (CodeUnit.backslash = CodeUnit.lineFeed ∨
      CodeUnit.backslash = CodeUnit.carriageReturn) := by decide
  simp [charactersFrom, noQuote, noBreak, escapeUnit?, escape]

/-! ## The pieces of a literal -/

/-- Whether a piece of a string literal is printable ASCII and means some units wherever it stands:
it is translated by itself, to characters that are read as these units and do not begin with a
quote. -/
structure Means (written : Text) (units meant : List CodeUnit) : Prop where
  printable : ∀ c ∈ written, 0x20 ≤ c.val ∧ c.val ≤ 0x7E
  translated : ∀ rest, translate (written ++ rest) = (translate rest).map (units ++ ·)
  read : ∀ rest, charactersFrom 0 (units ++ rest) =
    (charactersFrom 0 rest).map fun (more, behind) => (meant ++ more, behind)
  unquoted : units.head? ≠ some CodeUnit.quote

theorem means_nil : Means [] [] [] := by
  refine ⟨by simp, ?_, ?_, by simp⟩
  · intro rest
    simp
  · intro rest
    simp

theorem Means.append {first second : Text} {units units' meant meant' : List CodeUnit}
    (left : Means first units meant) (right : Means second units' meant') :
    Means (first ++ second) (units ++ units') (meant ++ meant') := by
  refine ⟨?_, ?_, ?_, ?_⟩
  · rw [List.forall_mem_append]
    exact ⟨left.printable, right.printable⟩
  · intro rest
    rw [List.append_assoc, left.translated, right.translated, Option.map_map]
    congr 1
    funext more
    exact (List.append_assoc units units' more).symm
  · intro rest
    rw [List.append_assoc, left.read, right.read, Option.map_map]
    congr 1
    funext found
    exact Prod.ext (List.append_assoc meant meant' found.1).symm rfl
  · cases units with
    | nil => exact right.unquoted
    | cons unit more => exact left.unquoted

theorem means_letter (letter : CodePoint) {unit value : CodeUnit} (noEscape : letter ≠ escapeLetter)
    (printable : 0x20 ≤ letter.val ∧ letter.val ≤ 0x7E) (single : letter.utf16 = [unit])
    (escape : letterEscapes.lookup unit = some value) :
    Means [backslash, letter] [CodeUnit.backslash, unit] [value] := by
  refine ⟨?_, ?_, charactersFrom_backslash_cons escape, ?_⟩
  · intro c member
    simp only [List.mem_cons, List.not_mem_nil, or_false] at member
    rcases member with rfl | rfl
    · decide
    · exact printable
  · intro rest
    have translated := translate_backslash_cons noEscape rest
    rwa [single] at translated
  · rw [List.head?_cons, ne_eq, Option.some.injEq]
    decide

theorem means_unit {written : Text} {unit : CodeUnit}
    (printable : ∀ c ∈ written, 0x20 ≤ c.val ∧ c.val ≤ 0x7E)
    (translated : ∀ rest, translate (written ++ rest) = (translate rest).map ([unit] ++ ·))
    (plain : unit ∉ CodeUnit.special) : Means written [unit] [unit] := by
  refine ⟨printable, translated, charactersFrom_cons_of_plain plain, ?_⟩
  intro quoted
  rw [List.head?_cons, Option.some.injEq] at quoted
  exact plain (by rw [quoted]; exact List.mem_cons_self)

theorem ofNumber_not_mem_special {n : Nat} (small : n < 0x10000)
    (plain : n ≠ 0x22 ∧ n ≠ 0xA ∧ n ≠ 0xD ∧ n ≠ 0x5C) :
    CodeUnit.ofNumber n ∉ CodeUnit.special := by
  have value := CodeUnit.val_ofNumber small
  simp only [CodeUnit.special, List.mem_cons, List.not_mem_nil, or_false, not_or, Fin.ext_iff,
    value]
  exact plain

theorem means_numericEscape {n : Nat} (small : n < 0x10000)
    (plain : n ≠ 0x22 ∧ n ≠ 0xA ∧ n ≠ 0xD ∧ n ≠ 0x5C) :
    Means (numericEscape n) [CodeUnit.ofNumber n] [CodeUnit.ofNumber n] := by
  refine means_unit ?_ (translate_numericEscape small) (ofNumber_not_mem_special small plain)
  have written : numericEscape n = backslash :: escapeLetter :: Text.ofHex 4 n := rfl
  rw [written, Text.ofHex_four small]
  intro c member
  simp only [List.mem_cons, List.not_mem_nil, or_false] at member
  rcases member with rfl | rfl | rfl | rfl | rfl | rfl
  · decide
  · decide
  all_goals exact hexDigit_printable _ (by omega)

theorem exists_means_literalPoint (c : CodePoint) :
    ∃ units, Means (literalPoint c) units c.utf16 := by
  by_cases short : c ∈ ([0x22, 0x5C, 0xA, 0xD, 0x9, 0xC, 0x8] : List CodePoint)
  · simp only [List.mem_cons, List.not_mem_nil, or_false] at short
    rcases short with rfl | rfl | rfl | rfl | rfl | rfl | rfl
    · exact ⟨_, means_letter 0x22 (by decide) (by decide) rfl rfl⟩
    · exact ⟨_, means_letter 0x5C (by decide) (by decide) rfl rfl⟩
    · exact ⟨_, means_letter 0x6E (by decide) (by decide) rfl rfl⟩
    · exact ⟨_, means_letter 0x72 (by decide) (by decide) rfl rfl⟩
    · exact ⟨_, means_letter 0x74 (by decide) (by decide) rfl rfl⟩
    · exact ⟨_, means_letter 0x66 (by decide) (by decide) rfl rfl⟩
    · exact ⟨_, means_letter 0x62 (by decide) (by decide) rfl rfl⟩
  · simp only [List.mem_cons, List.not_mem_nil, or_false, not_or, Fin.ext_iff] at short
    obtain ⟨noQuote, noBackslash, noLineFeed, noReturn, noTab, noFormFeed, noBackspace⟩ :
      c.val ≠ 0x22 ∧ c.val ≠ 0x5C ∧ c.val ≠ 0xA ∧ c.val ≠ 0xD ∧ c.val ≠ 0x9 ∧ c.val ≠ 0xC ∧
        c.val ≠ 0x8 := short
    have written : literalPoint c = if 0x20 ≤ c.val ∧ c.val ≤ 0x7E then [c]
        else if c.val ≤ 0xFFFF then numericEscape c.val
        else numericEscape (0xD800 + (c.val - 0x10000) / 0x400) ++
          numericEscape (0xDC00 + (c.val - 0x10000) % 0x400) := by
      unfold literalPoint
      rw [if_neg noQuote, if_neg noBackslash, if_neg noLineFeed, if_neg noReturn, if_neg noTab,
        if_neg noFormFeed, if_neg noBackspace]
    rw [written]
    by_cases single : c.val ≤ 0xFFFF
    · have unit : c.utf16 = [CodeUnit.ofNumber c.val] := if_pos single
      have small : c.val < 0x10000 := by omega
      have plain : c.val ≠ 0x22 ∧ c.val ≠ 0xA ∧ c.val ≠ 0xD ∧ c.val ≠ 0x5C :=
        ⟨noQuote, noLineFeed, noReturn, noBackslash⟩
      rw [if_pos single, unit]
      by_cases printable : 0x20 ≤ c.val ∧ c.val ≤ 0x7E
      · rw [if_pos printable]
        refine ⟨_, means_unit ?_ ?_ (ofNumber_not_mem_special small plain)⟩
        · intro other member
          rwa [List.mem_singleton.mp member]
        · intro rest
          have noEscape : c ≠ backslash := fun same => noBackslash (congrArg Fin.val same)
          have translated := translate_cons_of_ne noEscape rest
          rwa [unit] at translated
      · rw [if_neg printable]
        exact ⟨_, means_numericEscape small plain⟩
    · have bound := c.isLt
      have units : c.utf16 = [CodeUnit.ofNumber (0xD800 + (c.val - 0x10000) / 0x400)] ++
          [CodeUnit.ofNumber (0xDC00 + (c.val - 0x10000) % 0x400)] := if_neg single
      have high := means_numericEscape (n := 0xD800 + (c.val - 0x10000) / 0x400) (by omega)
        (by omega)
      have low := means_numericEscape (n := 0xDC00 + (c.val - 0x10000) % 0x400) (by omega)
        (by omega)
      rw [if_neg (by omega), if_neg single, units]
      exact ⟨_, high.append low⟩

theorem exists_means_literal (key : Text) :
    ∃ units, Means (key.flatMap literalPoint) units key.utf16 := by
  induction key with
  | nil => exact ⟨[], means_nil⟩
  | cons c rest ih =>
    obtain ⟨units, first⟩ := exists_means_literalPoint c
    obtain ⟨more, later⟩ := ih
    exact ⟨units ++ more, first.append later⟩

/-! ## Whole literals -/

/-- A key literal, with something behind it that does not begin with a quote, is read as a string
literal that denotes the key, and what is behind it is left. -/
theorem stringLiteral?_literal (key behind : Text) {following : List CodeUnit}
    (translated : translate behind = some following)
    (unquoted : following.head? ≠ some CodeUnit.quote) :
    (translate (key.literal ++ behind)).bind stringLiteral? = some (key.utf16, following) := by
  obtain ⟨units, means⟩ := exists_means_literal key
  have quotePoint : CodePoint.ofChar '"' ≠ backslash := by decide
  have quoteUnits : (CodePoint.ofChar '"').utf16 = [CodeUnit.quote] := by decide
  have shape : key.literal ++ behind = CodePoint.ofChar '"' ::
      (key.flatMap literalPoint ++ CodePoint.ofChar '"' :: behind) := by
    simp [Text.literal]
  have opened : translate (key.literal ++ behind) =
      some (CodeUnit.quote :: (units ++ CodeUnit.quote :: following)) := by
    rw [shape, translate_cons_of_ne quotePoint, means.translated, translate_cons_of_ne quotePoint,
      translated, quoteUnits]
    rfl
  have noBlock : [CodeUnit.quote, CodeUnit.quote].isPrefixOf
      (units ++ CodeUnit.quote :: following) = false := by
    cases units with
    | nil =>
      cases following with
      | nil => rfl
      | cons unit rest =>
        rw [List.head?_cons, ne_eq, Option.some.injEq] at unquoted
        simp [List.isPrefixOf, Ne.symm unquoted]
    | cons unit rest =>
      have first := means.unquoted
      rw [List.head?_cons, ne_eq, Option.some.injEq] at first
      simp [List.isPrefixOf, Ne.symm first]
  have closed : charactersFrom 0 (units ++ CodeUnit.quote :: following) =
      some (key.utf16, following) := by
    rw [means.read]
    simp [charactersFrom]
  rw [opened, Option.bind_some, stringLiteral?, noBlock]
  simpa using closed

theorem literal_printable (key : Text) :
    ∀ c ∈ key.literal, 0x20 ≤ c.val ∧ c.val ≤ 0x7E := by
  obtain ⟨units, means⟩ := exists_means_literal key
  have quote : 0x20 ≤ (CodePoint.ofChar '"').val ∧ (CodePoint.ofChar '"').val ≤ 0x7E := by decide
  intro c member
  simp only [Text.literal, List.cons_append, List.mem_cons, List.mem_append, List.not_mem_nil,
    or_false] at member
  rcases member with rfl | member | rfl
  · exact quote
  · exact means.printable c member
  · exact quote

theorem translate_append_of_plain {t : Text} (plain : ∀ c ∈ t, c ≠ backslash) (rest : Text) :
    translate (t ++ rest) = (translate rest).map (t.utf16 ++ ·) := by
  induction t with
  | nil => simp [Text.utf16]
  | cons c t ih =>
    rw [List.forall_mem_cons] at plain
    rw [List.cons_append, translate_cons_of_ne plain.1, ih plain.2]
    simp [Text.utf16, Function.comp_def]

/-! ## Annotations -/

def annotationOpening : Text := "@JsonProperty("

/-- The name of the property in an annotation that stands alone on a line. -/
def propertyName? (line : Text) : Option (List CodeUnit) :=
  match translate line with
  | none => none
  | some units =>
    if annotationOpening.utf16.isPrefixOf units then
      match stringLiteral? (units.drop annotationOpening.utf16.length) with
      | none => none
      | some (name, behind) => if behind = Text.utf16 ")" then some name else none
    else none

theorem annotationOpening_plain : ∀ c ∈ annotationOpening, c ≠ backslash := by
  have plain : (annotationOpening.all fun c => decide (c ≠ backslash)) = true := by decide
  intro c member
  exact of_decide_eq_true (List.all_eq_true.mp plain c member)

theorem propertyName?_literal (key : Text) :
    propertyName? (annotationOpening ++ (key.literal ++ ")")) = some key.utf16 := by
  have closing : translate ")" = some (Text.utf16 ")") := rfl
  have unquoted : (Text.utf16 ")").head? ≠ some CodeUnit.quote := by decide
  have literal := stringLiteral?_literal key ")" closing unquoted
  obtain ⟨units, translated, read⟩ := Option.bind_eq_some_iff.mp literal
  have opened := translate_append_of_plain annotationOpening_plain (key.literal ++ ")")
  rw [translated, Option.map_some] at opened
  have begins : annotationOpening.utf16.isPrefixOf (annotationOpening.utf16 ++ units) = true :=
    List.isPrefixOf_iff_prefix.mpr (List.prefix_append _ _)
  simp only [propertyName?, opened, begins, List.drop_left, read, if_true]

/-- The name of the property that a field is annotated with. -/
def FieldModel.property? (field : FieldModel) (style : Style) : Option (List CodeUnit) :=
  (fieldLines style field).head?.bind propertyName?

/-- In every class of a tree, each field has a key literal of printable ASCII that is read whole as
a string literal and denotes the key of the field, and its annotation names the property of that
key; so fields whose keys differ are annotated with different names. -/
theorem keyLiterals_denote_keys (lombok : Bool) (spec : ClassSpec) (model : ClassModel)
    (modelled : classModel lombok spec = .ok model) :
    List.Forall₂ (fun (cls : ClassSpec) (classModel : ClassModel) =>
      List.Forall₂ (fun (field : Field) (fieldModel : FieldModel) =>
        (∀ c ∈ fieldModel.keyLiteral, 0x20 ≤ c.val ∧ c.val ≤ 0x7E) ∧
        (translate fieldModel.keyLiteral).bind stringLiteral? = some (field.jsonName.utf16, []) ∧
        fieldModel.property? ⟨lombok, true⟩ = some field.jsonName.utf16)
        cls.fields classModel.fields ∧
      ∀ one ∈ cls.fields.zip classModel.fields, ∀ other ∈ cls.fields.zip classModel.fields,
        one.1.jsonName.utf16 ≠ other.1.jsonName.utf16 →
        one.2.property? ⟨lombok, true⟩ ≠ other.2.property? ⟨lombok, true⟩)
      spec.walk model.walk := by
  refine (models_walk spec model modelled).imp ?_
  intro cls classModel models
  have fields := modelsField_fieldModels cls.fields []
  rw [← models.fields] at fields
  have named : ∀ (field : Field) (fieldModel : FieldModel), ModelsField field fieldModel →
      fieldModel.property? ⟨lombok, true⟩ = some field.jsonName.utf16 := by
    intro field fieldModel modelsField
    have line : (fieldLines ⟨lombok, true⟩ fieldModel).head? =
        some (annotationOpening ++ (field.jsonName.literal ++ ")")) := by
      simp [fieldLines, annotationOpening, modelsField.keyLiteral]
    rw [FieldModel.property?, line, Option.bind_some, propertyName?_literal]
  constructor
  · refine fields.imp ?_
    intro field fieldModel modelsField
    refine ⟨?_, ?_, named field fieldModel modelsField⟩
    · rw [modelsField.keyLiteral]
      exact literal_printable field.jsonName
    · have nothing : translate [] = some [] := by simp [translate, translateFrom]
      have literal := stringLiteral?_literal field.jsonName [] nothing (by simp)
      rwa [List.append_nil, ← modelsField.keyLiteral] at literal
  · intro one first other second different
    rw [named one.1 one.2 (List.forall₂_zip fields first),
      named other.1 other.2 (List.forall₂_zip fields second)]
    intro same
    exact different (Option.some.inj same)

/-- Code points can be written as numerals. -/
local instance neZeroCodeSpace : @NeZero Nat Zero.ofOfNat0 0x110000 := ⟨by decide⟩

/-- A class with two keys: one that looks like an escape of a quote, and one of a lone surrogate, a
line feed and a code point of two units. -/
def trickySpec : ClassSpec :=
  ⟨"Tricky",
    [⟨"a", .primitive .int, "\\u0022"⟩, ⟨"b", .primitive .int, [0xD800, 0xA, 0x1F600]⟩], []⟩

def trickyFields : List FieldModel :=
  [⟨"a", Text.literal "\\u0022", "int"⟩, ⟨"b", Text.literal [0xD800, 0xA, 0x1F600], "int"⟩]

theorem trickyFields_name_keys :
    ∃ model, classModel true trickySpec = .ok model ∧ model.fields = trickyFields ∧
      (trickyFields.map fun field => (translate field.keyLiteral).bind stringLiteral?) =
        [some ([0x5C, 0x75, 0x30, 0x30, 0x32, 0x32], []),
          some ([0xD800, 0xA, 0xD83D, 0xDE00], [])] ∧
      (trickyFields.map fun field => field.property? ⟨true, true⟩) =
        [some [0x5C, 0x75, 0x30, 0x30, 0x32, 0x32], some [0xD800, 0xA, 0xD83D, 0xDE00]] := by
  have modelled : classModel true trickySpec =
      .ok ⟨"Tricky", annotationsFor true true, trickyFields, []⟩ := rfl
  have denoted := keyLiterals_denote_keys true trickySpec _ modelled
  obtain ⟨⟨fields, -⟩, -⟩ := List.forall₂_cons.mp denoted
  obtain ⟨⟨-, first, firstNamed⟩, others⟩ := List.forall₂_cons.mp fields
  obtain ⟨⟨-, second, secondNamed⟩, -⟩ := List.forall₂_cons.mp others
  refine ⟨_, modelled, rfl, ?_, ?_⟩
  · rw [trickyFields, List.map_cons, List.map_cons, first, second]
    rfl
  · rw [trickyFields, List.map_cons, List.map_cons, firstNamed, secondNamed]
    rfl

end ClassSynth.Java
