import ClassSynth.Proofs.Java.Hiding

/-!
# Names that are not reserved

A reserved word begins with a lower-case letter and goes on with such letters, but for the single
underscore.  A class named after a file begins with no lower-case letter, and a nested class has a
name that goes on with something else, so neither is reserved.  Only a reserved name keeps a class
tree from having a class model.
-/

set_option autoImplicit false

namespace ClassSynth

/-- Whether a text begins with something else than a lower-case letter, or not at all. -/
def Text.StartsHigh (t : Text) : Prop := ∀ c ∈ t.head?, c.isAsciiLower = false

/-! ## Upper case -/

/-- No exception and no run of the table leads to a lower-case letter. -/
theorem upperCaseMap_avoids_lower :
    (upperCaseMap.exceptions.all fun entry =>
      !entry.2.isEmpty && entry.2.all fun n => !(CodePoint.ofNumber n).isAsciiLower) = true ∧
    (upperCaseMap.runs.all fun run =>
      decide (run.last + run.shift < 0x61) ||
        decide (0x7A < run.first + run.shift ∧ run.last + run.shift < 0x110000)) = true := by
  decide +kernel

theorem CodePoint.isAsciiLower_eq_false_iff (c : CodePoint) :
    c.isAsciiLower = false ↔ c.val < 0x61 ∨ 0x7A < c.val := by
  have letters : 'a'.toNat = 0x61 ∧ 'z'.toNat = 0x7A := by decide
  rw [isAsciiLower, isBetween, letters.1, letters.2, Bool.and_eq_false_iff,
    decide_eq_false_iff_not, decide_eq_false_iff_not, Nat.not_le, Nat.not_le]

theorem CaseRun.isAsciiLower_eq_false {run : CaseRun} {c : CodePoint} (moved : run.moves c = true)
    (avoids : run.last + run.shift < 0x61 ∨
      0x7A < run.first + run.shift ∧ run.last + run.shift < 0x110000) :
    (CodePoint.ofNumber (c.val + run.shift).toNat).isAsciiLower = false := by
  simp only [moves, Bool.and_eq_true, decide_eq_true_eq] at moved
  obtain ⟨⟨low, high⟩, -⟩ := moved
  rw [CodePoint.isAsciiLower_eq_false_iff]
  change (c.val + run.shift).toNat % 0x110000 < 0x61 ∨ 0x7A < (c.val + run.shift).toNat % 0x110000
  rcases avoids with below | ⟨above, within⟩
  · left
    omega
  · right
    omega

/-- Upper case begins with something, and not with a lower-case letter. -/
theorem CodePoint.exists_toUpper (c : CodePoint) :
    ∃ first rest, c.toUpper = first :: rest ∧ first.isAsciiLower = false := by
  obtain ⟨exceptions, runs⟩ := upperCaseMap_avoids_lower
  cases ascii : c.isAscii with
  | true =>
    cases lower : c.isAsciiLower with
    | true =>
      refine ⟨_, [], by rw [toUpper, if_pos ascii, if_pos lower], ?_⟩
      exact isAsciiLower_of_isAsciiUpper (isAsciiUpper_of_isAsciiLower lower)
    | false => exact ⟨c, [], by rw [toUpper, if_pos ascii, lower, if_neg Bool.false_ne_true], lower⟩
  | false =>
    rw [toUpper, ascii, if_neg Bool.false_ne_true, CaseMap.apply]
    split
    · next entry found =>
      have avoids := List.all_eq_true.mp exceptions entry (List.mem_of_find?_eq_some found)
      rw [Bool.and_eq_true, List.all_eq_true] at avoids
      cases points : entry.2 with
      | nil => simp [points] at avoids
      | cons n others =>
        refine ⟨_, _, List.map_cons, ?_⟩
        simpa using avoids.2 n (points ▸ List.mem_cons_self)
    · split
      · next run found =>
        have avoids := List.all_eq_true.mp runs run (List.mem_of_find?_eq_some found)
        rw [Bool.or_eq_true, decide_eq_true_eq, decide_eq_true_eq] at avoids
        exact ⟨_, [], rfl, run.isAsciiLower_eq_false (by simpa using List.find?_some found) avoids⟩
      · refine ⟨c, [], rfl, ?_⟩
        rw [isAscii, decide_eq_false_iff_not] at ascii
        rw [isAsciiLower_eq_false_iff]
        omega

/-! ## Names of files -/

theorem Text.startsHigh_flatMap_capitalizeFirst {words : List Text}
    (nonempty : ∀ word ∈ words, word ≠ []) : StartsHigh (words.flatMap capitalizeFirst) := by
  cases words with
  | nil => simp [StartsHigh]
  | cons word rest =>
    cases word with
    | nil => exact absurd rfl (nonempty [] List.mem_cons_self)
    | cons c others =>
      obtain ⟨first, behind, upper, high⟩ := c.exists_toUpper
      simp [StartsHigh, capitalizeFirst, upper, high]

theorem Text.startsHigh_sanitizeOr {fallback t : Text} (plain : fallback.StartsHigh)
    (high : t.StartsHigh) : (sanitizeOr fallback t).StartsHigh := by
  have noLower : underscore.isAsciiLower = false := by decide
  cases t with
  | nil => exact plain
  | cons c rest =>
    have first : c.isAsciiLower = false := high c rfl
    have kept : (if c.isIdentifierPart then c else underscore).isAsciiLower = false := by
      split
      · exact first
      · exact noLower
    rw [sanitizeOr, List.map_cons]
    generalize (if c.isIdentifierPart then c else underscore) = written at kept ⊢
    cases digit : written.isAsciiDigit with
    | true => simpa [digit, StartsHigh] using noLower
    | false => simpa [digit, StartsHigh] using kept

theorem ClassName.startsHigh_ofFile (path : Text) : (ClassName.ofFile path).StartsHigh := by
  have plain : ClassName.fallback.StartsHigh := by
    rintro c ⟨⟩
    decide
  unfold ClassName.ofFile
  simp only
  split
  · refine Text.startsHigh_sanitizeOr plain (Text.startsHigh_flatMap_capitalizeFirst ?_)
    intro word listed
    simpa using (List.mem_filter.mp listed).2
  · exact plain

theorem ClassName.ofFile_ne_underscore (path : Text) : ClassName.ofFile path ≠ [underscore] := by
  unfold ClassName.ofFile
  simp only
  split
  · next named =>
    intro same
    rw [same] at named
    exact absurd named (by decide)
  · decide

/-! ## Reserved words -/

namespace Java

theorem isReservedWord_of_isCompound {name : Text} (compound : IsCompound name) :
    isReservedWord name = false := by
  have lower : (reservedWords.all fun word => word.tail.all CodePoint.isAsciiLower) = true := by
    decide +kernel
  rw [Bool.eq_false_iff, isReservedWord, ne_eq, List.contains_iff_mem]
  intro reserved
  exact not_isCompound_of_tail (List.all_eq_true.mp lower name reserved) compound

theorem isReservedWord_ofFile (path : Text) : isReservedWord (ClassName.ofFile path) = false := by
  have low : (reservedWords.all fun word => decide (word = [underscore]) ||
      word.head?.any CodePoint.isAsciiLower) = true := by
    decide +kernel
  have high := ClassName.startsHigh_ofFile path
  rw [Bool.eq_false_iff, isReservedWord, ne_eq, List.contains_iff_mem]
  intro reserved
  have shape := List.all_eq_true.mp low _ reserved
  rw [Bool.or_eq_true, decide_eq_true_eq, Option.any_eq_true] at shape
  rcases shape with same | ⟨c, first, lower⟩
  · exact ClassName.ofFile_ne_underscore path same
  · rw [high c first] at lower
    cases lower

/-! ## Models -/

variable {lombok : Bool}

mutual

/-- There is a model of a class tree in which no name is reserved. -/
theorem exists_classModel : (spec : ClassSpec) →
    (∀ inner ∈ spec.walk, isReservedWord inner.name = false) →
    ∃ model, classModel lombok spec = .ok model
  | ⟨name, fields, nested⟩, unreserved => by
    rw [ClassOver.walk] at unreserved
    obtain ⟨root, below⟩ := List.forall_mem_cons.mp unreserved
    obtain ⟨models, modelled⟩ := exists_classModels nested below
    exact ⟨_, by rw [classModel, root, if_neg Bool.false_ne_true, modelled]⟩

theorem exists_classModels : (specs : List ClassSpec) →
    (∀ inner ∈ ClassOver.walkAll specs, isReservedWord inner.name = false) →
    ∃ models, classModels lombok specs = .ok models
  | [], _ => ⟨[], rfl⟩
  | spec :: rest, unreserved => by
    rw [ClassOver.walkAll, List.forall_mem_append] at unreserved
    obtain ⟨model, first⟩ := exists_classModel spec unreserved.1
    obtain ⟨models, later⟩ := exists_classModels rest unreserved.2
    exact ⟨model :: models, by rw [classModels, first, later]⟩

end

end Java

end ClassSynth
