import ClassSynth.Identifier

/-!
# Names are identifiers

Whatever text is sanitized, an identifier comes out, and so the class name of a file is always one;
what is an identifier already stays as it is.
A name put together from identifiers holds nothing but their code points, and where it goes on with
a capitalized one, no lower-case letter stands there.
-/

set_option autoImplicit false

namespace ClassSynth

theorem CodePoint.isIdentifierPart_underscore : CodePoint.isIdentifierPart underscore = true := by
  decide

theorem CodePoint.isIdentifierStart_of_part {c : CodePoint} (part : c.isIdentifierPart = true)
    (noDigit : c.isAsciiDigit = false) : c.isIdentifierStart = true := by
  simpa [isIdentifierPart, noDigit] using part

theorem Text.isIdentifier_sanitizeOr {fallback : Text} (identifier : fallback.isIdentifier = true)
    (t : Text) : (sanitizeOr fallback t).isIdentifier = true := by
  have parts : ∀ c ∈ t.map (fun c => if c.isIdentifierPart then c else underscore),
      c.isIdentifierPart = true := by
    intro c member
    obtain ⟨original, -, rfl⟩ := List.mem_map.mp member
    split
    · assumption
    · exact CodePoint.isIdentifierPart_underscore
  unfold sanitizeOr
  cases mapped : t.map (fun c => if c.isIdentifierPart then c else underscore) with
  | nil => exact identifier
  | cons first rest =>
    rw [mapped] at parts
    have restParts : rest.all CodePoint.isIdentifierPart = true :=
      List.all_eq_true.mpr fun c member => parts c (List.mem_cons_of_mem _ member)
    have firstPart := parts first List.mem_cons_self
    simp only
    cases digit : first.isAsciiDigit with
    | true =>
      have start : CodePoint.isIdentifierStart underscore = true := by decide
      simp [isIdentifier, start, firstPart, restParts]
    | false =>
      have start := CodePoint.isIdentifierStart_of_part firstPart digit
      simp [isIdentifier, start, restParts]

theorem ClassName.isIdentifier_ofFile (path : Text) :
    (ClassName.ofFile path).isIdentifier = true := by
  have plain : ClassName.fallback.isIdentifier = true := by decide
  unfold ClassName.ofFile
  simp only
  split
  · exact Text.isIdentifier_sanitizeOr plain _
  · exact plain

/-! ## Words -/

/-- Whether a text holds code points of identifiers only. -/
def Text.IsWord (t : Text) : Prop := ∀ c ∈ t, c.isIdentifierPart = true

theorem Text.isWord_append_iff (first second : Text) :
    IsWord (first ++ second) ↔ first.IsWord ∧ second.IsWord :=
  List.forall_mem_append

theorem Text.isWord_of_isIdentifier {t : Text} (identifier : t.isIdentifier = true) : t.IsWord := by
  cases t with
  | nil => simp [isIdentifier] at identifier
  | cons c rest =>
    rw [isIdentifier, Bool.and_eq_true, List.all_eq_true] at identifier
    refine List.forall_mem_cons.mpr ⟨?_, identifier.2⟩
    simp [CodePoint.isIdentifierPart, identifier.1]

/-- Whether a text can stand behind a word without making it longer. -/
def Text.EndsWord (behind : Text) : Prop := ∀ c ∈ behind.head?, c.isIdentifierPart = false

theorem Text.endsWord_cons {c : CodePoint} (noPart : c.isIdentifierPart = false) (rest : Text) :
    EndsWord (c :: rest) := by
  intro first begins
  cases begins
  exact noPart

theorem Text.takeWhile_word_append {word behind : Text} (isWord : word.IsWord)
    (ends : behind.EndsWord) : (word ++ behind).takeWhile CodePoint.isIdentifierPart = word := by
  have stops : behind.takeWhile CodePoint.isIdentifierPart = [] := by
    cases behind with
    | nil => rfl
    | cons c rest =>
      have noPart := ends c rfl
      simp [noPart]
  rw [List.takeWhile_append_of_pos isWord, stops, List.append_nil]

/-- The word that a text begins with is known from the text. -/
theorem Text.eq_of_word_append_eq {word word' behind behind' : Text} (isWord : word.IsWord)
    (isWord' : word'.IsWord) (ends : behind.EndsWord) (ends' : behind'.EndsWord)
    (same : word ++ behind = word' ++ behind') : word = word' ∧ behind = behind' := by
  have front : word = word' := by
    rw [← takeWhile_word_append isWord ends, same, takeWhile_word_append isWord' ends']
  subst front
  exact ⟨rfl, List.append_cancel_left same⟩

theorem Text.isIdentifier_append {first second : Text} (identifier : first.isIdentifier = true)
    (word : second.IsWord) : Text.isIdentifier (first ++ second) = true := by
  cases first with
  | nil => cases identifier
  | cons c rest =>
    rw [isIdentifier, Bool.and_eq_true] at identifier
    have later := List.all_eq_true.mpr word
    rw [List.cons_append, isIdentifier, List.all_append, identifier.1, identifier.2, later]
    rfl

theorem Text.isIdentifier_sanitize (t : Text) : t.sanitize.isIdentifier = true :=
  isIdentifier_sanitizeOr (by decide) t

theorem Text.isWord_sanitize (t : Text) : t.sanitize.IsWord :=
  isWord_of_isIdentifier t.isIdentifier_sanitize

theorem CodePoint.isAsciiDigit_of_isIdentifierStart {c : CodePoint}
    (start : c.isIdentifierStart = true) : c.isAsciiDigit = false := by
  have letters : 'A'.toNat = 65 ∧ 'a'.toNat = 97 ∧ '9'.toNat = 57 := by decide
  simp only [isIdentifierStart, isAsciiLetter, isAsciiUpper, isAsciiLower, isBetween,
    Bool.or_eq_true, Bool.and_eq_true, decide_eq_true_eq] at start
  rw [isAsciiDigit, isBetween, Bool.and_eq_false_iff, decide_eq_false_iff_not,
    decide_eq_false_iff_not]
  right
  rcases start with (⟨low, -⟩ | ⟨low, -⟩) | rfl
  · omega
  · omega
  · decide

/-- What is an identifier already stays as it is. -/
theorem Text.sanitize_of_isIdentifier {t : Text} (identifier : t.isIdentifier = true) :
    t.sanitize = t := by
  have kept : (t.map fun c => if c.isIdentifierPart then c else underscore) = t.map id := by
    apply List.map_congr_left
    intro c present
    exact if_pos (isWord_of_isIdentifier identifier c present)
  rw [sanitize, sanitizeOr, kept, List.map_id]
  cases t with
  | nil => cases identifier
  | cons c rest =>
    rw [isIdentifier, Bool.and_eq_true] at identifier
    have noDigit := CodePoint.isAsciiDigit_of_isIdentifierStart identifier.1
    simp only [noDigit, Bool.false_eq_true, if_false]

theorem CodePoint.isAscii_of_isIdentifierPart {c : CodePoint} (part : c.isIdentifierPart = true) :
    c.isAscii = true := by
  simp only [isIdentifierPart, isIdentifierStart, isAsciiLetter, isAsciiUpper, isAsciiLower,
    isAsciiDigit, isBetween, Bool.or_eq_true, Bool.and_eq_true, decide_eq_true_eq] at part
  rw [isAscii, decide_eq_true_eq]
  rcases part with ((⟨-, high⟩ | ⟨-, high⟩) | rfl) | ⟨-, high⟩
  · exact Nat.lt_of_le_of_lt high (by decide)
  · exact Nat.lt_of_le_of_lt high (by decide)
  · decide
  · exact Nat.lt_of_le_of_lt high (by decide)

theorem CodePoint.isAsciiUpper_of_isAsciiLower {c : CodePoint} (lower : c.isAsciiLower = true) :
    (ofNumber (c.val - 32)).isAsciiUpper = true := by
  have letters : 'a'.toNat = 97 ∧ 'z'.toNat = 122 ∧ 'A'.toNat = 65 ∧ 'Z'.toNat = 90 := by decide
  have value : (ofNumber (c.val - 32)).val = (c.val - 32) % 0x110000 := rfl
  simp only [isAsciiLower, isAsciiUpper, isBetween, Bool.and_eq_true, decide_eq_true_eq,
    value] at lower ⊢
  omega

theorem CodePoint.isAsciiLower_of_isAsciiUpper {c : CodePoint} (upper : c.isAsciiUpper = true) :
    c.isAsciiLower = false := by
  have letters : 'a'.toNat = 97 ∧ 'Z'.toNat = 90 := by decide
  simp only [isAsciiLower, isAsciiUpper, isBetween, Bool.and_eq_true, decide_eq_true_eq,
    Bool.and_eq_false_iff, decide_eq_false_iff_not] at upper ⊢
  omega

theorem CodePoint.toUpper_of_isIdentifierPart {c : CodePoint} (part : c.isIdentifierPart = true) :
    ∃ upper, c.toUpper = [upper] ∧ upper.isIdentifierPart = true ∧ upper.isAsciiLower = false := by
  rw [toUpper, if_pos (isAscii_of_isIdentifierPart part)]
  cases lower : c.isAsciiLower with
  | true =>
    have upper := isAsciiUpper_of_isAsciiLower lower
    refine ⟨_, rfl, ?_, isAsciiLower_of_isAsciiUpper upper⟩
    simp [isIdentifierPart, isIdentifierStart, isAsciiLetter, upper]
  | false => exact ⟨c, rfl, part, lower⟩

theorem Text.isWord_capitalizeFirst {t : Text} (word : t.IsWord) : t.capitalizeFirst.IsWord := by
  cases t with
  | nil => exact word
  | cons c rest =>
    obtain ⟨first, later⟩ := List.forall_mem_cons.mp word
    obtain ⟨upper, capital, part, -⟩ := CodePoint.toUpper_of_isIdentifierPart first
    rw [capitalizeFirst, capital]
    exact List.forall_mem_cons.mpr ⟨part, later⟩

theorem Text.exists_capitalizeFirst_sanitize (t : Text) :
    ∃ c rest, t.sanitize.capitalizeFirst = c :: rest ∧ c.isAsciiLower = false := by
  have identifier := t.isIdentifier_sanitize
  have word := t.isWord_sanitize
  cases sanitized : t.sanitize with
  | nil => simp [sanitized, isIdentifier] at identifier
  | cons c rest =>
    rw [sanitized] at word
    obtain ⟨upper, capital, -, noLower⟩ :=
      CodePoint.toUpper_of_isIdentifierPart (word c List.mem_cons_self)
    exact ⟨upper, rest, by rw [capitalizeFirst, capital]; rfl, noLower⟩

end ClassSynth
