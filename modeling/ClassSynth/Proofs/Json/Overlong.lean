import Mathlib.Data.List.TakeWhile
import ClassSynth.Proofs.Json.Plain

/-!
# Integers too long to be held

An integer of more digits than the limit is a failure of its own: the text may be JSON, and yet
nothing is read from it.  Only such an integer leads to that failure, and a text that is one always
does.
-/

set_option autoImplicit false

namespace ClassSynth.Json

/-- A step meets an overlong integer only in its lexeme. -/
theorem State.lexeme_of_step {position digits : Nat} {lexeme : Lexeme} {state : State}
    (refused : state.step position lexeme = .error (.overlongInteger digits)) :
    lexeme = .overlongInteger digits := by
  have entered : ∀ container frames, enter container frames ≠ .error (.overlongInteger digits) := by
    intro container frames
    unfold enter
    split
    · simp
    · cases container <;> simp
  have valued : ∀ frames, takeValue position frames lexeme = .error (.overlongInteger digits) →
      lexeme = .overlongInteger digits := by
    intro frames taken
    cases lexeme with
    | beginArray => exact absurd taken (entered _ _)
    | beginObject => exact absurd taken (entered _ _)
    | overlongInteger other =>
      cases taken
      rfl
    | _ => cases taken
  have keyed : ∀ members frames,
      takeKey position members frames lexeme ≠ .error (.overlongInteger digits) := by
    intro members frames
    cases lexeme <;> simp [takeKey]
  cases state with
  | value frames => exact valued frames refused
  | firstItem frames =>
    simp only [step] at refused
    split at refused
    · cases refused
    · exact valued _ refused
  | firstKey frames =>
    simp only [step] at refused
    split at refused
    · cases refused
    · exact absurd refused (keyed _ _)
  | key members frames => exact absurd refused (keyed members frames)
  | colon members name frames =>
    simp only [step] at refused
    split at refused <;> cases refused
  | afterItem items frames =>
    simp only [step] at refused
    split at refused <;> cases refused
  | afterMember members frames =>
    simp only [step] at refused
    split at refused <;> cases refused
  | finished document => cases refused

theorem limit_lt_of_readFrom {digits : Nat} : (source : Text) → (skip position : Nat) →
    (state : State) → readFrom skip position state source = .error (.overlongInteger digits) →
    integerDigitLimit < digits
  | [], skip, position, state, refused => by
    have finished : state.finish position = .error (.overlongInteger digits) := by
      cases skip <;> exact refused
    cases state <;> cases finished
  | _ :: rest, skip + 1, position, state, refused =>
    limit_lt_of_readFrom rest skip (position + 1) state refused
  | c :: rest, 0, position, state, refused => by
    unfold readFrom at refused
    split at refused
    · exact limit_lt_of_readFrom rest 0 (position + 1) state refused
    · simp only at refused
      cases taken : state.step position (lexemeAt position c rest).lexeme with
      | error failure =>
        simp only [taken, Except.error.injEq] at refused
        subst refused
        -- Steps add no such failure of their own, so it comes with the lexeme and its promise.
        have lawful := isLawful_lexemeAt position c rest
        rw [State.lexeme_of_step taken] at lawful
        exact lawful
      | ok next =>
        simp only [taken] at refused
        exact limit_lt_of_readFrom rest _ (position + 1) next refused

theorem limit_lt_of_read {source : Text} {digits : Nat}
    (refused : read source = .error (.overlongInteger digits)) : integerDigitLimit < digits := by
  unfold read at refused
  simp only at refused
  split at refused
  · cases refused
  · cases outcome : readFrom 0 0 (.value []) source with
    | ok document =>
      rw [outcome] at refused
      cases refused
    | error failure =>
      rw [outcome] at refused
      cases failure with
      | overlongInteger other =>
        cases refused
        exact limit_lt_of_readFrom source 0 0 (.value []) outcome
      | _ => cases refused

/-! ## Texts of digits -/

theorem ne_of_isAsciiDigit {c other : CodePoint} (digit : c.isAsciiDigit = true)
    (noDigit : other.isAsciiDigit = false) : c ≠ other := by
  rintro rfl
  rw [digit] at noDigit
  cases noDigit

theorem wordValues_find?_of_digit {c : CodePoint} (digit : c.isAsciiDigit = true) (rest : Text) :
    (wordValues.find? fun word => Text.startsWith (c :: rest) word.1) = none := by
  have words : ∀ word ∈ wordValues, ∃ first others, word.1 = first :: others ∧
      first.isAsciiDigit = false := by
    simp only [wordValues, List.forall_mem_cons]
    exact ⟨⟨_, _, rfl, rfl⟩, ⟨_, _, rfl, rfl⟩, ⟨_, _, rfl, rfl⟩, ⟨_, _, rfl, rfl⟩, ⟨_, _, rfl, rfl⟩,
      ⟨_, _, rfl, rfl⟩, by simp⟩
  rw [List.find?_eq_none]
  intro word member
  obtain ⟨first, others, shape, noDigit⟩ := words word member
  simp [Text.startsWith, shape, (ne_of_isAsciiDigit digit noDigit).symm]

theorem numberLexeme?_of_digits {c : CodePoint} {rest : Text} (nonzero : c ≠ CodePoint.ofChar '0')
    (digits : ∀ other ∈ c :: rest, other.isAsciiDigit = true)
    (long : integerDigitLimit < (c :: rest).length) :
    numberLexeme? false (c :: rest) = some ⟨.overlongInteger (c :: rest).length, rest.length⟩ := by
  have whole : integerPart (c :: rest) = c :: rest := by
    rw [integerPart, if_neg nonzero, leadingDigits]
    exact List.takeWhile_eq_self_iff.mpr digits
  rw [List.length_cons] at long
  unfold numberLexeme?
  simp only [whole, List.drop_length]
  simp [fractionPart, exponentPart, long]

/-- A text that is one integer of too many digits is refused for them. -/
theorem read_of_digits {c : CodePoint} {rest : Text} (nonzero : c ≠ CodePoint.ofChar '0')
    (digits : ∀ other ∈ c :: rest, other.isAsciiDigit = true)
    (long : integerDigitLimit < (c :: rest).length) :
    read (c :: rest) = .error (.overlongInteger (c :: rest).length) := by
  have digit := digits c List.mem_cons_self
  have other : ∀ mark : CodePoint, mark.isAsciiDigit = false → c ≠ mark :=
    fun mark => ne_of_isAsciiDigit digit
  have noMark : some c ≠ some byteOrderMark := by
    intro same
    exact other byteOrderMark (by decide) (Option.some.inj same)
  have noBlank : isBlank c = false := by
    simp only [CodePoint.isAsciiDigit, CodePoint.isBetween, Bool.and_eq_true,
      decide_eq_true_eq] at digit
    have low : '0'.toNat = 48 := rfl
    simp only [isBlank, Bool.or_eq_false_iff, decide_eq_false_iff_not]
    omega
  have lexed : lexemeAt 0 c rest = ⟨.overlongInteger (c :: rest).length, rest.length⟩ := by
    unfold lexemeAt
    rw [if_neg (other _ (by decide)), if_neg (other _ (by decide)), if_neg (other _ (by decide)),
      if_neg (other _ (by decide)), if_neg (other _ (by decide)), if_neg (other _ (by decide)),
      if_neg (other _ (by decide)), wordValues_find?_of_digit digit]
    simp only [if_neg (other (CodePoint.ofChar '-') (by decide)), digit, if_true,
      numberLexeme?_of_digits nonzero digits long, Option.getD_some]
  have failure : readFrom 0 0 (.value []) (c :: rest) =
      .error (.overlongInteger (c :: rest).length) := by
    simp [readFrom, noBlank, lexed, State.step, State.takeValue]
  simp only [read, List.head?_cons, if_neg noMark, failure]
  rfl

end ClassSynth.Json
