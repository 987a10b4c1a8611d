import ClassSynth.Proofs.Text.Hexadecimal
import ClassSynth.Text.Printable

/-!
# Reading quoted text

Each code point can be told from what is written for it, and nothing that is written for one begins
with the quote.  So a quoted text is known from any text that begins with it, and so is its end.
-/

set_option autoImplicit false

namespace ClassSynth.Text

/-! ## What is written for a code point -/

def controlLetters : List (CodePoint × CodePoint) :=
  [(CodePoint.ofChar 't', CodePoint.ofChar '\t'), (CodePoint.ofChar 'n', CodePoint.ofChar '\n'),
    (CodePoint.ofChar 'r', CodePoint.ofChar '\r')]

/-- The letters that come before a number behind a backslash, with how many digits follow its
first. -/
def numberLetters : List (CodePoint × Nat) :=
  [(CodePoint.ofChar 'x', 1), (CodePoint.ofChar 'u', 3), (CodePoint.ofChar 'U', 7)]

/-- What may be written for a code point in a text between quotes. -/
inductive WritesPoint (quote c : CodePoint) : Text → Prop where
  | marked (mark : c = quote ∨ c = backslash) : WritesPoint quote c [backslash, c]
  | lettered (letter : CodePoint) (listed : (letter, c) ∈ controlLetters) :
      WritesPoint quote c [backslash, letter]
  | plain (noQuote : c ≠ quote) (noBackslash : c ≠ backslash) : WritesPoint quote c [c]
  | numbered (letter : CodePoint) (width : Nat) (listed : (letter, width) ∈ numberLetters)
      (fits : c.val < 16 ^ (width + 1)) :
      WritesPoint quote c (backslash :: letter :: ofHex (width + 1) c.val)

theorem writesPoint_quotePoint (quote c : CodePoint) :
    WritesPoint quote c (quotePoint quote c) := by
  have bound := c.isLt
  unfold quotePoint
  by_cases mark : c = quote ∨ c = backslash
  · rw [if_pos (by simpa using mark)]
    exact .marked mark
  · rw [if_neg (by simpa using mark)]
    rw [not_or] at mark
    split
    · subst c
      exact .lettered (CodePoint.ofChar 't') (by decide)
    split
    · subst c
      exact .lettered (CodePoint.ofChar 'n') (by decide)
    split
    · subst c
      exact .lettered (CodePoint.ofChar 'r') (by decide)
    split
    · exact .plain mark.1 mark.2
    split
    · exact .numbered (CodePoint.ofChar 'x') 1 (by decide) (by omega)
    split
    · exact .numbered (CodePoint.ofChar 'u') 3 (by decide) (by omega)
    · exact .numbered (CodePoint.ofChar 'U') 7 (by decide) (by omega)

/-! ## Reading code points -/

/-- The code point that a backslash and a letter stand for, with the digits behind them. -/
def escapedPoint (letter : CodePoint) (behind : Text) : CodePoint :=
  match controlLetters.lookup letter, numberLetters.lookup letter with
  | some c, _ => c
  | none, some width => CodePoint.ofNumber (hexNumber (behind.take (width + 1)))
  | none, none => letter

/-- The code point that is written first in a quoted text, behind its quote. -/
def firstPoint? : Text → Option CodePoint
  | [] => none
  | [c] => some c
  | c :: letter :: behind => if c = backslash then some (escapedPoint letter behind) else some c

theorem escapedPoint_of_mark {mark : CodePoint}
    (listed : mark ∈ [singleQuote, doubleQuote, backslash]) (behind : Text) :
    escapedPoint mark behind = mark := by
  simp only [List.mem_cons, List.not_mem_nil, or_false] at listed
  rcases listed with rfl | rfl | rfl <;> rfl

theorem escapedPoint_of_mem_controlLetters {letter c : CodePoint}
    (listed : (letter, c) ∈ controlLetters) (behind : Text) : escapedPoint letter behind = c := by
  simp only [controlLetters, List.mem_cons, List.not_mem_nil, or_false, Prod.mk.injEq] at listed
  rcases listed with ⟨rfl, rfl⟩ | ⟨rfl, rfl⟩ | ⟨rfl, rfl⟩ <;> rfl

theorem escapedPoint_of_mem_numberLetters {letter : CodePoint} {width : Nat}
    (listed : (letter, width) ∈ numberLetters) (behind : Text) : escapedPoint letter behind =
      CodePoint.ofNumber (hexNumber (behind.take (width + 1))) := by
  simp only [numberLetters, List.mem_cons, List.not_mem_nil, or_false, Prod.mk.injEq] at listed
  rcases listed with ⟨rfl, rfl⟩ | ⟨rfl, rfl⟩ | ⟨rfl, rfl⟩ <;> rfl

variable {quote : CodePoint} (isQuote : quote = singleQuote ∨ quote = doubleQuote)

include isQuote

/-- A code point can be read off what is written for it, whatever follows. -/
theorem WritesPoint.firstPoint?_append {c : CodePoint} {written : Text}
    (writes : WritesPoint quote c written) (rest : Text) :
    firstPoint? (written ++ rest) = some c := by
  cases writes with
  | marked mark =>
    have listed : c ∈ [singleQuote, doubleQuote, backslash] := by
      rcases mark with rfl | rfl
      · rcases isQuote with rfl | rfl <;> decide
      · decide
    exact congrArg some (escapedPoint_of_mark listed rest)
  | lettered letter listed => exact congrArg some (escapedPoint_of_mem_controlLetters listed rest)
  | plain noQuote noBackslash =>
    cases rest with
    | nil => rfl
    | cons letter behind => exact if_neg noBackslash
  | numbered letter width listed fits =>
    have digits : (ofHex (width + 1) c.val ++ rest).take (width + 1) = ofHex (width + 1) c.val :=
      List.take_left' (length_ofHex width fits)
    have point : CodePoint.ofNumber c.val = c := Fin.ext (Nat.mod_eq_of_lt c.isLt)
    have number := escapedPoint_of_mem_numberLetters listed (ofHex (width + 1) c.val ++ rest)
    rw [digits, hexNumber_ofHex width fits, point] at number
    exact congrArg some number

theorem WritesPoint.head?_ne {c : CodePoint} {written : Text}
    (writes : WritesPoint quote c written) (rest : Text) :
    (written ++ rest).head? ≠ some quote := by
  have unescaped : backslash ≠ quote := by rcases isQuote with rfl | rfl <;> decide
  intro begins
  cases writes with
  | marked mark => exact unescaped (Option.some.inj begins)
  | lettered letter listed => exact unescaped (Option.some.inj begins)
  | plain noQuote noBackslash => exact noQuote (Option.some.inj begins)
  | numbered letter width listed fits => exact unescaped (Option.some.inj begins)

/-- The text up to the closing quote is known, and so is what stands behind it. -/
theorem eq_of_flatMap_quotePoint_eq {t t' rest rest' : Text}
    (same : t.flatMap (quotePoint quote) ++ quote :: rest =
      t'.flatMap (quotePoint quote) ++ quote :: rest') : t = t' ∧ rest = rest' := by
  have apart : ∀ c (more behind : Text), quote :: behind ≠ quotePoint quote c ++ more := by
    intro c more behind closes
    apply (writesPoint_quotePoint quote c).head?_ne isQuote more
    rw [← closes, List.head?_cons]
  induction t generalizing t' with
  | nil =>
    cases t' with
    | nil => exact ⟨rfl, (List.cons.inj same).2⟩
    | cons c more =>
      rw [List.flatMap_nil, List.nil_append, List.flatMap_cons, List.append_assoc] at same
      exact absurd same (apart c _ _)
  | cons c more ih =>
    cases t' with
    | nil =>
      rw [List.flatMap_nil, List.nil_append, List.flatMap_cons, List.append_assoc] at same
      exact absurd same.symm (apart c _ _)
    | cons other others =>
      rw [List.flatMap_cons, List.flatMap_cons, List.append_assoc, List.append_assoc] at same
      have first := congrArg firstPoint? same
      rw [(writesPoint_quotePoint quote c).firstPoint?_append isQuote,
        (writesPoint_quotePoint quote other).firstPoint?_append isQuote] at first
      obtain rfl := Option.some.inj first
      obtain ⟨rfl, tail⟩ := ih (List.append_cancel_left same)
      exact ⟨rfl, tail⟩

omit isQuote

theorem quoteFor_cases (t : Text) : quoteFor t = singleQuote ∨ quoteFor t = doubleQuote := by
  rw [quoteFor]
  split
  · exact .inr rfl
  · exact .inl rfl

theorem quoteFor_ne_zero (t : Text) : quoteFor t ≠ CodePoint.ofChar '0' := by
  rcases quoteFor_cases t with quote | quote <;> rw [quote] <;> decide

/-- No quoted text is the beginning of another. -/
theorem eq_of_quoted_append_eq {t t' rest rest' : Text}
    (same : t.quoted ++ rest = t'.quoted ++ rest') : t = t' ∧ rest = rest' := by
  have shape : ∀ t rest : Text, t.quoted ++ rest =
      quoteFor t :: (t.flatMap (quotePoint (quoteFor t)) ++ quoteFor t :: rest) := by
    intro t rest
    simp [quoted]
  rw [shape, shape] at same
  obtain ⟨sameQuote, inside⟩ := List.cons.inj same
  rw [← sameQuote] at inside
  exact eq_of_flatMap_quotePoint_eq (quoteFor_cases t) inside

end ClassSynth.Text
