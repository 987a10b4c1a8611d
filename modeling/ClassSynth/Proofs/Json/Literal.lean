import ClassSynth.Json.Printer
import ClassSynth.Proofs.Text.Hexadecimal
import ClassSynth.Proofs.Text.Infix

/-!
# Occurrences in string literals

A code point of a text is written as itself or as an escape, which begins with a backslash and goes
on with lower-case letters and digits, a quote or another backslash.  So a pattern that is written
as itself and does not begin like the inside of an escape occurs in a literal just when it occurs
in the text.
-/

set_option autoImplicit false

namespace ClassSynth

def CodePoint.isEscapePoint (c : CodePoint) : Bool :=
  c.isAsciiLower || c.isAsciiDigit || decide (c = CodePoint.ofChar '"') ||
    decide (c = CodePoint.ofChar '\\')

/-- Whether a text is an escape. -/
structure IsEscape (written : Text) : Prop where
  begins : written.head? = some (CodePoint.ofChar '\\')
  points : ∀ c ∈ written, c.isEscapePoint = true

theorem isEscape_of_decide {written : Text} (begins : written.head? = some (CodePoint.ofChar '\\'))
    (points : written.all CodePoint.isEscapePoint = true) : IsEscape written :=
  ⟨begins, List.all_eq_true.mp points⟩

theorem IsEscape.append {first second : Text} (before : IsEscape first) (behind : IsEscape second) :
    IsEscape (first ++ second) := by
  refine ⟨?_, List.forall_mem_append.mpr ⟨before.points, behind.points⟩⟩
  rw [List.head?_append, before.begins, Option.some_or]

theorem isEscape_numericEscape {n : Nat} (small : n < 0x10000) : IsEscape (numericEscape n) := by
  have digits : ∀ value < 16, (hexDigit value).isEscapePoint = true := by decide
  have start : ("\\u" : Text).all CodePoint.isEscapePoint = true := by decide
  refine ⟨rfl, ?_⟩
  rw [numericEscape, Text.ofHex_four small, List.forall_mem_append]
  refine ⟨List.all_eq_true.mp start, ?_⟩
  simp only [List.forall_mem_cons, List.not_mem_nil, false_implies, implies_true, and_true]
  exact ⟨digits _ (by omega), digits _ (by omega), digits _ (by omega), digits _ (by omega)⟩

theorem isEscape_literalPoint {c : CodePoint} (escaped : literalPoint c ≠ [c]) :
    IsEscape (literalPoint c) := by
  unfold literalPoint at escaped ⊢
  iterate 7
    split
    · exact isEscape_of_decide rfl (by decide)
    rename_i other
    rw [if_neg other] at escaped
  split
  · rename_i printable
    rw [if_pos printable] at escaped
    exact absurd rfl escaped
  · split
    · exact isEscape_numericEscape (by omega)
    · have inside := c.isLt
      exact (isEscape_numericEscape (by omega)).append (isEscape_numericEscape (by omega))

theorem prefix_literal_iff {pattern : Text} (written : ∀ c ∈ pattern, literalPoint c = [c])
    (key : Text) :
    pattern <+: key.flatMap literalPoint ++ [CodePoint.ofChar '"'] ↔ pattern <+: key := by
  induction pattern generalizing key with
  | nil => simp
  | cons first rest ih =>
    obtain ⟨firstWritten, written⟩ := List.forall_mem_cons.mp written
    have noBackslash : first ≠ CodePoint.ofChar '\\' := by
      rintro rfl
      exact absurd firstWritten (by decide)
    have noQuote : first ≠ CodePoint.ofChar '"' := by
      rintro rfl
      exact absurd firstWritten (by decide)
    cases key with
    | nil => simp [List.cons_prefix_cons, noQuote]
    | cons c key =>
      by_cases itself : literalPoint c = [c]
      · rw [List.flatMap_cons, itself, List.append_assoc, List.singleton_append,
          List.cons_prefix_cons, List.cons_prefix_cons, ih written]
      · have escape := isEscape_literalPoint itself
        have other : first ≠ c := by
          rintro rfl
          exact itself firstWritten
        obtain ⟨more, shape⟩ := List.head?_eq_some_iff.mp escape.begins
        rw [List.flatMap_cons, shape]
        simp [List.cons_prefix_cons, noBackslash, other]

theorem infix_literal_iff {first : CodePoint} {rest : Text}
    (written : ∀ c ∈ first :: rest, literalPoint c = [c]) (outside : first.isEscapePoint = false)
    (key : Text) : first :: rest <:+: key.literal ↔ first :: rest <:+: key := by
  have notEscaped : ∀ {block : Text}, IsEscape block → first ∉ block := by
    intro block escape present
    have inside := escape.points first present
    rw [outside] at inside
    cases inside
  have noQuote : first ∉ [CodePoint.ofChar '"'] := by
    rw [List.mem_singleton]
    rintro rfl
    exact absurd outside (by decide)
  have inner : first :: rest <:+: key.flatMap literalPoint ++ [CodePoint.ofChar '"'] ↔
      first :: rest <:+: key := by
    induction key with
    | nil =>
      have nothing := Text.infix_append_iff_of_not_mem noQuote rest []
      rwa [List.append_nil] at nothing
    | cons c key ih =>
      by_cases itself : literalPoint c = [c]
      · have begins := prefix_literal_iff written (c :: key)
        rw [List.flatMap_cons, itself, List.append_assoc, List.singleton_append] at begins ⊢
        rw [List.infix_cons_iff, begins, ih, List.infix_cons_iff]
      · have other : first ≠ c := by
          rintro rfl
          exact itself (written first List.mem_cons_self)
        rw [List.flatMap_cons, List.append_assoc,
          Text.infix_append_iff_of_not_mem (notEscaped (isEscape_literalPoint itself)), ih,
          List.infix_cons_iff, List.cons_prefix_cons]
        simp [other]
  have opened := Text.infix_append_iff_of_not_mem noQuote rest
    (key.flatMap literalPoint ++ [CodePoint.ofChar '"'])
  exact opened.trans inner

end ClassSynth
