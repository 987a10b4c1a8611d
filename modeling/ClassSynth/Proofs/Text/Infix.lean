import Mathlib.Data.List.Infix
import ClassSynth.Text.Basic

/-!
# Occurrences in texts

A search for a pattern finds its occurrences, no more and no less.  An occurrence of a pattern lies
on one side of any code point that the pattern does not hold.
-/

set_option autoImplicit false

namespace ClassSynth.Text

theorem hasInfix_iff (pattern t : Text) : hasInfix pattern t = true ↔ pattern <:+: t := by
  induction t with
  | nil => simp [hasInfix]
  | cons c rest ih =>
    rw [hasInfix, Bool.or_eq_true, ih, List.isPrefixOf_iff_prefix, List.infix_cons_iff]

variable {pattern : Text} {separator : CodePoint}

theorem prefix_append_cons_iff (apart : separator ∉ pattern) (before behind : Text) :
    pattern <+: before ++ separator :: behind ↔ pattern <+: before := by
  constructor
  · intro occurs
    rcases List.prefix_or_prefix_of_prefix occurs (List.prefix_append before _) with within | longer
    · exact within
    · -- A pattern that is longer than `before` would go on with the separator.
      obtain ⟨more, rfl⟩ := longer
      have goesOn : more <+: separator :: behind := (List.prefix_append_right_inj before).mp occurs
      cases more with
      | nil => simp
      | cons c more =>
        have same : c = separator := (List.cons_prefix_cons.mp goesOn).1
        exact absurd (by simp [same]) apart
  · intro occurs
    exact occurs.trans (List.prefix_append before _)

theorem infix_append_cons_iff (apart : separator ∉ pattern) (before behind : Text) :
    pattern <:+: before ++ separator :: behind ↔ pattern <:+: before ∨ pattern <:+: behind := by
  induction before with
  | nil =>
    have begins := prefix_append_cons_iff apart [] behind
    rw [List.nil_append] at begins
    rw [List.nil_append, List.infix_cons_iff, begins, List.prefix_nil, List.infix_nil]
  | cons c before ih =>
    have begins := prefix_append_cons_iff apart (c :: before) behind
    rw [List.cons_append] at begins
    rw [List.cons_append, List.infix_cons_iff, begins, ih, List.infix_cons_iff, or_assoc]

theorem infix_cons_iff_of_not_mem (nonempty : pattern ≠ []) (apart : separator ∉ pattern)
    (t : Text) : pattern <:+: separator :: t ↔ pattern <:+: t := by
  have sides := infix_append_cons_iff apart [] t
  rwa [List.nil_append, List.infix_nil, or_iff_right nonempty] at sides

/-- An occurrence does not begin in a text without the first code point of the pattern. -/
theorem infix_append_iff_of_not_mem {first : CodePoint} {block : Text} (apart : first ∉ block)
    (rest t : Text) :
    first :: rest <:+: block ++ t ↔ first :: rest <:+: t := by
  induction block with
  | nil => rw [List.nil_append]
  | cons c block ih =>
    rw [List.mem_cons, not_or] at apart
    have elsewhere : ¬ first :: rest <+: c :: (block ++ t) := by
      intro begins
      exact apart.1 (List.cons_prefix_cons.mp begins).1
    rw [List.cons_append, List.infix_cons_iff, or_iff_right elsewhere, ih apart.2]

theorem infix_append_replicate_iff (nonempty : pattern ≠ []) (apart : separator ∉ pattern)
    (t : Text) (count : Nat) :
    pattern <:+: t ++ List.replicate count separator ↔ pattern <:+: t := by
  cases count with
  | zero => rw [List.replicate_zero, List.append_nil]
  | succ count =>
    have none : ¬ pattern <:+: List.replicate count separator := by
      intro occurs
      obtain ⟨c, rest, rfl⟩ := List.exists_cons_of_ne_nil nonempty
      have same := List.eq_of_mem_replicate (occurs.subset List.mem_cons_self)
      exact apart (same ▸ List.mem_cons_self)
    rw [List.replicate_succ, infix_append_cons_iff apart, or_iff_left none]

end ClassSynth.Text
