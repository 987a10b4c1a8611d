import ClassSynth.Text.Basic

/-!
# Cutting texts

A text is cut piece by piece: an occurrence of the separator parts the pieces before it from those
behind it.  Joining pieces brings in nothing but them and the separator.
-/

set_option autoImplicit false

namespace ClassSynth.Text

variable (separator : CodePoint)

theorem cutAt_ne_nil (t : Text) : cutAt separator t ≠ [] := by
  induction t with
  | nil => exact List.cons_ne_nil _ _
  | cons c rest ih =>
    rw [cutAt, splitWhere]
    split
    · exact List.cons_ne_nil _ _
    · split
      · exact List.cons_ne_nil _ _
      · exact List.cons_ne_nil _ _

theorem cutAt_cons_of_ne {c : CodePoint} (different : c ≠ separator) {rest piece : Text}
    {pieces : List Text} (cut : cutAt separator rest = piece :: pieces) :
    cutAt separator (c :: rest) = (c :: piece) :: pieces := by
  rw [cutAt] at cut ⊢
  rw [splitWhere, if_neg (by simpa using different), cut]

theorem cutAt_append_cons (before behind : Text) :
    cutAt separator (before ++ separator :: behind) =
      cutAt separator before ++ cutAt separator behind := by
  induction before with
  | nil => simp [cutAt, splitWhere]
  | cons c rest ih =>
    by_cases here : c = separator
    · subst here
      have ends : ∀ t, cutAt c (c :: t) = [] :: cutAt c t := by
        intro t
        simp [cutAt, splitWhere]
      rw [List.cons_append, ends, ends, ih]
      rfl
    · obtain ⟨piece, pieces, cut⟩ := List.exists_cons_of_ne_nil (cutAt_ne_nil separator rest)
      rw [cut, List.cons_append] at ih
      rw [List.cons_append, cutAt_cons_of_ne separator here ih,
        cutAt_cons_of_ne separator here cut]
      rfl

theorem cutAt_of_not_mem {t : Text} (apart : separator ∉ t) : cutAt separator t = [t] := by
  induction t with
  | nil => rfl
  | cons c rest ih =>
    rw [List.mem_cons, not_or] at apart
    exact cutAt_cons_of_ne separator (Ne.symm apart.1) (ih apart.2)

theorem takeWhile_append_cons {before : Text} (apart : separator ∉ before) (behind : Text) :
    ((before ++ separator :: behind).takeWhile fun c => decide (c ≠ separator)) = before := by
  have kept : ∀ c ∈ before, decide (c ≠ separator) = true := by
    intro c present
    rw [decide_eq_true_eq]
    rintro rfl
    exact apart present
  rw [List.takeWhile_append_of_pos kept]
  simp

theorem not_mem_join {c : CodePoint} {separator : Text} (apart : c ∉ separator)
    {parts : List Text} (each : ∀ part ∈ parts, c ∉ part) : c ∉ join separator parts := by
  induction parts with
  | nil => exact List.not_mem_nil
  | cons first rest ih =>
    obtain ⟨here, later⟩ := List.forall_mem_cons.mp each
    cases rest with
    | nil => exact here
    | cons second rest =>
      rw [join, List.mem_append, List.mem_append, not_or, not_or]
      · exact ⟨⟨here, apart⟩, ih later⟩
      · exact List.cons_ne_nil second rest

end ClassSynth.Text
