import ClassSynth.Inference.Error
import ClassSynth.Proofs.Identifier
import ClassSynth.Proofs.Text.Quoted

/-!
# Path texts tell locations apart

A path text is read from its beginning, step by step.  A dot and a bracket tell the two notations of
keys apart, and a digit tells the step into an array from a quoted key.  An identifier ends where
the next step begins, as no step begins with a code point of identifiers; a quoted key ends with
itself.  So two locations have one path text only if they are the same.
-/

set_option autoImplicit false

namespace ClassSynth

namespace Step

/-- How a step is written. -/
inductive Writes : Step → Text → Prop where
  | identifier (key : Text) (plain : key.isIdentifier = true) :
      Writes (.member key) (CodePoint.ofChar '.' :: key)
  | quoted (key : Text) : Writes (.member key) (CodePoint.ofChar '[' :: (key.quoted ++ "]"))
  | firstItem : Writes .firstItem "[0]"

theorem writes_text (step : Step) : Writes step step.text := by
  cases step with
  | firstItem => exact .firstItem
  | member key =>
    rw [text]
    split
    · exact .identifier key (by assumption)
    · have shape : ("[" : Text) ++ key.quoted ++ "]" =
          CodePoint.ofChar '[' :: (key.quoted ++ "]") := rfl
      rw [shape]
      exact .quoted key

/-- The step that is written first is known where the next one begins as a step does. -/
theorem Writes.eq_of_append_eq {step step' : Step} {written written' tail tail' : Text}
    (writes : Writes step written) (writes' : Writes step' written') (ends : tail.EndsWord)
    (ends' : tail'.EndsWord) (same : written ++ tail = written' ++ tail') :
    step = step' ∧ tail = tail' := by
  cases writes with
  | identifier key plain =>
    cases writes' with
    | identifier key' plain' =>
      obtain ⟨rfl, behind⟩ :=
        Text.eq_of_word_append_eq (Text.isWord_of_isIdentifier plain)
          (Text.isWord_of_isIdentifier plain') ends ends' (List.cons.inj same).2
      exact ⟨rfl, behind⟩
    | quoted key' => exact absurd (List.cons.inj same).1 (by decide)
    | firstItem => exact absurd (List.cons.inj same).1 (by decide)
  | quoted key =>
    cases writes' with
    | identifier key' plain' => exact absurd (List.cons.inj same).1 (by decide)
    | quoted key' =>
      rw [List.cons_append, List.cons_append, List.append_assoc, List.append_assoc] at same
      have inside := (List.cons.inj same).2
      obtain ⟨rfl, behind⟩ := Text.eq_of_quoted_append_eq inside
      exact ⟨rfl, List.append_cancel_left behind⟩
    | firstItem =>
      have inside := (List.cons.inj same).2
      exact absurd (List.cons.inj inside).1 (Text.quoteFor_ne_zero key)
  | firstItem =>
    cases writes' with
    | identifier key' plain' => exact absurd (List.cons.inj same).1 (by decide)
    | quoted key' =>
      have inside := (List.cons.inj same).2
      exact absurd (List.cons.inj inside).1.symm (Text.quoteFor_ne_zero key')
    | firstItem => exact ⟨rfl, List.append_cancel_left same⟩

theorem Writes.endsWord {step : Step} {written : Text} (writes : Writes step written)
    (tail : Text) : Text.EndsWord (written ++ tail) := by
  cases writes <;> exact Text.endsWord_cons (by decide) _

theorem text_ne_nil (step : Step) : step.text ≠ [] := by
  have writes := step.writes_text
  intro none
  rw [none] at writes
  cases writes

end Step

/-! ## Whole paths -/

theorem pathText_eq (steps : List Step) : pathText steps = rootPath ++ steps.flatMap Step.text :=
  List.foldl_append_eq_append

theorem endsWord_steps (steps : List Step) :
    Text.EndsWord (steps.flatMap Step.text) := by
  cases steps with
  | nil =>
    intro c none
    cases none
  | cons step rest =>
    rw [List.flatMap_cons]
    exact step.writes_text.endsWord _

theorem eq_of_flatMap_text_eq {steps steps' : List Step}
    (same : steps.flatMap Step.text = steps'.flatMap Step.text) : steps = steps' := by
  induction steps generalizing steps' with
  | nil =>
    cases steps' with
    | nil => rfl
    | cons step rest =>
      rw [List.flatMap_cons] at same
      exact absurd (List.append_eq_nil_iff.mp same.symm).1 step.text_ne_nil
  | cons step rest ih =>
    cases steps' with
    | nil =>
      rw [List.flatMap_cons] at same
      exact absurd (List.append_eq_nil_iff.mp same).1 step.text_ne_nil
    | cons step' rest' =>
      rw [List.flatMap_cons, List.flatMap_cons] at same
      obtain ⟨rfl, behind⟩ := step.writes_text.eq_of_append_eq step'.writes_text
        (endsWord_steps rest) (endsWord_steps rest') same
      rw [ih behind]

/-- Two locations have one path text just when they are the same, whatever their keys are. -/
theorem pathText_eq_iff (steps steps' : List Step) :
    pathText steps = pathText steps' ↔ steps = steps' := by
  constructor
  · intro same
    rw [pathText_eq, pathText_eq] at same
    exact eq_of_flatMap_text_eq (List.append_cancel_left same)
  · rintro rfl
    rfl

end ClassSynth
