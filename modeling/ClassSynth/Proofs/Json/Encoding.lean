import Mathlib.Tactic.SplitIfs
import ClassSynth.Proofs.Json.Plain
import ClassSynth.Proofs.Text.Encodable

/-!
# What is written has bytes

A string is escaped down to plain ASCII and a number is made of digits and signs, so the written
form of a value has bytes whatever texts stand in it.  Only the name of a foreign type is written as
it is.
-/

set_option autoImplicit false

namespace ClassSynth

/-! ## Strings and numbers -/

theorem isEncodable_numericEscape (n : Nat) : (numericEscape n).IsEncodable := by
  simp [numericEscape]

theorem isEncodable_literalPoint (c : CodePoint) : (literalPoint c).IsEncodable := by
  have plain : 0x20 ≤ c.val ∧ c.val ≤ 0x7E → c.isSurrogate = false := by
    intro printable
    refine CodePoint.isSurrogate_of_isAscii ?_
    rw [CodePoint.isAscii, decide_eq_true_eq]
    omega
  unfold literalPoint
  split_ifs <;> simp [isEncodable_numericEscape, *]

/-- The literal of a text has bytes even if the text has none. -/
@[simp] theorem Text.isEncodable_literal (t : Text) : t.literal.IsEncodable := by
  have points : Text.IsEncodable (t.flatMap literalPoint) := by
    intro c member
    obtain ⟨point, -, within⟩ := List.mem_flatMap.mp member
    exact isEncodable_literalPoint point c within
  simp [literal, points]

theorem Text.isEncodable_ofInt (n : Int) : (ofInt n).IsEncodable := by
  cases n <;> simp [ofInt]

namespace Binary64

theorem isEncodable_positional {digits : Text} (encodable : digits.IsEncodable) (point : Int) :
    (positional digits point).IsEncodable := by
  have front := fun count => encodable.of_subset (List.take_subset count digits)
  have behind := fun count => encodable.of_subset (List.drop_subset count digits)
  simp [positional, Text.isEncodable_ite, encodable, front, behind]

theorem isEncodable_scientific {digits : Text} (encodable : digits.IsEncodable) (exponent : Int) :
    (scientific digits exponent).IsEncodable := by
  have front := encodable.of_subset (List.take_subset 1 digits)
  have behind := encodable.of_subset (List.tail_sublist digits).subset
  simp [scientific, Text.isEncodable_ite, front, behind]

theorem isEncodable_written (value : Binary64) : value.written.IsEncodable := by
  cases value with
  | nan => exact Text.isEncodable_ofString _
  | infinite negative => simp [written, Text.isEncodable_ite]
  | finite negative significand exponent =>
    have digits := fun drop n => (Text.isEncodable_ofNat n).of_subset (Text.trimRight_subset drop _)
    simp [written, Text.isEncodable_ite, isEncodable_positional (digits _ _),
      isEncodable_scientific (digits _ _)]

end Binary64

/-! ## Values -/

namespace Json

theorem isEncodable_scalarText {value : Json} (plain : value.isPlain = true) :
    value.scalarText.IsEncodable := by
  cases value with
  | bool value => cases value <;> simp [scalarText]
  | integer value => exact Text.isEncodable_ofInt value
  | number value =>
    cases value with
    | infinite negative => cases negative <;> simp [scalarText, numberText]
    | _ => simp [scalarText, numberText, Binary64.isEncodable_written]
  | foreign typeName => cases plain
  | _ => simp [scalarText]

theorem isEncodable_enclose {opening closing : Text} (opens : opening.IsEncodable)
    (closes : closing.IsEncodable) (level : Nat) {parts : List Text}
    (each : ∀ part ∈ parts, part.IsEncodable) :
    (enclose opening closing level parts).IsEncodable := by
  have line : ∀ level, (newLine level).IsEncodable := by simp [newLine]
  have separator : Text.IsEncodable ("," ++ newLine (level + 1)) := by simp [line]
  unfold enclose
  split_ifs <;> simp [opens, closes, line, Text.isEncodable_join separator each]

mutual

theorem isEncodable_indented : (value : Json) → (level : Nat) → value.isPlain = true →
    (value.indented level).IsEncodable
  | .array items, level, plain => by
    rw [isPlain] at plain
    rw [indented]
    exact isEncodable_enclose (by simp) (by simp) level
      (isEncodable_indentedItems items (level + 1) plain)
  | .object members, level, plain => by
    rw [isPlain] at plain
    rw [indented]
    exact isEncodable_enclose (by simp) (by simp) level
      (isEncodable_indentedMembers members (level + 1) plain)
  | .null, _, plain | .bool _, _, plain | .integer _, _, plain | .number _, _, plain
  | .string _, _, plain | .foreign _, _, plain => by
    simpa only [indented] using isEncodable_scalarText plain

theorem isEncodable_indentedItems : (items : List Json) → (level : Nat) → arePlain items = true →
    ∀ part ∈ indentedItems level items, part.IsEncodable
  | [], _, _ => by simp [indentedItems]
  | item :: rest, level, plain => by
    rw [arePlain, Bool.and_eq_true] at plain
    rw [indentedItems, List.forall_mem_cons]
    exact ⟨isEncodable_indented item level plain.1, isEncodable_indentedItems rest level plain.2⟩

theorem isEncodable_indentedMembers : (members : List (Text × Json)) → (level : Nat) →
    membersArePlain members = true → ∀ part ∈ indentedMembers level members, part.IsEncodable
  | [], _, _ => by simp [indentedMembers]
  | (key, value) :: rest, level, plain => by
    rw [membersArePlain, Bool.and_eq_true] at plain
    rw [indentedMembers, List.forall_mem_cons]
    exact ⟨by simp [isEncodable_indented value level plain.1],
      isEncodable_indentedMembers rest level plain.2⟩

end

end Json

end ClassSynth
