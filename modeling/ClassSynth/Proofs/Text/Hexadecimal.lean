import Mathlib.Algebra.Group.Nat.Defs
import ClassSynth.Text.Basic

/-!
# Hexadecimal numbers

The digits of a number written in a fixed width, one by one, and what they are worth.
-/

set_option autoImplicit false

namespace ClassSynth

def hexDigit (value : Nat) : CodePoint := CodePoint.ofChar (Nat.digitChar value)

theorem hexValue?_hexDigit : ∀ value < 16, (hexDigit value).hexValue? = some value := by decide

theorem hexDigit_printable : ∀ value < 16,
    0x20 ≤ (hexDigit value).val ∧ (hexDigit value).val ≤ 0x7E := by decide

theorem Text.ofHex_one {n : Nat} (small : n < 16) : Text.ofHex 1 n = [hexDigit n] := by
  unfold Text.ofHex
  rw [Nat.toDigits_of_lt_base small]
  rfl

/-- In a greater width the last digit is the remainder, and the others are those of the quotient. -/
theorem Text.ofHex_succ (width n : Nat) :
    Text.ofHex (width + 2) n = Text.ofHex (width + 1) (n / 16) ++ [hexDigit (n % 16)] := by
  unfold Text.ofHex
  by_cases small : n < 16
  · have quotient : n / 16 = 0 := by omega
    have remainder : n % 16 = n := by omega
    rw [quotient, remainder, Nat.toDigits_of_lt_base small, Nat.toDigits_of_lt_base (by omega)]
    simp only [List.map_cons, List.map_nil, List.length_singleton, Nat.succ_sub_one]
    rw [List.replicate_succ', List.append_assoc, List.append_assoc]
    rfl
  · have padding : ∀ length, width + 2 - (length + 1) = width + 1 - length := by
      intro length
      omega
    rw [Nat.toDigits_of_base_le (by decide) (by omega)]
    simp only [List.map_append, List.map_cons, List.map_nil, List.length_append,
      List.length_singleton, List.append_assoc, padding, hexDigit]

theorem Text.ofHex_four {n : Nat} (small : n < 0x10000) :
    Text.ofHex 4 n = [hexDigit (n / 16 / 16 / 16), hexDigit (n / 16 / 16 % 16),
      hexDigit (n / 16 % 16), hexDigit (n % 16)] := by
  have leading : n / 16 / 16 / 16 < 16 := by omega
  rw [Text.ofHex_succ, Text.ofHex_succ, Text.ofHex_succ, Text.ofHex_one leading]
  rfl

theorem Text.length_ofHex (width : Nat) {n : Nat} (small : n < 16 ^ (width + 1)) :
    (Text.ofHex (width + 1) n).length = width + 1 := by
  induction width generalizing n with
  | zero => rw [Text.ofHex_one (by omega), List.length_singleton]
  | succ width ih =>
    have quotient : n / 16 < 16 ^ (width + 1) := Nat.div_lt_of_lt_mul (by rwa [← Nat.pow_succ'])
    rw [Text.ofHex_succ, List.length_append, ih quotient, List.length_singleton]

/-- What hexadecimal digits are worth together. -/
def Text.hexNumber (digits : Text) : Nat :=
  digits.foldl (fun value c => value * 16 + c.hexValue?.getD 0) 0

theorem Text.hexNumber_ofHex (width : Nat) {n : Nat} (small : n < 16 ^ (width + 1)) :
    (Text.ofHex (width + 1) n).hexNumber = n := by
  induction width generalizing n with
  | zero =>
    have digit : n < 16 := by omega
    rw [Text.ofHex_one digit]
    simp [Text.hexNumber, hexValue?_hexDigit n digit]
  | succ width ih =>
    have quotient : n / 16 < 16 ^ (width + 1) := Nat.div_lt_of_lt_mul (by rwa [← Nat.pow_succ'])
    have last := hexValue?_hexDigit (n % 16) (by omega)
    have leading := ih quotient
    rw [Text.hexNumber] at leading
    rw [Text.ofHex_succ, Text.hexNumber, List.foldl_append, leading, List.foldl_cons,
      List.foldl_nil, last, Option.getD_some]
    omega

end ClassSynth
