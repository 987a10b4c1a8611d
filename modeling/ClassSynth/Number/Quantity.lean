import ClassSynth.Number.Binary64

/-!
# Quantities

The number that a value stands for, whichever way it is kept.  An integer and a binary64 value are
the same number when they are equal exactly, so no rounding takes part in the comparison.
-/

set_option autoImplicit false

namespace ClassSynth

/-- A number; a finite one is `coefficient * 2 ^ exponent`. -/
inductive Quantity where
  | nan
  | infinite (negative : Bool)
  | finite (coefficient exponent : Int)

namespace Quantity

def ofInt (n : Int) : Quantity := .finite n 0

def ofBinary64 : Binary64 → Quantity
  | .nan => .nan
  | .infinite negative => .infinite negative
  | .finite negative significand exponent =>
    .finite (if negative then -(significand : Int) else significand) exponent

/-- Whether two quantities are the same number.  Finite ones are compared at the lesser of their
exponents, where both have whole coefficients. -/
def same : Quantity → Quantity → Bool
  | .nan, .nan => true
  | .infinite negative, .infinite other => negative == other
  | .finite m e, .finite n f =>
    let least := min e f
    decide (m * Int.pow 2 (e - least).toNat = n * Int.pow 2 (f - least).toNat)
  | _, _ => false

theorem same_self (q : Quantity) : q.same q = true := by cases q <;> simp [same]

theorem same_comm (p q : Quantity) : p.same q = q.same p := by
  cases p <;> cases q <;> simp [same, Bool.beq_comm, Int.min_comm, eq_comm]

theorem same_ofInt_iff (m n : Int) : (ofInt m).same (ofInt n) = true ↔ m = n := by
  have scaled : (ofInt m).same (ofInt n) = decide (m * 1 = n * 1) := rfl
  rw [scaled, Int.mul_one, Int.mul_one, decide_eq_true_eq]

end Quantity

end ClassSynth
