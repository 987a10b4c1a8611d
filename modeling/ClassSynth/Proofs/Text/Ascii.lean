import ClassSynth.Text.Basic
import ClassSynth.Text.Utf8

/-!
# ASCII files

The bytes of an ASCII file are its code points, and where no carriage return stands, unifying line
ends changes nothing.
-/

set_option autoImplicit false

namespace ClassSynth

theorem Utf8.decodeFrom_of_ascii (bytes : List UInt8) (ascii : ∀ byte ∈ bytes, byte < 0x80) :
    ∀ (position : Nat) (done : Text), decodeFrom position none done bytes =
      .ok (done.reverse ++ bytes.map fun byte => CodePoint.ofNumber byte.toNat) := by
  induction bytes with
  | nil => simp [decodeFrom]
  | cons byte rest ih =>
    intro position done
    have first := ascii byte List.mem_cons_self
    have later := ih (fun other member => ascii other (List.mem_cons_of_mem _ member))
    simp [decodeFrom, first, later]

theorem Utf8.decode_of_ascii (bytes : List UInt8) (ascii : ∀ byte ∈ bytes, byte < 0x80) :
    decode bytes = .ok (bytes.map fun byte => CodePoint.ofNumber byte.toNat) :=
  decodeFrom_of_ascii bytes ascii 0 []

theorem Text.unifyLineEndsFrom_of_no_return (t : Text) (noReturn : carriageReturn ∉ t) :
    ∀ done : Text, unifyLineEndsFrom done false t = done.reverse ++ t := by
  induction t with
  | nil => simp [unifyLineEndsFrom]
  | cons c rest ih =>
    intro done
    rw [List.mem_cons, not_or] at noReturn
    simp [unifyLineEndsFrom, Ne.symm noReturn.1, ih noReturn.2]

theorem Text.unifyLineEnds_of_no_return (t : Text) (noReturn : carriageReturn ∉ t) :
    t.unifyLineEnds = t :=
  unifyLineEndsFrom_of_no_return t noReturn []

end ClassSynth
