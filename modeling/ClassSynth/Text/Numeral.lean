import ClassSynth.Text.Range

/-!
# Numerals

Reading an integer from a text: blanks on both sides, one sign, and decimal digits of any script
with single underscores between them (Unicode 14.0).
-/

set_option autoImplicit false

namespace ClassSynth

def numeralBlankRanges : List (Nat × Nat) := [
  (0x9, 0xD), (0x20, 0x20), (0x85, 0x85), (0xA0, 0xA0), (0x1680, 0x1680), (0x2000, 0x200A),
  (0x2028, 0x2029), (0x202F, 0x202F), (0x205F, 0x205F), (0x3000, 0x3000)]

/-- The zeros of the decimal digit sequences; the digits one to nine follow each of them. -/
def digitZeros : List Nat := [
  0x30, 0x660, 0x6F0, 0x7C0, 0x966, 0x9E6, 0xA66, 0xAE6, 0xB66, 0xBE6, 0xC66, 0xCE6, 0xD66,
  0xDE6, 0xE50, 0xED0, 0xF20, 0x1040, 0x1090, 0x17E0, 0x1810, 0x1946, 0x19D0, 0x1A80, 0x1A90,
  0x1B50, 0x1BB0, 0x1C40, 0x1C50, 0xA620, 0xA8D0, 0xA900, 0xA9D0, 0xA9F0, 0xAA50, 0xABF0, 0xFF10,
  0x104A0, 0x10D30, 0x11066, 0x110F0, 0x11136, 0x111D0, 0x112F0, 0x11450, 0x114D0, 0x11650,
  0x116C0, 0x11730, 0x118E0, 0x11950, 0x11C50, 0x11D50, 0x11DA0, 0x16A60, 0x16AC0, 0x16B50,
  0x1D7CE, 0x1D7D8, 0x1D7E2, 0x1D7EC, 0x1D7F6, 0x1E140, 0x1E2F0, 0x1E950, 0x1FBF0]

def CodePoint.isNumeralBlank (c : CodePoint) : Bool := c.isIn numeralBlankRanges

def CodePoint.digitValue? (c : CodePoint) : Option Nat :=
  (digitZeros.find? fun first => decide (first ≤ c.val) && decide (c.val ≤ first + 9)).map
    fun first => c.val - first

/-- The most digits that an integer may have in a text. -/
def integerDigitLimit : Nat := 4300

inductive NumeralError where
  | malformed
  | overlong (digits : Nat)

namespace Text

/-- Digits with single underscores between them.  A digit may follow anything; an underscore
only a digit, and a digit must come after it. -/
def digitsOf? (afterDigit : Bool) : Text → Option (List Nat)
  | [] => if afterDigit then some [] else none
  | c :: rest =>
    match c.digitValue? with
    | some digit => (digitsOf? true rest).map (digit :: ·)
    | none => if afterDigit && decide (c = CodePoint.ofChar '_') then digitsOf? false rest else none

def isDigitOrBreak (c : CodePoint) : Bool :=
  c.digitValue?.isSome || decide (c = CodePoint.ofChar '_')

def numberOfDigits (digits : List Nat) : Nat :=
  digits.foldl (fun value digit => 10 * value + digit) 0

/-- The natural number of an unsigned numeral with at most `integerDigitLimit` digits.  The digits
are counted before what follows them is looked at. -/
def readNat (t : Text) : Except NumeralError Nat :=
  match digitsOf? false (t.takeWhile isDigitOrBreak) with
  | none => .error .malformed
  | some digits =>
    if integerDigitLimit < digits.length then .error (.overlong digits.length)
    else if (t.dropWhile isDigitOrBreak).isEmpty then .ok (numberOfDigits digits)
    else .error .malformed

def readInt (t : Text) : Except NumeralError Int :=
  match trim CodePoint.isNumeralBlank t with
  | [] => .error .malformed
  | sign :: rest =>
    if sign = CodePoint.ofChar '-' then (readNat rest).map fun n => -(n : Int)
    else if sign = CodePoint.ofChar '+' then (readNat rest).map fun n => (n : Int)
    else (readNat (sign :: rest)).map fun n => (n : Int)

def toInt? (t : Text) : Option Int := (readInt t).toOption

end Text

end ClassSynth
