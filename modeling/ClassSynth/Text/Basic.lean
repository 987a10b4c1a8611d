/-!
# Text

A text is a list of Unicode code points.  Surrogates are admitted: a document may spell a lone
surrogate with an escape, and such a key has to survive from reading to output.  All later modules
work on this type, so a law about text is a law about lists.
-/

set_option autoImplicit false

namespace ClassSynth

/-- A Unicode code point, surrogates included. -/
abbrev CodePoint := Fin 0x110000

abbrev Text := List CodePoint

def CodePoint.ofChar (c : Char) : CodePoint :=
  ⟨c.val.toNat, by
    have valid : c.val.toNat.isValidChar := c.valid
    unfold Nat.isValidChar at valid
    omega⟩

instance : Coe Char CodePoint := ⟨CodePoint.ofChar⟩

def lineFeed : CodePoint := CodePoint.ofChar '\n'

def carriageReturn : CodePoint := CodePoint.ofChar '\r'

def backslash : CodePoint := CodePoint.ofChar '\\'

/-- The code point with the given number, taken modulo the size of the code space. -/
def CodePoint.ofNumber (n : Nat) : CodePoint := Fin.ofNat 0x110000 n

namespace CodePoint

def isBetween (c : CodePoint) (low high : Char) : Bool :=
  decide (low.toNat ≤ c.val) && decide (c.val ≤ high.toNat)

def isAscii (c : CodePoint) : Bool := decide (c.val < 0x80)

def isAsciiUpper (c : CodePoint) : Bool := c.isBetween 'A' 'Z'

def isAsciiLower (c : CodePoint) : Bool := c.isBetween 'a' 'z'

def isAsciiLetter (c : CodePoint) : Bool := c.isAsciiUpper || c.isAsciiLower

def isAsciiDigit (c : CodePoint) : Bool := c.isBetween '0' '9'

def isHighSurrogate (c : CodePoint) : Bool := decide (0xD800 ≤ c.val) && decide (c.val ≤ 0xDBFF)

def isLowSurrogate (c : CodePoint) : Bool := decide (0xDC00 ≤ c.val) && decide (c.val ≤ 0xDFFF)

def isSurrogate (c : CodePoint) : Bool := c.isHighSurrogate || c.isLowSurrogate

def ofSurrogatePair (high low : CodePoint) : CodePoint :=
  ofNumber (0x10000 + (high.val - 0xD800) * 0x400 + (low.val - 0xDC00))

def hexValue? (c : CodePoint) : Option Nat :=
  if c.isAsciiDigit then some (c.val - 0x30)
  else if c.isBetween 'a' 'f' then some (c.val - 0x57)
  else if c.isBetween 'A' 'F' then some (c.val - 0x37)
  else none

end CodePoint

namespace Text

def ofString (s : String) : Text := s.toList.map CodePoint.ofChar

instance : Coe String Text := ⟨ofString⟩

/-- The characters of a text; a surrogate, which is no character, becomes the replacement
character. -/
def toString (t : Text) : String :=
  String.ofList (t.map fun c => if c.isSurrogate then Char.ofNat 0xFFFD else Char.ofNat c.val)

def ofNat (n : Nat) : Text := (Nat.toDigits 10 n).map CodePoint.ofChar

def ofInt : Int → Text
  | .ofNat n => ofNat n
  | .negSucc n => CodePoint.ofChar '-' :: ofNat (n + 1)

/-- The lower-case hexadecimal digits of a number, padded with zeros to the given width. -/
def ofHex (width n : Nat) : Text :=
  let digits := (Nat.toDigits 16 n).map CodePoint.ofChar
  List.replicate (width - digits.length) (CodePoint.ofChar '0') ++ digits

def join (separator : Text) : List Text → Text
  | [] => []
  | [part] => part
  | part :: rest => part ++ separator ++ join separator rest

/-- Cuts a text at every code point of a class; the pieces between, empty ones included. -/
def splitWhere (cut : CodePoint → Bool) : Text → List Text
  | [] => [[]]
  | c :: rest =>
    if cut c then [] :: splitWhere cut rest
    else match splitWhere cut rest with
      | [] => [[c]]
      | piece :: pieces => (c :: piece) :: pieces

def cutAt (separator : CodePoint) (t : Text) : List Text := splitWhere (· = separator) t

def startsWith (t start : Text) : Bool := start.isPrefixOf t

def endsWith (t tail : Text) : Bool := tail.isSuffixOf t

def hasInfix (pattern : Text) : Text → Bool
  | [] => pattern.isEmpty
  | c :: rest => pattern.isPrefixOf (c :: rest) || hasInfix pattern rest

def trimRight (drop : CodePoint → Bool) (t : Text) : Text := (t.reverse.dropWhile drop).reverse

def trim (drop : CodePoint → Bool) (t : Text) : Text := trimRight drop (t.dropWhile drop)

def precedes : Text → Text → Bool
  | [], _ => true
  | _ :: _, [] => false
  | a :: as, b :: bs => decide (a < b) || (decide (a = b) && precedes as bs)

def sort (texts : List Text) : List Text := texts.mergeSort precedes

/-- Unifies line ends, given the code points already produced, last first, and whether the one
before was a carriage return. -/
def unifyLineEndsFrom (done : Text) (afterReturn : Bool) : Text → Text
  | [] => done.reverse
  | c :: rest =>
    if c = carriageReturn then unifyLineEndsFrom (lineFeed :: done) true rest
    else if c = lineFeed && afterReturn then unifyLineEndsFrom done false rest
    else unifyLineEndsFrom (c :: done) false rest

def unifyLineEnds (t : Text) : Text := unifyLineEndsFrom [] false t

end Text

end ClassSynth
