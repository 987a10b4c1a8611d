import ClassSynth.Text.Utf8

/-!
# Texts for any bytes

Bytes are read as UTF-8 where they are UTF-8.  Every other byte, which is one above 0x7F, is read as
the surrogate that lies as far above U+DC00.  Writing turns these surrogates into bytes again, so
what has been read is written as it was.  Several texts may stand for the same bytes.
-/

set_option autoImplicit false

namespace ClassSynth.ByteEscape

def pointOf (byte : UInt8) : CodePoint := CodePoint.ofNumber (0xDC00 + byte.toNat)

def byte? (c : CodePoint) : Option UInt8 :=
  if 0xDC80 ≤ c.val ∧ c.val ≤ 0xDCFF then some (UInt8.ofNat (c.val - 0xDC00)) else none

def encodePoint (c : CodePoint) : List UInt8 :=
  match byte? c with
  | some byte => [byte]
  | none => Utf8.encodePoint c

def encode (t : Text) : List UInt8 := t.flatMap encodePoint

/-- The first surrogate that stands for no byte, with the surrogates that follow it directly; the
text begins at the given position. -/
def firstUnencodable? (position : Nat) : Text → Option Utf8.Unencodable
  | [] => none
  | c :: rest =>
    if c.isSurrogate && (byte? c).isNone then
      some ⟨position, c :: rest.takeWhile CodePoint.isSurrogate⟩
    else firstUnencodable? (position + 1) rest

/-- Decodes in rounds.  Each round but the last takes at least one byte, so as many rounds as there
are bytes suffice. -/
def decodeWithin : (rounds : Nat) → List UInt8 → Text
  | 0, bytes => bytes.map pointOf
  | rounds + 1, bytes =>
    match Utf8.decode bytes with
    | .ok text => text
    | .error refusal =>
      let before := (Utf8.decode (bytes.take refusal.first)).toOption.getD []
      let refused := (bytes.take (refusal.last + 1)).drop refusal.first
      before ++ refused.map pointOf ++ decodeWithin rounds (bytes.drop (refusal.last + 1))

def decode (bytes : List UInt8) : Text := decodeWithin bytes.length bytes

end ClassSynth.ByteEscape
