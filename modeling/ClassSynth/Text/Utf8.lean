import ClassSynth.Text.Basic

/-!
# UTF-8

Decoding is a walk over the bytes with the state of the sequence that is open.  The bytes that may
come next form an interval, so over-long forms, surrogates and values above U+10FFFF are refused at
the first byte that rules the sequence out.  A refusal names its reason and the bytes it concerns.
-/

set_option autoImplicit false

namespace ClassSynth.Utf8

inductive Reason where
  | invalidStart
  | invalidContinuation
  | unexpectedEnd

def Reason.message : Reason → Text
  | .invalidStart => "invalid start byte"
  | .invalidContinuation => "invalid continuation byte"
  | .unexpectedEnd => "unexpected end of data"

/-- Bytes that are no UTF-8: the reason, the first and the last offending position, and the byte at
the first. -/
structure Refusal where
  reason : Reason
  first : Nat
  last : Nat
  byte : UInt8

def Refusal.message (refusal : Refusal) : Text :=
  "'utf-8' codec can't decode " ++
    (if refusal.first = refusal.last then
      "byte 0x" ++ Text.ofHex 2 refusal.byte.toNat ++ " in position " ++ Text.ofNat refusal.first
    else
      "bytes in position " ++ Text.ofNat refusal.first ++ "-" ++ Text.ofNat refusal.last) ++
    ": " ++ refusal.reason.message

/-- An open sequence: where it began and with which byte, how many bytes it still needs, the value
so far, and the interval of the next byte. -/
structure Sequence where
  start : Nat
  lead : UInt8
  missing : Nat
  value : Nat
  low : UInt8
  high : UInt8

def Sequence.open? (position : Nat) (byte : UInt8) : Option Sequence :=
  let n := byte.toNat
  if 0xC2 ≤ n ∧ n ≤ 0xDF then some ⟨position, byte, 1, n - 0xC0, 0x80, 0xBF⟩
  else if n = 0xE0 then some ⟨position, byte, 2, 0, 0xA0, 0xBF⟩
  else if n = 0xED then some ⟨position, byte, 2, 0xD, 0x80, 0x9F⟩
  else if 0xE1 ≤ n ∧ n ≤ 0xEF then some ⟨position, byte, 2, n - 0xE0, 0x80, 0xBF⟩
  else if n = 0xF0 then some ⟨position, byte, 3, 0, 0x90, 0xBF⟩
  else if n = 0xF4 then some ⟨position, byte, 3, 4, 0x80, 0x8F⟩
  else if 0xF1 ≤ n ∧ n ≤ 0xF3 then some ⟨position, byte, 3, n - 0xF0, 0x80, 0xBF⟩
  else none

def Sequence.extend (s : Sequence) (byte : UInt8) : Nat := s.value * 64 + (byte.toNat - 0x80)

/-- Decodes the bytes from a position on, given the open sequence and the code points read so far,
last first. -/
def decodeFrom (position : Nat) (opened : Option Sequence) (read : Text) :
    List UInt8 → Except Refusal Text
  | [] =>
    match opened with
    | none => .ok read.reverse
    | some s => .error ⟨.unexpectedEnd, s.start, position - 1, s.lead⟩
  | byte :: rest =>
    match opened with
    | none =>
      if byte < 0x80 then
        decodeFrom (position + 1) none (CodePoint.ofNumber byte.toNat :: read) rest
      else
        match Sequence.open? position byte with
        | none => .error ⟨.invalidStart, position, position, byte⟩
        | some s => decodeFrom (position + 1) (some s) read rest
    | some s =>
      if s.low ≤ byte ∧ byte ≤ s.high then
        if s.missing ≤ 1 then
          decodeFrom (position + 1) none (CodePoint.ofNumber (s.extend byte) :: read) rest
        else
          decodeFrom (position + 1)
            (some { s with
              missing := s.missing - 1, value := s.extend byte, low := 0x80, high := 0xBF })
            read rest
      else .error ⟨.invalidContinuation, s.start, position - 1, s.lead⟩

def decode (bytes : List UInt8) : Except Refusal Text := decodeFrom 0 none [] bytes

/-- The bytes of one code point by the plain scheme, which would also write a surrogate. -/
def encodePoint (c : CodePoint) : List UInt8 :=
  let n := c.val
  let continuation (shift : Nat) : UInt8 := UInt8.ofNat (0x80 + n / Nat.pow 64 shift % 64)
  if n < 0x80 then [UInt8.ofNat n]
  else if n < 0x800 then [UInt8.ofNat (0xC0 + n / 64), continuation 0]
  else if n < 0x10000 then [UInt8.ofNat (0xE0 + n / 0x1000), continuation 1, continuation 0]
  else [UInt8.ofNat (0xF0 + n / 0x40000), continuation 2, continuation 1, continuation 0]

structure Unencodable where
  position : Nat
  surrogates : Text

def Unencodable.message (u : Unencodable) : Text :=
  "'utf-8' codec can't encode " ++
    (match u.surrogates with
    | [c] => "character '\\u" ++ Text.ofHex 4 c.val ++ "' in position " ++ Text.ofNat u.position
    | run => "characters in position " ++ Text.ofNat u.position ++ "-" ++
        Text.ofNat (u.position + run.length - 1)) ++
    ": surrogates not allowed"

def firstUnencodable? (position : Nat) : Text → Option Unencodable
  | [] => none
  | c :: rest =>
    if c.isSurrogate then some ⟨position, c :: rest.takeWhile CodePoint.isSurrogate⟩
    else firstUnencodable? (position + 1) rest

def encode (t : Text) : Except Unencodable (List UInt8) :=
  match firstUnencodable? 0 t with
  | some refused => .error refused
  | none => .ok (t.flatMap encodePoint)

end ClassSynth.Utf8
