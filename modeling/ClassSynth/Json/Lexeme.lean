import ClassSynth.Json.Value

/-!
# JSON lexemes

The pieces that a JSON text is made of.  A piece that breaks off, such as a string without its
closing quote, is a lexeme too: it carries the fault and its position, and matters only where a
value or a key is looked for.
-/

set_option autoImplicit false

namespace ClassSynth.Json

inductive Fault where
  | expectingValue
  | expectingPropertyName
  | expectingColon
  | expectingComma
  | unterminatedString
  | controlCharacter
  | invalidEscape
  | invalidUnicodeEscape
  | extraData
  | byteOrderMark
deriving DecidableEq

def Fault.message : Fault → Text
  | .expectingValue => "Expecting value"
  | .expectingPropertyName => "Expecting property name enclosed in double quotes"
  | .expectingColon => "Expecting ':' delimiter"
  | .expectingComma => "Expecting ',' delimiter"
  | .unterminatedString => "Unterminated string starting at"
  | .controlCharacter => "Invalid control character at"
  | .invalidEscape => "Invalid \\escape"
  | .invalidUnicodeEscape => "Invalid \\uXXXX escape"
  | .extraData => "Extra data"
  | .byteOrderMark => "Unexpected UTF-8 BOM (decode using utf-8-sig)"

inductive Lexeme where
  | beginArray
  | endArray
  | beginObject
  | endObject
  | comma
  | colon
  | string (value : Text)
  | scalar (value : Json)
  | overlongInteger (digits : Nat)
  | broken (fault : Fault) (position : Nat)
  | stray

/-- A lexeme and the number of code points it has after its first. -/
structure Lexed where
  lexeme : Lexeme
  extra : Nat

def isBlank (c : CodePoint) : Bool :=
  decide (c.val = 0x20) || decide (c.val = 0x9) || decide (c.val = 0xA) || decide (c.val = 0xD)

def hexQuad? : Text → Option Nat
  | a :: b :: c :: d :: _ =>
    match a.hexValue?, b.hexValue?, c.hexValue?, d.hexValue? with
    | some a, some b, some c, some d => some (((a * 16 + b) * 16 + c) * 16 + d)
    | _, _, _, _ => none
  | _ => none

def shortEscape? (c : CodePoint) : Option CodePoint :=
  let entries : List (Char × Nat) :=
    [('"', 0x22), ('\\', 0x5C), ('/', 0x2F), ('b', 0x8), ('f', 0xC), ('n', 0xA), ('r', 0xD),
      ('t', 0x9)]
  (entries.find? fun entry => decide (CodePoint.ofChar entry.1 = c)).map
    fun entry => CodePoint.ofNumber entry.2

/-- What an escape denotes and the code points it has after the backslash, or its fault. -/
inductive Escape where
  | point (value : CodePoint) (extra : Nat)
  | broken (fault : Fault) (position : Nat)

/-- A numeric escape whose letter `u` is at the given position, followed by `rest`.  Two escapes
that form a surrogate pair denote one code point.  Each escape needs a code point after it: one at
the very end of the text counts as broken. -/
def unicodeEscape (position : Nat) (rest : Text) : Escape :=
  if (rest.take 5).length < 5 then .broken .invalidUnicodeEscape position
  else
    match hexQuad? rest with
    | none => .broken .invalidUnicodeEscape position
    | some first =>
      let high := CodePoint.ofNumber first
      let next := rest.drop 4
      if high.isHighSurrogate && decide ((next.take 7).length = 7) &&
          Text.startsWith next "\\u" then
        match hexQuad? (next.drop 2) with
        | none => .broken .invalidUnicodeEscape (position + 6)
        | some second =>
          let low := CodePoint.ofNumber second
          if low.isLowSurrogate then .point (CodePoint.ofSurrogatePair high low) 11
          else .point high 5
      else .point high 5

/-- The escape whose backslash is at the given position, followed by `rest`; `start` is the position
of the quote that opened the string. -/
def escape (start position : Nat) : Text → Escape
  | [] => .broken .unterminatedString start
  | c :: rest =>
    if c = CodePoint.ofChar 'u' then unicodeEscape (position + 1) rest
    else match shortEscape? c with
      | some value => .point value 1
      | none => .broken .invalidEscape position

/-- The rest of a string after its opening quote at `start`: `skip` code points belong to an escape
that has been read, and `read` are the code points so far, last first. -/
def stringLexeme (start : Nat) : (skip position : Nat) → (read : Text) → Text → Lexed
  | _, _, _, [] => ⟨.broken .unterminatedString start, 0⟩
  | skip + 1, position, read, _ :: rest => stringLexeme start skip (position + 1) read rest
  | 0, position, read, c :: rest =>
    if c = CodePoint.ofChar '"' then ⟨.string read.reverse, position - start⟩
    else if c = CodePoint.ofChar '\\' then
      match escape start position rest with
      | .point value extra => stringLexeme start extra (position + 1) (value :: read) rest
      | .broken fault place => ⟨.broken fault place, 0⟩
    else if c.val ≤ 0x1F then ⟨.broken .controlCharacter position, 0⟩
    else stringLexeme start 0 (position + 1) (c :: read) rest

def leadingDigits (t : Text) : Text := t.takeWhile CodePoint.isAsciiDigit

def digitsValue (digits : Text) : Nat :=
  Text.numberOfDigits (digits.map fun c => c.val - 0x30)

def integerPart : Text → Text
  | [] => []
  | c :: rest => if c = CodePoint.ofChar '0' then [c] else leadingDigits (c :: rest)

def fractionPart : Text → Text
  | [] => []
  | c :: rest => if c = CodePoint.ofChar '.' then leadingDigits rest else []

/-- The exponent, if one is next: its number of code points, its sign and its digits. -/
def exponentPart : Text → Nat × Bool × Text
  | [] => (0, false, [])
  | mark :: rest =>
    if mark = CodePoint.ofChar 'e' || mark = CodePoint.ofChar 'E' then
      let minus := Text.startsWith rest "-"
      let signed := minus || Text.startsWith rest "+"
      let digits := leadingDigits (if signed then rest.drop 1 else rest)
      if digits.isEmpty then (0, false, [])
      else ((if signed then 2 else 1) + digits.length, minus, digits)
    else (0, false, [])

def numberLexeme? (negative : Bool) (t : Text) : Option Lexed :=
  let whole := integerPart t
  if whole.isEmpty then none
  else
    let afterWhole := t.drop whole.length
    let fraction := fractionPart afterWhole
    let fractionLength := if fraction.isEmpty then 0 else fraction.length + 1
    let (exponentLength, exponentNegative, exponentDigits) :=
      exponentPart (afterWhole.drop fractionLength)
    let length := whole.length + fractionLength + exponentLength
    let extra := if negative then length else length - 1
    if fractionLength = 0 && exponentLength = 0 then
      if integerDigitLimit < whole.length then some ⟨.overlongInteger whole.length, extra⟩
      else
        let value : Int := digitsValue whole
        some ⟨.scalar (.integer (if negative then -value else value)), extra⟩
    else
      let magnitude : Int := digitsValue exponentDigits
      let exponent := if exponentNegative then -magnitude else magnitude
      some ⟨.scalar (.number (Binary64.ofDecimal
        ⟨negative, digitsValue (whole ++ fraction), exponent - fraction.length⟩)), extra⟩

def wordValues : List (Text × Json) := [
  ("null", .null), ("true", .bool true), ("false", .bool false), ("NaN", .number .nan),
  ("Infinity", .number (.infinite false)), ("-Infinity", .number (.infinite true))]

def lexemeAt (position : Nat) (c : CodePoint) (rest : Text) : Lexed :=
  if c = CodePoint.ofChar '"' then stringLexeme position 0 (position + 1) [] rest
  else if c = CodePoint.ofChar '{' then ⟨.beginObject, 0⟩
  else if c = CodePoint.ofChar '}' then ⟨.endObject, 0⟩
  else if c = CodePoint.ofChar '[' then ⟨.beginArray, 0⟩
  else if c = CodePoint.ofChar ']' then ⟨.endArray, 0⟩
  else if c = CodePoint.ofChar ',' then ⟨.comma, 0⟩
  else if c = CodePoint.ofChar ':' then ⟨.colon, 0⟩
  else
    match wordValues.find? fun word => Text.startsWith (c :: rest) word.1 with
    | some word => ⟨.scalar word.2, word.1.length - 1⟩
    | none =>
      let number :=
        if c = CodePoint.ofChar '-' then numberLexeme? true rest
        else if c.isAsciiDigit then numberLexeme? false (c :: rest)
        else none
      number.getD ⟨.stray, 0⟩

end ClassSynth.Json
