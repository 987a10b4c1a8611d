import ClassSynth.Text.Basic

/-!
# Java string literals

How a Java compiler reads a string literal.  Unicode escapes are translated before anything else: a
backslash begins one when it follows an even number of backslashes and a `u` follows it.  What comes
of this is a list of UTF-16 code units, and only there is the literal looked for, with its own
escapes.  The reader refuses what a compiler refuses.
-/

set_option autoImplicit false

namespace ClassSynth

abbrev CodeUnit := Fin 0x10000

namespace CodeUnit

def ofNumber (n : Nat) : CodeUnit := Fin.ofNat 0x10000 n

theorem val_ofNumber {n : Nat} (small : n < 0x10000) : (ofNumber n).val = n :=
  Nat.mod_eq_of_lt small

def quote : CodeUnit := 0x22

def backslash : CodeUnit := 0x5C

def lineFeed : CodeUnit := 0xA

def carriageReturn : CodeUnit := 0xD

/-- The units that do not stand for themselves in a string literal. -/
def special : List CodeUnit := [quote, lineFeed, carriageReturn, backslash]

def isOctalDigit (u : CodeUnit) : Bool := decide (0x30 ≤ u.val) && decide (u.val ≤ 0x37)

end CodeUnit

/-- The units of a code point: itself, or a surrogate pair above U+FFFF. -/
def CodePoint.utf16 (c : CodePoint) : List CodeUnit :=
  if c.val ≤ 0xFFFF then [CodeUnit.ofNumber c.val]
  else
    let n := c.val - 0x10000
    [CodeUnit.ofNumber (0xD800 + n / 0x400), CodeUnit.ofNumber (0xDC00 + n % 0x400)]

def Text.utf16 (t : Text) : List CodeUnit := t.flatMap CodePoint.utf16

namespace Java

def escapeLetter : CodePoint := CodePoint.ofChar 'u'

/-- Where the translation of Unicode escapes stands. -/
inductive Translation where
  /-- Outside of escapes, with so many backslashes directly before. -/
  | raw (backslashes : Nat)
  /-- Behind the backslash of an escape, where any number of letters `u` may stand. -/
  | letters
  /-- Among the digits of an escape, with so many read and their value. -/
  | digits (read value : Nat)

/-- The code units of a raw text once its Unicode escapes are translated, if all are complete. -/
def translateFrom : Translation → Text → Option (List CodeUnit)
  | .raw _, [] => some []
  | .letters, [] => none
  | .digits _ _, [] => none
  | .raw backslashes, c :: rest =>
    if c = backslash then
      if backslashes % 2 = 0 ∧ rest.head? = some escapeLetter then translateFrom .letters rest
      else (translateFrom (.raw (backslashes + 1)) rest).map (c.utf16 ++ ·)
    else (translateFrom (.raw 0) rest).map (c.utf16 ++ ·)
  | .letters, c :: rest =>
    if c = escapeLetter then translateFrom .letters rest
    else match c.hexValue? with
      | none => none
      | some digit => translateFrom (.digits 1 digit) rest
  | .digits read value, c :: rest =>
    match c.hexValue? with
    | none => none
    | some digit =>
      if read = 3 then
        (translateFrom (.raw 0) rest).map (CodeUnit.ofNumber (value * 16 + digit) :: ·)
      else translateFrom (.digits (read + 1) (value * 16 + digit)) rest

def translate (t : Text) : Option (List CodeUnit) := translateFrom (.raw 0) t

def letterEscapes : List (CodeUnit × CodeUnit) :=
  [(0x62, 0x8), (0x73, 0x20), (0x74, 0x9), (0x6E, 0xA), (0x66, 0xC), (0x72, 0xD), (0x22, 0x22),
    (0x27, 0x27), (0x5C, 0x5C)]

/-- The octal digits of an escape: up to three, but two when the first is above three. -/
def octalDigits (units : List CodeUnit) : List CodeUnit :=
  let most := if (units.head?.map fun u => decide (u.val ≤ 0x33)) = some true then 3 else 2
  (units.take most).takeWhile CodeUnit.isOctalDigit

def escapeUnit? (units : List CodeUnit) : Option (CodeUnit × Nat) :=
  match units.head?.bind fun letter => letterEscapes.lookup letter with
  | some value => some (value, 1)
  | none =>
    let digits := octalDigits units
    if digits.isEmpty then none
    else
      let value := digits.foldl (fun sum digit => sum * 8 + (digit.val - 0x30)) 0
      some (CodeUnit.ofNumber value, digits.length)

/-- The characters of a string literal up to its closing quote, and what stands behind it; so many
units at the start belong to an escape that has been read. -/
def charactersFrom : (skip : Nat) → List CodeUnit → Option (List CodeUnit × List CodeUnit)
  | _, [] => none
  | skip + 1, _ :: rest => charactersFrom skip rest
  | 0, u :: rest =>
    if u = CodeUnit.quote then some ([], rest)
    else if u = CodeUnit.lineFeed ∨ u = CodeUnit.carriageReturn then none
    else if u = CodeUnit.backslash then
      match escapeUnit? rest with
      | none => none
      | some (value, length) =>
        (charactersFrom length rest).map fun (units, behind) => (value :: units, behind)
    else (charactersFrom 0 rest).map fun (units, behind) => (u :: units, behind)

/-- The units that a string literal denotes, and what stands behind it.  Three quotes begin a text
block and no string literal. -/
def stringLiteral? : List CodeUnit → Option (List CodeUnit × List CodeUnit)
  | [] => none
  | u :: rest =>
    if u ≠ CodeUnit.quote ∨ [CodeUnit.quote, CodeUnit.quote].isPrefixOf rest then none
    else charactersFrom 0 rest

end Java

end ClassSynth
