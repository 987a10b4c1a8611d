import ClassSynth.Path
import ClassSynth.Text.UpperCase

/-!
# Identifiers

A plain identifier is made of ASCII letters, digits and underscores and does not begin with a
digit.  Any text has an identifier near it, got by replacing what an identifier cannot hold.

Class names are identifiers: that of a root class is made from the file that holds its sample, that
of a nested class from the class around it and the key that leads to it.
-/

set_option autoImplicit false

namespace ClassSynth

def underscore : CodePoint := CodePoint.ofChar '_'

def CodePoint.isIdentifierStart (c : CodePoint) : Bool := c.isAsciiLetter || decide (c = underscore)

def CodePoint.isIdentifierPart (c : CodePoint) : Bool := c.isIdentifierStart || c.isAsciiDigit

namespace Text

def isIdentifier : Text → Bool
  | [] => false
  | c :: rest => c.isIdentifierStart && rest.all CodePoint.isIdentifierPart

/-- The identifier near a text: what an identifier cannot hold becomes an underscore, and an
underscore goes before a leading digit.  The empty text yields the fallback. -/
def sanitizeOr (fallback t : Text) : Text :=
  match t.map fun c => if c.isIdentifierPart then c else underscore with
  | [] => fallback
  | c :: rest => if c.isAsciiDigit then underscore :: c :: rest else c :: rest

def sanitize (t : Text) : Text := sanitizeOr "field" t

def capitalizeFirst : Text → Text
  | [] => []
  | c :: rest => c.toUpper ++ rest

end Text

namespace ClassName

/-- The name of a class when a file name offers neither a letter nor a digit. -/
def fallback : Text := "Document"

def isWordBreak (c : CodePoint) : Bool :=
  decide (c = underscore) || decide (c = CodePoint.ofChar '-') || decide (c = CodePoint.ofChar ' ')

/-- The class name for a file: the words of its base name without extension, each capitalized,
as one identifier. -/
def ofFile (path : Text) : Text :=
  let words := (Text.splitWhere isWordBreak (Path.stem (Path.baseName path))).filter (· ≠ [])
  let name := Text.sanitizeOr fallback (words.flatMap Text.capitalizeFirst)
  if name.any fun c => c.isAsciiLetter || c.isAsciiDigit then name else fallback

def nested (owner segment : Text) : Text := owner ++ segment.sanitize.capitalizeFirst

end ClassName

end ClassSynth
