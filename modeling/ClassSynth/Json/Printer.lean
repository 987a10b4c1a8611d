import ClassSynth.Json.Value
import ClassSynth.Number.Shortest
import ClassSynth.Text.Printable

/-!
# Writing JSON

Three written forms of a value: on one line, indented by two spaces, and the display form that
messages use.  The first two are plain ASCII: every code point outside the printable ASCII range is
escaped, above U+FFFF as a surrogate pair.  The display form quotes texts as `Text.quoted` does.
-/

set_option autoImplicit false

namespace ClassSynth

def numericEscape (n : Nat) : Text := "\\u" ++ Text.ofHex 4 n

def literalPoint (c : CodePoint) : Text :=
  if c.val = 0x22 then "\\\""
  else if c.val = 0x5C then "\\\\"
  else if c.val = 0xA then "\\n"
  else if c.val = 0xD then "\\r"
  else if c.val = 0x9 then "\\t"
  else if c.val = 0xC then "\\f"
  else if c.val = 0x8 then "\\b"
  else if 0x20 ≤ c.val ∧ c.val ≤ 0x7E then [c]
  else if c.val ≤ 0xFFFF then numericEscape c.val
  else
    let n := c.val - 0x10000
    numericEscape (0xD800 + n / 0x400) ++ numericEscape (0xDC00 + n % 0x400)

def Text.literal (t : Text) : Text :=
  CodePoint.ofChar '"' :: t.flatMap literalPoint ++ [CodePoint.ofChar '"']

namespace Json

def numberText : Binary64 → Text
  | .nan => "NaN"
  | .infinite negative => if negative then "-Infinity" else "Infinity"
  | value => value.written

/-- A value without parts in a JSON text; a foreign value has no JSON text and is named. -/
def scalarText : Json → Text
  | .null => "null"
  | .bool value => if value then "true" else "false"
  | .integer value => Text.ofInt value
  | .number value => numberText value
  | .string value => value.literal
  | .foreign typeName => typeName
  | .array _ => "[]"
  | .object _ => "\x7b\x7d"

mutual

def inline (gap : Text) : Json → Text
  | .array items => "[" ++ Text.join ("," ++ gap) (inlineItems gap items) ++ "]"
  | .object members => "\x7b" ++ Text.join ("," ++ gap) (inlineMembers gap members) ++ "\x7d"
  | scalar => scalarText scalar
termination_by structural value => value

def inlineItems (gap : Text) : List Json → List Text
  | [] => []
  | item :: rest => inline gap item :: inlineItems gap rest
termination_by structural items => items

def inlineMembers (gap : Text) : List (Text × Json) → List Text
  | [] => []
  | (key, value) :: rest =>
    (key.literal ++ ":" ++ gap ++ inline gap value) :: inlineMembers gap rest
termination_by structural members => members

end

def compact (value : Json) : Text := value.inline []

def spaced (value : Json) : Text := value.inline " "

def newLine (level : Nat) : Text :=
  CodePoint.ofChar '\n' :: List.replicate (2 * level) (CodePoint.ofChar ' ')

/-- The parts of a container, each on a line of its own; a container without parts has no lines. -/
def enclose (opening closing : Text) (level : Nat) (parts : List Text) : Text :=
  if parts.isEmpty then opening ++ closing
  else
    opening ++ newLine (level + 1) ++ Text.join ("," ++ newLine (level + 1)) parts ++
      newLine level ++ closing

mutual

/-- The text with every part on a line of its own, indented by two blanks a level. -/
def indented (level : Nat) : Json → Text
  | .array items => enclose "[" "]" level (indentedItems (level + 1) items)
  | .object members => enclose "\x7b" "\x7d" level (indentedMembers (level + 1) members)
  | scalar => scalarText scalar
termination_by structural value => value

def indentedItems (level : Nat) : List Json → List Text
  | [] => []
  | item :: rest => indented level item :: indentedItems level rest
termination_by structural items => items

def indentedMembers (level : Nat) : List (Text × Json) → List Text
  | [] => []
  | (key, value) :: rest =>
    (key.literal ++ ": " ++ indented level value) :: indentedMembers level rest
termination_by structural members => members

end

def scalarDisplay : Json → Text
  | .null => "None"
  | .bool value => if value then "True" else "False"
  | .number value => value.written
  | .string value => value.quoted
  | scalar => scalarText scalar

mutual

def display : Json → Text
  | .array items => "[" ++ Text.join ", " (displayItems items) ++ "]"
  | .object members => "\x7b" ++ Text.join ", " (displayMembers members) ++ "\x7d"
  | scalar => scalarDisplay scalar
termination_by structural value => value

def displayItems : List Json → List Text
  | [] => []
  | item :: rest => display item :: displayItems rest
termination_by structural items => items

def displayMembers : List (Text × Json) → List Text
  | [] => []
  | (key, value) :: rest => (key.quoted ++ ": " ++ display value) :: displayMembers rest
termination_by structural members => members

end

/-- The text that a value contributes to a document: a string itself, else its display form. -/
def plain : Json → Text
  | .string value => value
  | other => other.display

end Json

end ClassSynth
