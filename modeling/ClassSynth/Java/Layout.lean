import ClassSynth.Java.Model
import ClassSynth.Text.UpperCase
import ClassSynth.Identifier

/-!
# The layout of Java classes

A class model becomes lines.  The lines of a nested class are those it would have alone, with
`static` in its heading, four blanks before each line that is not empty, and an empty line above.
-/

set_option autoImplicit false

namespace ClassSynth.Java

/-- What the lines of a class depend on besides its model: whether accessors are left to Lombok, and
whether fields carry their keys. -/
structure Style where
  lombok : Bool
  jackson : Bool

/-- A line one level further in; empty lines stay empty. -/
def indentLine (line : Text) : Text := if line.isEmpty then [] else "    " ++ line

def heading (isNested : Bool) (name : Text) : Text :=
  let modifier : Text := if isNested then "public static class " else "public class "
  modifier ++ name ++ " \x7b"

def ending : Text := "\x7d"

def fieldLines (style : Style) (field : FieldModel) : List Text :=
  let key : List Text :=
    if style.jackson then ["@JsonProperty(" ++ field.keyLiteral ++ ")"] else []
  key ++ ["private " ++ field.type ++ " " ++ field.name ++ ";"]

def accessorLines (field : FieldModel) : List Text :=
  let suffix := field.name.capitalizeFirst
  [ [],
    "public " ++ field.type ++ " get" ++ suffix ++ "() \x7b",
    "    return " ++ field.name ++ ";",
    "\x7d",
    [],
    "public void set" ++ suffix ++ "(" ++ field.type ++ " " ++ field.name ++ ") \x7b",
    "    this." ++ field.name ++ " = " ++ field.name ++ ";",
    "\x7d" ]

def constructorLines (name : Text) : List Text := [[], "public " ++ name ++ "() \x7b", "\x7d"]

/-- The lines of a class before its nested classes, inside its braces and not indented. -/
def ownLines (style : Style) (name : Text) (fields : List FieldModel) : List Text :=
  fields.flatMap (fieldLines style) ++
    (if style.lombok then [] else constructorLines name ++ fields.flatMap accessorLines)

mutual

def ClassModel.lines (style : Style) (isNested : Bool) : ClassModel → List Text
  | ⟨name, annotations, fields, nested⟩ =>
    annotations.map (CodePoint.ofChar '@' :: ·) ++
      [heading isNested name] ++
      (ownLines style name fields ++ nestedLines style nested).map indentLine ++
      [ending]
termination_by structural model => model

def nestedLines (style : Style) : List ClassModel → List Text
  | [] => []
  | model :: rest => [] :: (ClassModel.lines style true model ++ nestedLines style rest)
termination_by structural models => models

end

def textOfLines (lines : List Text) : Text := lines.flatMap (· ++ [CodePoint.ofChar '\n'])

end ClassSynth.Java
