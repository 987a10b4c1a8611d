import ClassSynth.Path
import ClassSynth.Text.LowerCase
import ClassSynth.Text.WordClass

/-!
# Java packages

A package is the list of its name's segments, in lower case; the empty list is the unnamed package.
No segment is a reserved word, and neither is the name of a class or of a field.
-/

set_option autoImplicit false

namespace ClassSynth.Java

def reservedWords : List Text := List.map Text.ofString [
  "abstract", "assert", "boolean", "break", "byte", "case", "catch", "char", "class", "const",
  "continue", "default", "do", "double", "else", "enum", "extends", "final", "finally", "float",
  "for", "goto", "if", "implements", "import", "instanceof", "int", "interface", "long", "native",
  "new", "package", "private", "protected", "public", "return", "short", "static", "strictfp",
  "super", "switch", "synchronized", "this", "throw", "throws", "transient", "try", "void",
  "volatile", "while", "true", "false", "null", "record", "_"]

def isReservedWord (word : Text) : Bool := reservedWords.contains word

structure Package where
  segments : List Text
deriving DecidableEq

structure InvalidPackageName where
  name : Text

def InvalidPackageName.message (e : InvalidPackageName) : Text :=
  "Invalid Java package name: " ++ e.name

namespace Package

def unnamed : Package := ⟨[]⟩

def isSegment (segment : Text) : Bool := segment.isUnicodeIdentifier && !isReservedWord segment

/-- The package with a name, whose case does not matter. -/
def ofName (name : Text) : Except InvalidPackageName Package :=
  let lower := name.toLower
  if lower.isEmpty then .ok unnamed
  else
    let segments := lower.cutAt (CodePoint.ofChar '.')
    if segments.all isSegment then .ok ⟨segments⟩ else .error ⟨name⟩

def name (package : Package) : Text := Text.join "." package.segments

def directory (package : Package) (root : Text) : Text := package.segments.foldl Path.join root

end Package

end ClassSynth.Java
