import ClassSynth.Json.Value
import ClassSynth.Text.Printable

/-!
# Catalogue of public names

The public names of the package and its parts.  A name that is no public one is looked up as the
dotted name of a part; parts have no parts of their own.
-/

set_option autoImplicit false

namespace ClassSynth.Catalogue

def packageName : Text := "pojotize"

def qualified (part : Text) : Text := packageName ++ "." ++ part

/-- The public names with the parts that define them. -/
def publicNames : Keyed Text := [
  ("synthesize", "inference"),
  ("ClassSynthesizer", "inference"),
  ("ClassSpec", "classspec"),
  ("SchemaInferenceError", "errors"),
  ("convert_class_spec_to_java", "classspectojava"),
  ("convert_json_to_java", "jsontojava"),
  ("convert_json_to_classspec", "jsontojava")]

def parts : List Text := [
  "inference", "classspec", "common", "errors", "constants", "classspectojava", "jsontojava",
  "pojotize", "_version"]

inductive Entry where
  | definition (part name : Text)
  | part (name : Text)

inductive LookupError where
  | unknownPart (part : Text)
  | notAPackage (part name : Text)

def LookupError.message : LookupError → Text
  | .unknownPart part => "No module named " ++ (qualified part).quoted
  | .notAPackage part name =>
    "No module named " ++ (qualified name).quoted ++ "; " ++ (qualified part).quoted ++
      " is not a package"

def findPart (name : Text) : Except LookupError Entry :=
  match name.cutAt (CodePoint.ofChar '.') with
  | [] => .error (.unknownPart name)
  | first :: rest =>
    if !parts.contains first then .error (.unknownPart first)
    else
      match rest with
      | [] => .ok (.part name)
      | second :: _ => .error (.notAPackage first (first ++ "." ++ second))

def find (name : Text) : Except LookupError Entry :=
  match publicNames.get? name with
  | some part => .ok (.definition part name)
  | none => findPart name

end ClassSynth.Catalogue
