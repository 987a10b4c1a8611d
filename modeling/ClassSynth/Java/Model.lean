import ClassSynth.ClassTree.Basic
import ClassSynth.Java.Package
import ClassSynth.Json.Printer

/-!
# Java class models

What a Java class says, before it is laid out as text: its name, its annotations, its fields with
their Java names and types, and its nested classes.
-/

set_option autoImplicit false

namespace ClassSynth.Java

/-- How classes are generated: their package, whether Lombok provides their methods, and whether
fields carry their document keys as annotations. -/
structure Generator where
  package : Package
  lombok : Bool
  jackson : Bool

structure FieldModel where
  name : Text
  keyLiteral : Text
  type : Text
deriving DecidableEq

structure ClassModel where
  name : Text
  annotations : List Text
  fields : List FieldModel
  nested : List ClassModel

def primitiveType : Primitive → Text
  | .string => "String"
  | .int => "int"
  | .long => "long"
  | .bigInteger => "BigInteger"
  | .boolean => "boolean"
  | .double => "double"

def boxedType : Primitive → Text
  | .string => "String"
  | .int => "Integer"
  | .long => "Long"
  | .bigInteger => "BigInteger"
  | .boolean => "Boolean"
  | .double => "Double"

/-- The Java type of a field type.  The items of a list are always boxed. -/
def typeText (boxed : Bool) : FieldType → Text
  | .primitive kind => if boxed then boxedType kind else primitiveType kind
  | .list element => "List<" ++ typeText true element ++ ">"
  | .reference className => className

/-- The name with underscores added until it is free.  Among one more name than are taken one is
free, so as many additions as there are taken names suffice. -/
def lengthen (taken : List Text) : (room : Nat) → Text → Text
  | 0, name => name
  | room + 1, name =>
    if taken.contains name then lengthen taken room (name ++ [CodePoint.ofChar '_']) else name

/-- The Java name of a field: an underscore goes before a reserved word, and underscores behind a
name that is taken. -/
def fieldName (name : Text) (taken : List Text) : Text :=
  lengthen taken taken.length (if isReservedWord name then CodePoint.ofChar '_' :: name else name)

def fieldModels (taken : List Text) : List Field → List FieldModel
  | [] => []
  | field :: rest =>
    let name := fieldName field.name taken
    ⟨name, field.jsonName.literal, typeText false field.type⟩ :: fieldModels (taken ++ [name]) rest

/-- The annotations of a class.  A constructor for all fields would clash with the one for none
when there are no fields. -/
def annotationsFor (lombok hasFields : Bool) : List Text :=
  if lombok then
    if hasFields then ["Data", "Builder", "NoArgsConstructor", "AllArgsConstructor"]
    else ["Data", "NoArgsConstructor"]
  else []

structure ReservedClassName where
  name : Text

def ReservedClassName.message (e : ReservedClassName) : Text :=
  "Class name " ++ e.name ++ " is a Java reserved word"

mutual

def classModel (lombok : Bool) : ClassSpec → Except ReservedClassName ClassModel
  | ⟨name, fields, nested⟩ =>
    if isReservedWord name then .error ⟨name⟩
    else
      match classModels lombok nested with
      | .error e => .error e
      | .ok models =>
        .ok ⟨name, annotationsFor lombok (!fields.isEmpty), fieldModels [] fields, models⟩
termination_by structural spec => spec

def classModels (lombok : Bool) : List ClassSpec → Except ReservedClassName (List ClassModel)
  | [] => .ok []
  | spec :: rest =>
    match classModel lombok spec with
    | .error e => .error e
    | .ok model =>
      match classModels lombok rest with
      | .error e => .error e
      | .ok models => .ok (model :: models)
termination_by structural specs => specs

end

end ClassSynth.Java
