import ClassSynth.ClassTree.Basic
import ClassSynth.Json.Equality
import ClassSynth.Json.Printer

/-!
# The dictionary form of class trees

A class tree has a form as a JSON value, which can be stored and read back.  Writing leaves out what
is implied: the key of a field that equals its identifier, and an empty list of nested classes.
Reading names the first thing that is wrong.  A form in which names are other values than texts can
be read too: it describes a draft.
-/

set_option autoImplicit false

namespace ClassSynth

inductive FormError where
  | notAnObject
  | wrongShape
  | missingKey (key : Text)
  | unknownType (form : Json)
  | unknownKind (kind : Text)

def FormError.message? : FormError → Option Text
  | .notAnObject => none
  | .wrongShape => none
  | .missingKey key => some key.quoted
  | .unknownType form => some ("Unknown type descriptor: " ++ form.display)
  | .unknownKind kind => some ("Unknown primitive kind: " ++ kind)

def Primitive.read (kind : Text) : Except FormError Primitive :=
  match Primitive.ofName? kind with
  | some found => .ok found
  | none => .error (.unknownKind kind)

class FormName (Name : Type) extends NameEquality Name where
  toJson : Name → Json
  ofJson : Json → Except FormError Name

instance : FormName Text where
  toJson := .string
  ofJson form := match form.text? with
    | some text => .ok text
    | none => .error .wrongShape

/-- Other values than texts are compared by what they say. -/
instance : NameEquality Json where
  equal := Json.equal
  alike := Json.alike

/-- Any value can be the name of something that is only being described. -/
instance : FormName Json where
  toJson name := name
  ofJson := .ok

/-- A class tree as a form describes it, before its names are known to be texts. -/
abbrev Draft := ClassOver Json

section

variable {Name : Type} [FormName Name]

def TypeOver.toJson : TypeOver Name → Json
  | .primitive kind => .object [("type", .string kind.name)]
  | .list element => .object [("type", .string "list"), ("items", element.toJson)]
  | .reference className =>
    .object [("type", .string "class"), ("name", FormName.toJson className)]

def FieldOver.toJson (field : FieldOver Name) : Json :=
  let key : List (Text × Json) :=
    if NameEquality.equal field.jsonName field.name then []
    else [("jsonName", FormName.toJson field.jsonName)]
  let type : List (Text × Json) := [("type", field.type.toJson)]
  .object (("name", FormName.toJson field.name) :: (key ++ type))

namespace ClassOver

mutual

def toJson : ClassOver Name → Json
  | ⟨name, fields, nested⟩ =>
    let below : List (Text × Json) :=
      if nested.isEmpty then [] else [("nestedClasses", .array (toJsonAll nested))]
    .object (("name", FormName.toJson name) ::
      ("fields", .array (fields.map FieldOver.toJson)) :: below)
termination_by structural spec => spec

def toJsonAll : List (ClassOver Name) → List Json
  | [] => []
  | spec :: rest => toJson spec :: toJsonAll rest
termination_by structural specs => specs

end

end ClassOver

end

section

variable {Name : Type} [FormName Name]

def FormName.require (members : List (Text × Json)) (key : Text) : Except FormError Name :=
  match Keyed.get? key members with
  | some form => FormName.ofJson form
  | none => .error (.missingKey key)

mutual

def TypeOver.ofJson : Json → Except FormError (TypeOver Name)
  | .object members =>
    match Keyed.get? "type" members with
    | some (.string kind) =>
      if kind = "list" then TypeOver.ofItems members
      else if kind = "class" then
        match FormName.require members "name" with
        | .ok className => .ok (.reference className)
        | .error e => .error e
      else
        match Primitive.ofName? kind with
        | some found => .ok (.primitive found)
        | none => .error (.unknownType (.object members))
    | _ => .error (.unknownType (.object members))
  | _ => .error .notAnObject
termination_by structural form => form

def TypeOver.ofItems : List (Text × Json) → Except FormError (TypeOver Name)
  | [] => .error (.missingKey "items")
  | (key, form) :: rest =>
    if key = "items" then
      match TypeOver.ofJson form with
      | .ok element => .ok (.list element)
      | .error e => .error e
    else TypeOver.ofItems rest
termination_by structural members => members

end

/-- Reads a field; its key is its identifier unless another is given. -/
def FieldOver.ofJson : Json → Except FormError (FieldOver Name)
  | .object members => do
    let name ← FormName.require members "name"
    let type ←
      match Keyed.get? "type" members with
      | some form => TypeOver.ofJson form
      | none => .error (.missingKey "type")
    match Keyed.get? "jsonName" members with
    | none => .ok ⟨name, type, name⟩
    | some .null => .ok ⟨name, type, name⟩
    | some form => (FormName.ofJson form).map fun key => ⟨name, type, key⟩
  | _ => .error .wrongShape

def FieldOver.listOfJson : Option Json → Except FormError (List (FieldOver Name))
  | none => .ok []
  | some (.array items) => items.mapM FieldOver.ofJson
  | some (.string []) => .ok []
  | some (.object []) => .ok []
  | some _ => .error .wrongShape

namespace ClassOver

mutual

def ofJson : Json → Except FormError (ClassOver Name)
  | .object members =>
    match FieldOver.listOfJson (Keyed.get? "fields" members) with
    | .error e => .error e
    | .ok fields =>
      match ofNestedMember members with
      | .error e => .error e
      | .ok nested =>
        match FormName.require members "name" with
        | .error e => .error e
        | .ok name => .ok ⟨name, fields, nested⟩
  | _ => .error .notAnObject
termination_by structural form => form

def ofNestedMember : List (Text × Json) → Except FormError (List (ClassOver Name))
  | [] => .ok []
  | (key, form) :: rest => if key = "nestedClasses" then ofNested form else ofNestedMember rest
termination_by structural members => members

/-- Reads a list of class trees.  A text or an object offers its code points or keys in place of
items, and none of these is a class. -/
def ofNested : Json → Except FormError (List (ClassOver Name))
  | .array items => ofItems items
  | .string text => if text.isEmpty then .ok [] else .error .notAnObject
  | .object members => if members.isEmpty then .ok [] else .error .notAnObject
  | _ => .error .wrongShape
termination_by structural form => form

def ofItems : List Json → Except FormError (List (ClassOver Name))
  | [] => .ok []
  | form :: rest =>
    match ofJson form with
    | .error e => .error e
    | .ok spec =>
      match ofItems rest with
      | .error e => .error e
      | .ok specs => .ok (spec :: specs)
termination_by structural forms => forms

end

end ClassOver

end

end ClassSynth
