import ClassSynth.ClassTree.Dictionary
import ClassSynth.Java.Source
import ClassSynth.Java.Template

/-!
# Java classes of drafts

A draft has a class model too, but as a value: its names stay what they are, and only the class
definition turns them into text.  A name that is no text cannot be changed, so it has to be free.
-/

set_option autoImplicit false

namespace ClassSynth.Java

inductive DraftError where
  | reservedClass (error : ReservedClassName)
  /-- The name of a field that is taken and, not being a text, cannot be lengthened. -/
  | fixedName
  | render (error : RenderError)

/-- The Java type of a type in a draft.  A class that is referred to directly is what it is. -/
def typeValue : TypeOver Json → Json
  | .reference className => className
  | other => .string (typeText false (other.map Json.plain))

def fieldValue (name : Json) (taken : List Json) : Except DraftError Json :=
  match name with
  | .string text => .ok (.string (fieldName text (taken.filterMap Json.text?)))
  | other => if taken.any (Json.alike other) then .error .fixedName else .ok other

def fieldValues (taken : List Json) : List (FieldOver Json) → Except DraftError (List Json)
  | [] => .ok []
  | field :: rest =>
    match fieldValue field.name taken with
    | .error e => .error e
    | .ok name =>
      let model : List (Text × Json) := [("name", name),
        ("json_name_literal", .string field.jsonName.spaced), ("type", typeValue field.type)]
      (fieldValues (taken ++ [name]) rest).map fun models => .object model :: models

def DraftError.message? : DraftError → Option Text
  | .reservedClass error => some error.message
  | .fixedName => none
  | .render error => error.message?

mutual

def draftModel (lombok : Bool) : Draft → Except DraftError Json
  | ⟨name, fields, nested⟩ =>
    let reserved := name.text?.filter isReservedWord
    match reserved, fieldValues [] fields with
    | some word, _ => .error (.reservedClass ⟨word⟩)
    | none, .error e => .error e
    | none, .ok models =>
      match draftModels lombok nested with
      | .error e => .error e
      | .ok below =>
        let annotations := annotationsFor lombok (!fields.isEmpty)
        let members : List (Text × Json) := [("name", name),
          ("annotations", .array (annotations.map .string)), ("fields", .array models),
          ("nested_classes", .array below)]
        .ok (.object members)
termination_by structural draft => draft

def draftModels (lombok : Bool) : List Draft → Except DraftError (List Json)
  | [] => .ok []
  | draft :: rest =>
    match draftModel lombok draft with
    | .error e => .error e
    | .ok model => (draftModels lombok rest).map (model :: ·)
termination_by structural drafts => drafts

end

def Generator.draftSource (g : Generator) (draft : Draft) : Except DraftError Text :=
  match draftModel g.lombok draft with
  | .error e => .error e
  | .ok model =>
    match ClassModel.ofJson (!g.lombok) model with
    | .error e => .error (.render e)
    | .ok model => .ok (g.sourceOfModel model)

end ClassSynth.Java
