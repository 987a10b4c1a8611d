import ClassSynth.Java.ProjectFile
import ClassSynth.Java.RoundTripTest

/-!
# Templates

Each of the three generated documents can also be rendered from free variables, given as JSON
values.  A variable that is not given prints as nothing and counts as false; every other one prints
in its plain form.  Where a document lists things, any value with items will do: an array, a text
with its code points, an object with its keys.
-/

set_option autoImplicit false

namespace ClassSynth.Java

inductive Template where
  | classDefinition
  | projectFile
  | roundTripTest

inductive RenderError where
  | unknownTemplate
  | missingRoot
  /-- A variable under a name that rendering uses itself. -/
  | takenName
  | noItems
  | noLetters
  /-- A field name that is a list and begins with something else than a text. -/
  | strangeItem
  | noBeginning

def RenderError.message? : RenderError → Option Text
  | .missingRoot => some "'root' is undefined"
  | .noBeginning => some "0"
  | _ => none

abbrev Variables := List (Text × Json)

def itemsOf : Json → Except RenderError (List Json)
  | .array items => .ok items
  | .string text => .ok (text.map fun c => .string [c])
  | .object members => .ok (members.map fun member => .string member.1)
  | _ => .error .noItems

namespace Variables

def binds (vars : Variables) (name : Text) : Bool := (Keyed.get? name vars).isSome

def text (vars : Variables) (name : Text) : Text := ((Keyed.get? name vars).map Json.plain).getD []

def holds (vars : Variables) (name : Text) : Bool :=
  ((Keyed.get? name vars).map Json.isTruthy).getD false

def items (vars : Variables) (name : Text) : Except RenderError (List Json) :=
  match Keyed.get? name vars with
  | none => .ok []
  | some value => itemsOf value

end Variables

/-- The variables that a value offers: the members of an object, none for any other value. -/
def Variables.ofJson : Json → Variables
  | .object members => members
  | _ => []

/-- Whether the first letter of a value can be put in upper case.  Nothing has to be done for a
value that counts as false. -/
def checkLetters (value : Json) : Except RenderError Unit :=
  if !value.isTruthy then .ok ()
  else
    match value with
    | .string _ => .ok ()
    | .array (.string _ :: _) => .error .noLetters
    | .array _ => .error .strangeItem
    | .object _ => .error .noBeginning
    | _ => .error .noLetters

def FieldModel.ofJson (accessors : Bool) (value : Json) : Except RenderError FieldModel :=
  let vars := Variables.ofJson value
  let checked :=
    if accessors then checkLetters ((Keyed.get? "name" vars).getD .null) else .ok ()
  checked.map fun _ => ⟨vars.text "name", vars.text "json_name_literal", vars.text "type"⟩

def ClassModel.blank : ClassModel := ⟨[], [], [], []⟩

mutual

def ClassModel.ofJson (accessors : Bool) : Json → Except RenderError ClassModel
  | .object members =>
    match Variables.items members "annotations" with
    | .error e => .error e
    | .ok annotations =>
      match (Variables.items members "fields").bind (·.mapM (FieldModel.ofJson accessors)) with
      | .error e => .error e
      | .ok fields =>
        match ClassModel.ofNestedMember accessors members with
        | .error e => .error e
        | .ok nested =>
          .ok ⟨Variables.text members "name", annotations.map Json.plain, fields, nested⟩
  | _ => .ok ClassModel.blank
termination_by structural value => value

def ClassModel.ofNestedMember (accessors : Bool) :
    List (Text × Json) → Except RenderError (List ClassModel)
  | [] => .ok []
  | (key, value) :: rest =>
    if key = "nested_classes" then ClassModel.ofNested accessors value
    else ClassModel.ofNestedMember accessors rest
termination_by structural members => members

/-- The classes that a value lists.  Code points and keys say nothing of a class. -/
def ClassModel.ofNested (accessors : Bool) : Json → Except RenderError (List ClassModel)
  | .array items => ClassModel.ofItems accessors items
  | .string text => .ok (text.map fun _ => ClassModel.blank)
  | .object members => .ok (members.map fun _ => ClassModel.blank)
  | _ => .error .noItems
termination_by structural value => value

def ClassModel.ofItems (accessors : Bool) : List Json → Except RenderError (List ClassModel)
  | [] => .ok []
  | value :: rest =>
    match ClassModel.ofJson accessors value with
    | .error e => .error e
    | .ok model =>
      match ClassModel.ofItems accessors rest with
      | .error e => .error e
      | .ok models => .ok (model :: models)
termination_by structural items => items

end

def ProjectFile.ofVariables (vars : Variables) : ProjectFile :=
  { groupId := vars.text "groupid"
    artifactId := vars.text "artifactid"
    lombok := vars.holds "lombok"
    jdk := vars.text "jdk_version"
    jackson := vars.text "jackson_version"
    lombokVersion := vars.text "lombok_version"
    junit := vars.text "junit_version"
    compiler := vars.text "maven_compiler_version"
    surefire := vars.text "maven_surefire_version" }

def RoundTripTest.ofVariables (vars : Variables) : RoundTripTest :=
  { package := if vars.holds "package" then some (vars.text "package") else none
    className := vars.text "class_name"
    resourceName := vars.text "resource_name" }

def definitionOf (vars : Variables) (root : Json) : Except RenderError Text :=
  let style : Style := ⟨vars.holds "lombok", vars.holds "jackson_annotations"⟩
  (ClassModel.ofJson (!style.lombok) root).map fun model =>
    textOfLines ([] :: model.lines style false)

def Template.render (vars : Variables) (template : Template) : Except RenderError Text :=
  if vars.binds "self" then .error .takenName
  else
    match template with
    | .classDefinition =>
      match Keyed.get? "root" vars with
      | none => .error .missingRoot
      | some root => definitionOf vars root
    | .projectFile => .ok (ProjectFile.ofVariables vars).text
    | .roundTripTest => .ok (RoundTripTest.ofVariables vars).text

/-- Renders the document that a caller names, if there is one of that name.  The variables are
looked at before the name is, but for the one that rendering itself uses. -/
def renderNamed (vars : Variables) (named : Option Template) : Except RenderError Text :=
  if vars.binds "file_path" then .error .takenName
  else
    match named with
    | none => .error .unknownTemplate
    | some template => template.render vars

end ClassSynth.Java
