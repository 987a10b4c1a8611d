import ClassSynth.Identifier
import ClassSynth.Text.Printable

/-!
# Inference errors

Why no class tree comes out of a document, and where the reason lies.

A location is reached from the root by steps into members and into first items.  It is written as a
path text: the root, then each step behind it.  An identifier key is written with a dot, any other
key quoted between brackets.
-/

set_option autoImplicit false

namespace ClassSynth

inductive Step where
  | member (key : Text)
  | firstItem
deriving DecidableEq

def rootPath : Text := "$"

def Step.text : Step → Text
  | .member key => if key.isIdentifier then "." ++ key else "[" ++ key.quoted ++ "]"
  | .firstItem => "[0]"

def Step.below (path : Text) (step : Step) : Text := path ++ step.text

def pathText (steps : List Step) : Text := steps.foldl Step.below rootPath

inductive Violation where
  | emptyArray
  | notAnObject (kind : Text)
  /-- Two classes, or two fields of a class, would have one name. -/
  | nameCollision (name : Text)
  | depthExceeded (limit : Int)
  | other (message : Text)
deriving DecidableEq

def depthMessage (limit : Text) : Text := "Maximum nesting depth (" ++ limit ++ ") exceeded"

/-- The wording of a violation.  A depth limit can be any number here; one of more than
`integerDigitLimit` digits could not be written down, which is left out of account. -/
def Violation.message : Violation → Text
  | .emptyArray => "Cannot infer the element type of an empty array"
  | .notAnObject kind => "Expected a JSON object, got " ++ kind
  | .nameCollision name => "Name collision: '" ++ name ++ "' is already in use"
  | .depthExceeded limit => depthMessage (Text.ofInt limit)
  | .other message => message

/-- A violation and the path text of the value at fault, if one is known. -/
structure InferenceError where
  violation : Violation
  context : Option Text
deriving DecidableEq

/-- The wording, with the context behind it unless that is unknown or empty. -/
def InferenceError.message (e : InferenceError) : Text :=
  match e.context with
  | none => e.violation.message
  | some [] => e.violation.message
  | some context => e.violation.message ++ " (context: " ++ context ++ ")"

inductive SynthesisError where
  | inference (error : InferenceError)
  | unsupportedValue (typeName path : Text)
  | invalidClassName (name : Option Text)
deriving DecidableEq

def SynthesisError.message : SynthesisError → Text
  | .inference error => error.message
  | .unsupportedValue typeName path =>
    "Unsupported JSON value of type " ++ typeName ++ " at " ++ path
  | .invalidClassName name =>
    "Invalid class name: " ++ (name.map Text.quoted).getD "None"

def Violation.at (violation : Violation) (path : Text) : SynthesisError :=
  .inference ⟨violation, some path⟩

end ClassSynth
