import ClassSynth.Json.Value
import ClassSynth.Text.Printable

/-!
# Bindings of parameters

A binding says what a parameter of a conversion is given: an argument of the command line by name,
its negation, or the text of the binding itself.
-/

set_option autoImplicit false

namespace ClassSynth.CommandLine

inductive Binding where
  | argument (name : Text)
  | negation (name : Text)
  | constant (text : Text)
deriving DecidableEq

/-- Reads a binding: a leading `not ` negates an argument, and `args.` marks an argument. -/
def Binding.ofText (text : Text) : Binding :=
  let negated := Text.startsWith text "not "
  let source := if negated then text.drop 4 else text
  if Text.startsWith source "args." then
    if negated then .negation (source.drop 5) else .argument (source.drop 5)
  else .constant source

/-- The value of a binding; there is none for an argument that was not given. -/
def Binding.value? (arguments : Keyed Json) : Binding → Option Json
  | .argument name => arguments.get? name
  | .negation name => (arguments.get? name).map fun value => .bool !value.isTruthy
  | .constant text => some (.string text)

def bind (bindings : Keyed Binding) (arguments : Keyed Json) : Keyed Json :=
  bindings.filterMap fun entry => (entry.2.value? arguments).map fun value => (entry.1, value)

inductive BindingError where
  | unknownCommand
  | missingKey (key : Text)
  /-- A part that is no object where a member is looked up. -/
  | noMembers
  | notAnObject
  | notAText

def BindingError.message? : BindingError → Option Text
  | .unknownCommand => some []
  | .missingKey key => some key.quoted
  | _ => none

def describedMember (key : Text) : Json → Except BindingError Json
  | .object members =>
    match Keyed.get? key members with
    | some value => .ok value
    | none => .error (.missingKey key)
  | _ => .error .noMembers

def bindingsOfMembers : List (Text × Json) → Except BindingError (Keyed Binding)
  | [] => .ok []
  | (name, .string text) :: rest =>
    (bindingsOfMembers rest).map fun others => (name, Binding.ofText text) :: others
  | _ => .error .notAText

def describedBindings (description : Json) : Except BindingError (Keyed Binding) := do
  let function ← describedMember "function" description
  match ← describedMember "args" function with
  | .object members => bindingsOfMembers members
  | _ => .error .notAnObject

end ClassSynth.CommandLine
