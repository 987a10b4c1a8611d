import ClassSynth.Batch.Conversion
import ClassSynth.CommandLine.Binding
import ClassSynth.CommandLine.Grammar

/-!
# Commands

The commands of the program: what their command lines may hold, and how the parameters of a
conversion are bound to the arguments.
-/

set_option autoImplicit false

namespace ClassSynth.CommandLine

def programName : Text := "pojotize"

/-- A command, named for what it converts samples to. -/
inductive Command where
  | java
  | classSpec
deriving DecidableEq

def inputOperands : OperandRule :=
  .several "input" "JSON sample files or directories containing them"

def inferenceRules : List OptionRule := [
  .optional "--max-depth" "max_depth" .integer (.integer defaultMaxDepth)
    "Maximum nesting depth of objects and arrays",
  .optional "--empty-arrays" "empty_arrays" (.choice ["error", "string"]) (.string "error")
    "Reject empty arrays or type them as lists of strings",
  .optional "--nested-naming" "nested_naming" (.choice ["field", "first-key"]) (.string "field")
    "Name nested classes after the field holding them or after their first key"]

def javaRules : List OptionRule := [
  .optional "--package" "package" .text (.string [])
    "Java package name (default: derived from the output directory name)",
  .switch "--no-lombok" "no_lombok"
    "Generate constructors, getters and setters instead of Lombok annotations",
  .switch "--round-trip-tests" "round_trip_tests"
    "Generate JUnit tests that deserialize each sample with the generated classes"]

def inferenceBindings : Keyed Binding := [
  ("max_depth", .argument "max_depth"),
  ("empty_arrays", .argument "empty_arrays"),
  ("nested_naming", .argument "nested_naming")]

namespace Command

def all : List Command := [.java, .classSpec]

def name : Command → Text
  | .java => "j2java"
  | .classSpec => "j2spec"

def summary : Command → Text
  | .java => "Generate Java classes from JSON sample files"
  | .classSpec => "Write the class specs inferred from JSON sample files as JSON"

def ofName? (name : Text) : Option Command := all.find? fun command => decide (command.name = name)

def options : Command → List OptionRule
  | .java =>
    .help :: .mandatory "--out" "out" "Output Maven project directory" ::
      (javaRules ++ inferenceRules)
  | .classSpec =>
    .help :: .mandatory "--out" "out" "Output class spec JSON file" :: inferenceRules

def grammar (command : Command) : Grammar :=
  ⟨programName ++ " " ++ command.name, none, command.options, inputOperands⟩

def bindings : Command → Keyed Binding
  | .java =>
    ([("input_paths", .argument "input"), ("java_project_dir", .argument "out"),
      ("package_name", .argument "package"), ("lombok", .negation "no_lombok"),
      ("round_trip_tests", .argument "round_trip_tests")] : Keyed Binding) ++ inferenceBindings
  | .classSpec =>
    ([("input_paths", .argument "input"), ("classspec_file", .argument "out")] : Keyed Binding) ++
      inferenceBindings

end Command

inductive BindingSource where
  | known (command : Command)
  | described (form : Json)

/-- The source that a value points to: a text is the name of a command, any other value is a
description itself. -/
def BindingSource.find : Json → Except BindingError BindingSource
  | .string name =>
    match Command.ofName? name with
    | some command => .ok (.known command)
    | none => .error .unknownCommand
  | form => .ok (.described form)

def BindingSource.bindings : BindingSource → Except BindingError (Keyed Binding)
  | .known command => .ok command.bindings
  | .described form => describedBindings form

/-- The text that a parameter is given, in its plain form if it is given another value. -/
def textParameter (parameters : Keyed Json) (name default : Text) : Text :=
  ((parameters.get? name).map Json.plain).getD default

def textsParameter (parameters : Keyed Json) (name : Text) : List Text :=
  match parameters.get? name with
  | some (.array items) => items.filterMap fun item =>
    match item with
    | .string text => some text
    | _ => none
  | _ => []

def flagParameter (parameters : Keyed Json) (name : Text) (default : Bool) : Bool :=
  ((parameters.get? name).map Json.isTruthy).getD default

def pathParameter? (parameters : Keyed Json) (name : Text) : Option Text :=
  (parameters.get? name).bind Json.text?

def optionParameters (parameters : Keyed Json) : RawOptions :=
  let standard := RawOptions.default
  let depth := match parameters.get? "max_depth" with
    | none => standard.maxDepth
    | some (.integer depth) => some depth
    | some _ => none
  ⟨depth, textParameter parameters "empty_arrays" standard.emptyArrays,
    textParameter parameters "nested_naming" standard.nestedNaming, standard.room⟩

def Command.conversion (command : Command) (parameters : Keyed Json) : Conversion :=
  let inputs := textsParameter parameters "input_paths"
  let options := optionParameters parameters
  match command with
  | .java =>
    let package :=
      if flagParameter parameters "package_name" false then
        textParameter parameters "package_name" []
      else []
    .java ⟨inputs, pathParameter? parameters "java_project_dir", package,
      flagParameter parameters "lombok" true,
      flagParameter parameters "round_trip_tests" false, options⟩
  | .classSpec => .classSpec ⟨inputs, pathParameter? parameters "classspec_file", options⟩

end ClassSynth.CommandLine
