import ClassSynth.Json.Value

/-!
# Command line grammars

A grammar lists the options that a command line may hold and says what its other arguments, the
operands, mean.  Reading a command line and writing its help both follow the grammar.
-/

set_option autoImplicit false

namespace ClassSynth.CommandLine

inductive ValueKind where
  | text
  | integer
  | choice (choices : List Text)
deriving DecidableEq

inductive Effect where
  | help
  | switch
  | value (kind : ValueKind)
deriving DecidableEq

/-- An option: how it may be spelled, and the name of the argument that it sets. -/
structure OptionRule where
  spellings : List Text
  name : Text
  effect : Effect
  required : Bool
  default : Json
  summary : Text

inductive OperandRule where
  /-- One or more values of one argument. -/
  | several (name summary : Text)
  /-- A command, by name and summary, with everything behind it. -/
  | command (choices : List (Text × Text))

structure Grammar where
  program : Text
  description : Option Text
  options : List OptionRule
  operand : OperandRule

namespace OptionRule

def help : OptionRule :=
  ⟨["-h", "--help"], "help", .help, false, .null, "show this help message and exit"⟩

def switch (spelling name summary : Text) : OptionRule :=
  ⟨[spelling], name, .switch, false, .bool false, summary⟩

def mandatory (spelling name summary : Text) : OptionRule :=
  ⟨[spelling], name, .value .text, true, .null, summary⟩

def optional (spelling name : Text) (kind : ValueKind) (default : Json) (summary : Text) :
    OptionRule :=
  ⟨[spelling], name, .value kind, false, default, summary⟩

def title (rule : OptionRule) : Text := Text.join "/" rule.spellings

/-- What stands for the value of the option in usage texts: its choices, or its name in capitals. -/
def placeholder (rule : OptionRule) : Text :=
  match rule.effect with
  | .value (.choice choices) => "\x7b" ++ Text.join "," choices ++ "\x7d"
  | _ => rule.name.map fun c => if c.isAsciiLower then CodePoint.ofNumber (c.val - 32) else c

def takesValue (rule : OptionRule) : Bool :=
  match rule.effect with
  | .value _ => true
  | _ => false

end OptionRule

namespace Grammar

def spellings (g : Grammar) : List (Text × OptionRule) :=
  g.options.flatMap fun rule => rule.spellings.map fun spelling => (spelling, rule)

def find? (g : Grammar) (spelling : Text) : Option OptionRule :=
  (g.spellings.find? fun entry => decide (entry.1 = spelling)).map Prod.snd

end Grammar

end ClassSynth.CommandLine
