import ClassSynth.CommandLine.Command
import ClassSynth.CommandLine.Parse

/-!
# Running a command line

A command line is read as an order, the order is carried out on a file tree, and the outcome is what
the program prints and its exit status.
-/

set_option autoImplicit false

namespace ClassSynth.CommandLine

def version : Text := "0.1.0"

def programGrammar : Grammar where
  program := programName
  description := some "Generate data classes from sample JSON documents."
  options := [
    .help,
    .switch "--version" "version" "Print the version of pojotize.",
    .switch "--verbose" "verbose" "Log progress for every file."]
  operand := .command (Command.all.map fun command => (command.name, command.summary))

inductive Order where
  | help
  | version
  | convert (verbose : Bool) (command : Command) (conversion : Conversion)

def orderOf (general : Keyed Json) (command : Option (Command × Conversion)) : Order :=
  if flagParameter general "version" false then .version
  else
    match command with
    | none => .help
    | some (command, conversion) =>
      .convert (flagParameter general "verbose" false) command conversion

def refuseExtras (extras : List Text) (order : Order) : Except Stop Order :=
  if extras.isEmpty then .ok order
  else .error (.refuse programGrammar ("unrecognized arguments: " ++ Text.join " " extras))

def Order.ofArguments (arguments : List Text) : Except Stop Order :=
  match programGrammar.read arguments with
  | .error stop => .error stop
  | .ok general =>
    let operands := general.operands.getD []
    match Command.ofName? (operands.headD []) with
    | none => refuseExtras general.extras (orderOf general.values none)
    | some command =>
      match command.grammar.read (operands.drop 1) with
      | .error stop => .error stop
      | .ok special =>
        let parameters := bind command.bindings special.values
        refuseExtras (general.extras ++ special.extras)
          (orderOf general.values (some (command, command.conversion parameters)))

/-- Arguments that are accepted and turn out to be of no use when they are needed: an output that is
no path, or a depth that is no number. -/
structure UnusableArguments where

structure Outcome where
  status : Nat
  output : Text
  errors : Text
deriving DecidableEq

def line (text : Text) : Text := text ++ "\n"

def Stop.outcome : Stop → Outcome
  | .help grammar => ⟨0, grammar.helpText, []⟩
  | .refuse grammar message =>
    ⟨2, [], grammar.usage ++ line (grammar.program ++ ": error: " ++ message)⟩

/-- The lines of a log; entries of the level `info` are shown only if asked for. -/
def logText (verbose : Bool) (log : List LogEntry) : Text :=
  log.flatMap fun entry =>
    match entry.level with
    | .info => if verbose then line ("INFO pojotize.jsontojava: " ++ entry.message) else []
    | .warning => line ("WARNING pojotize.jsontojava: " ++ entry.message)

def reportText (report : Report) : Text :=
  let count : Text := Text.ofNat report.generated.length
  line ("Converted " ++ count ++ " file(s)") ++
    report.failed.flatMap fun failure => line ("Error: " ++ failure.1 ++ ": " ++ failure.2)

def conclusion : Except ConversionError Report → Except UnusableArguments (Nat × Text)
  | .error .noOutput => .error ⟨⟩
  | .error (.options .noDepth) => .error ⟨⟩
  | .error e => .ok (1, line ("Error: " ++ e.message))
  | .ok report => .ok (if report.ok then 0 else 1, reportText report)

def runConversion (verbose : Bool) (command : Command) (conversion : Conversion)
    (files : FileTree) : Except UnusableArguments Outcome × FileTree :=
  let start : Text := line ("Executing " ++ command.summary ++ " with input " ++
    Text.join ", " conversion.inputs)
  match conversion.convert.runOn ⟨files, []⟩ with
  | (result, done) =>
    let outcome := (conclusion result).map fun (status, text) =>
      ⟨status, start ++ text, logText verbose done.log⟩
    (outcome, done.files)

def Order.run (files : FileTree) : Order → Except UnusableArguments Outcome × FileTree
  | .help => (.ok ⟨0, programGrammar.helpText, []⟩, files)
  | .version => (.ok ⟨0, line (programName ++ " " ++ CommandLine.version), []⟩, files)
  | .convert verbose command conversion => runConversion verbose command conversion files

def run (arguments : List Text) (files : FileTree) :
    Except UnusableArguments Outcome × FileTree :=
  match Order.ofArguments arguments with
  | .error stop => (.ok stop.outcome, files)
  | .ok order => order.run files

end ClassSynth.CommandLine
