import ClassSynth.CommandLine.Help
import ClassSynth.Json.Value
import ClassSynth.Text.Numeral
import ClassSynth.Text.Printable

/-!
# Reading command lines

First every argument is marked as an option or an operand; two dashes alone make everything behind
them operands.  Then options and runs of operands are taken in order.  The operands are taken once,
at the first run that is long enough; what is left over is kept apart.
-/

set_option autoImplicit false

namespace ClassSynth.CommandLine

inductive Stop where
  | help (grammar : Grammar)
  | refuse (grammar : Grammar) (message : Text)

inductive Mark where
  | operand
  | divider
  /-- An option as it is spelled in full, and the text that is joined to it, if any.  Nothing may be
  known of an option but its spelling. -/
  | option (rule : Option OptionRule) (spelling : Text) (joined : Option Text)

def Mark.isOption : Mark → Bool
  | .option _ _ _ => true
  | _ => false

def Mark.isDivider : Mark → Bool
  | .divider => true
  | _ => false

def dash : CodePoint := CodePoint.ofChar '-'

def equalsSign : CodePoint := CodePoint.ofChar '='

def cutAtEquals (argument : Text) : Text × Option Text :=
  let head := argument.takeWhile fun c => decide (c ≠ equalsSign)
  if head.length < argument.length then (head, some (argument.drop (head.length + 1)))
  else (argument, none)

/-- Whether an argument is a dash and a decimal number; one line feed may follow. -/
def isNegativeNumber (argument : Text) : Bool :=
  match argument with
  | [] => false
  | first :: body =>
    let body := if body.getLast? = some (CodePoint.ofChar '\n') then body.dropLast else body
    let isDigit (c : CodePoint) : Bool := c.digitValue?.isSome
    let rest := body.dropWhile isDigit
    decide (first = dash) &&
      match rest with
      | [] => !body.isEmpty
      | point :: fraction =>
        decide (point = CodePoint.ofChar '.') && !fraction.isEmpty && fraction.all isDigit

/-- The options that an argument may abbreviate.  After two dashes an option may be cut short; after
one dash a letter may carry its value. -/
def abbreviations (g : Grammar) (argument : Text) : List Mark :=
  if Text.startsWith argument "--" then
    let (start, joined) := cutAtEquals argument
    (g.spellings.filter fun entry => Text.startsWith entry.1 start).map fun entry =>
      .option (some entry.2) entry.1 joined
  else
    g.spellings.filterMap fun entry =>
      if entry.1 = argument.take 2 then
        some (.option (some entry.2) entry.1 (some (argument.drop 2)))
      else if Text.startsWith entry.1 argument then some (.option (some entry.2) entry.1 none)
      else none

def Mark.spelling : Mark → Text
  | .option _ spelling _ => spelling
  | _ => []

def markOption (g : Grammar) (argument : Text) : Except Stop Mark :=
  match g.find? argument with
  | some rule => .ok (.option (some rule) argument none)
  | none =>
    if argument.length = 1 then .ok .operand
    else
      let (start, joined) := cutAtEquals argument
      match joined, g.find? start with
      | some text, some rule => .ok (.option (some rule) start (some text))
      | _, _ =>
        match abbreviations g argument with
        | [mark] => .ok mark
        | [] =>
          if isNegativeNumber argument || argument.contains (CodePoint.ofChar ' ') then .ok .operand
          else .ok (.option none argument none)
        | several =>
          .error (.refuse g ("ambiguous option: " ++ argument ++ " could match " ++
            Text.join ", " (several.map Mark.spelling)))

def markAll (g : Grammar) : List Text → Except Stop (List (Text × Mark))
  | [] => .ok []
  | argument :: rest =>
    if argument = [dash, dash] then
      .ok ((argument, .divider) :: rest.map fun other => (other, .operand))
    else
      let mark : Except Stop Mark :=
        if argument.head? = some dash then markOption g argument else .ok .operand
      match mark with
      | .error stop => .error stop
      | .ok mark =>
        match markAll g rest with
        | .error stop => .error stop
        | .ok others => .ok ((argument, mark) :: others)

structure Reading where
  values : Keyed Json
  operands : Option (List Text)
  extras : List Text

def refuseArgument {α : Type} (g : Grammar) (title message : Text) : Except Stop α :=
  .error (.refuse g ("argument " ++ title ++ ": " ++ message))

def invalidChoice (value : Text) (choices : List Text) : Text :=
  "invalid choice: " ++ value.quoted ++ " (choose from " ++
    Text.join ", " (choices.map Text.quoted) ++ ")"

/-- The value that a text denotes for an option.  Two dashes alone are no value, also where they are
joined to an option; they leave an empty list. -/
def readValue (g : Grammar) (rule : OptionRule) (text : Text) : Except Stop Json :=
  if text = [dash, dash] then .ok (.array [])
  else match rule.effect with
  | .value .integer =>
    match text.toInt? with
    | some n => .ok (.integer n)
    | none => refuseArgument g rule.title ("invalid int value: " ++ text.quoted)
  | .value (.choice choices) =>
    if choices.contains text then .ok (.string text)
    else refuseArgument g rule.title (invalidChoice text choices)
  | _ => .ok (.string text)

def Reading.setValue (r : Reading) (g : Grammar) (rule : OptionRule) (text : Text) :
    Except Stop Reading :=
  (readValue g rule text).map fun value => { r with values := r.values.put rule.name value }

def Reading.setSwitch (r : Reading) (g : Grammar) (rule : OptionRule) : Except Stop Reading :=
  match rule.effect with
  | .help => .error (.help g)
  | _ => .ok { r with values := r.values.put rule.name (.bool true) }

def Reading.setSwitches (r : Reading) (g : Grammar) : List OptionRule → Except Stop Reading
  | [] => .ok r
  | rule :: rest =>
    match r.setSwitch g rule with
    | .error stop => .error stop
    | .ok next => next.setSwitches g rest

/-- What an argument with options spells: letters that take no value, and a last option with the
text that is joined to it, if any. -/
structure OptionRun where
  letters : List OptionRule
  last : OptionRule
  joined : Option Text

/-- Reads an option with a text joined to it.  Behind one dash and a letter that takes no value the
text begins with another letter; any other text joined to an option without a value is refused.  The
fuel is the length of the text, which gets shorter from letter to letter. -/
def readRun (g : Grammar) (letters : List OptionRule) :
    (fuel : Nat) → (rule : OptionRule) → (spelling joined : Text) → Except Stop OptionRun
  | 0, rule, _, joined => .ok ⟨letters, rule, some joined⟩
  | fuel + 1, rule, spelling, joined =>
    if rule.takesValue then .ok ⟨letters, rule, some joined⟩
    else
      let refused : Except Stop OptionRun :=
        refuseArgument g rule.title ("ignored explicit argument " ++ joined.quoted)
      match joined with
      | [] => refused
      | letter :: rest =>
        if Text.startsWith spelling "--" then refused
        else
          match g.find? [dash, letter] with
          | none => refused
          | some other =>
            if rest.isEmpty then .ok ⟨letters ++ [rule], other, none⟩
            else readRun g (letters ++ [rule]) fuel other [dash, letter] rest

def OptionRun.ofMark (g : Grammar) (rule : OptionRule) (spelling : Text) :
    Option Text → Except Stop OptionRun
  | none => .ok ⟨[], rule, none⟩
  | some joined => readRun g [] (joined.length + 1) rule spelling joined

/-- Takes an option, given what follows it; tells what is left.  Letters without values count only
once the last option has its value. -/
def Reading.takeOption (r : Reading) (g : Grammar) (argument : Text) (mark : Mark)
    (rest : List (Text × Mark)) : Except Stop (Reading × List (Text × Mark)) :=
  match mark with
  | .option (some rule) spelling joined =>
    match OptionRun.ofMark g rule spelling joined with
    | .error stop => .error stop
    | .ok run =>
      if run.last.takesValue then
        match run.joined, rest with
        | some value, _ =>
          match r.setSwitches g run.letters with
          | .error stop => .error stop
          | .ok next => (next.setValue g run.last value).map (·, rest)
        | none, (value, .operand) :: others =>
          match r.setSwitches g run.letters with
          | .error stop => .error stop
          | .ok next => (next.setValue g run.last value).map (·, others)
        | none, _ => refuseArgument g run.last.title "expected one argument"
      else (r.setSwitches g (run.letters ++ [run.last])).map (·, rest)
  | _ => .ok ({ r with extras := r.extras ++ [argument] }, rest)

/-- How many of the marked arguments the operands take: dividers, an operand, and what else may
belong to them; none if no operand is there. -/
def operandCount (rule : OperandRule) (marks : List Mark) : Nat :=
  let dividers := marks.takeWhile Mark.isDivider
  match marks.drop dividers.length with
  | .operand :: others =>
    match rule with
    | .several _ _ => dividers.length + 1 + (others.takeWhile fun m => !m.isOption).length
    | .command _ => marks.length
  | _ => 0

def Reading.takeOperands (r : Reading) (g : Grammar) (rest : List (Text × Mark)) :
    Except Stop (Reading × List (Text × Mark)) :=
  let count := operandCount g.operand (rest.map Prod.snd)
  if r.operands.isSome || count = 0 then .ok (r, rest)
  else
    let taken := (rest.take count).map Prod.fst
    match g.operand with
    | .several name _ =>
      let values := taken.erase [dash, dash]
      .ok ({ r with
        values := r.values.put name (.array (values.map .string))
        operands := some values }, rest.drop count)
    | .command choices =>
      let names := choices.map Prod.fst
      let command := taken.headD []
      if names.contains command then .ok ({ r with operands := some taken }, rest.drop count)
      else refuseArgument g "command" (invalidChoice command names)

/-- Takes everything.  Each round takes at least one argument, so as many rounds as there are
arguments suffice. -/
def Reading.takeAll (r : Reading) (g : Grammar) :
    (rounds : Nat) → List (Text × Mark) → Except Stop Reading
  | 0, rest => .ok { r with extras := r.extras ++ rest.map Prod.fst }
  | rounds + 1, rest =>
    if rest.any fun entry => entry.2.isOption then
      match rest with
      | [] => .ok r
      | (argument, mark) :: others =>
        if mark.isOption then
          match r.takeOption g argument mark others with
          | .error stop => .error stop
          | .ok (next, left) => next.takeAll g rounds left
        else
          match r.takeOperands g rest with
          | .error stop => .error stop
          | .ok (next, left) =>
            if left.length < rest.length then next.takeAll g rounds left
            else
              let skipped := rest.takeWhile fun entry => !entry.2.isOption
              { next with extras := next.extras ++ skipped.map Prod.fst }.takeAll g rounds
                (rest.drop skipped.length)
    else
      match r.takeOperands g rest with
      | .error stop => .error stop
      | .ok (next, left) => .ok { next with extras := next.extras ++ left.map Prod.fst }

def Reading.missing (r : Reading) (g : Grammar) : List Text :=
  let operands : List Text := match g.operand, r.operands with
    | .several name _, none => [name]
    | _, _ => []
  operands ++ (g.options.filter fun rule =>
    rule.required && !(r.values.keys.contains rule.name)).map OptionRule.title

def Reading.withDefaults (r : Reading) (g : Grammar) : Reading :=
  { r with
    values := r.values ++ (g.options.filter fun rule =>
      !(r.values.keys.contains rule.name)).map fun rule => (rule.name, rule.default) }

def Grammar.read (g : Grammar) (arguments : List Text) : Except Stop Reading :=
  match markAll g arguments with
  | .error stop => .error stop
  | .ok marked =>
    match Reading.takeAll ⟨[], none, []⟩ g (marked.length + 1) marked with
    | .error stop => .error stop
    | .ok r =>
      match r.missing g with
      | [] => .ok (r.withDefaults g)
      | names => .error (.refuse g
          ("the following arguments are required: " ++ Text.join ", " names))

end ClassSynth.CommandLine
