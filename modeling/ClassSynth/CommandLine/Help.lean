import ClassSynth.CommandLine.Grammar

/-!
# Usage and help texts

The usage text is one line if that fits, else the options and then the operands fill lines of their
own.  The help text has the usage, the description and a section each for operands and options, in
two columns.
-/

set_option autoImplicit false

namespace ClassSynth.CommandLine

def lineWidth : Nat := 78

/-- The column at which summaries begin, unless all entries are short enough to begin sooner. -/
def summaryColumn : Nat := 24

/-- Fills lines with words.  `used` columns are taken on the current line, which holds the words in
`line`, last first; a later line begins with `margin` columns taken. -/
def fillFrom (width margin : Nat) (used : Nat) (line : List Text) : List Text → List (List Text)
  | [] => if line.isEmpty then [] else [line.reverse]
  | word :: rest =>
    let gap := if line.isEmpty then 0 else 1
    if width < used + gap + word.length && !line.isEmpty then
      line.reverse :: fillFrom width margin (margin + word.length) [word] rest
    else fillFrom width margin (used + gap + word.length) (word :: line) rest

def fill (width used margin : Nat) (words : List Text) : List Text :=
  (fillFrom width margin used [] words).map (Text.join " ")

def spaces (n : Nat) : Text := List.replicate n (CodePoint.ofChar ' ')

def words (t : Text) : List Text := (t.cutAt (CodePoint.ofChar ' ')).filter (· ≠ [])

namespace OptionRule

/-- The words for an option in a usage text; one that may be left out stands in brackets. -/
def usageWords (rule : OptionRule) : List Text :=
  let spelling := rule.spellings.headD []
  if rule.required then [spelling, rule.placeholder]
  else if rule.takesValue then ["[" ++ spelling ++ " " ++ rule.placeholder ++ "]"]
  else ["[" ++ spelling ++ "]"]

def entry (rule : OptionRule) : Text :=
  Text.join ", " (rule.spellings.map fun spelling =>
    if rule.takesValue then spelling ++ " " ++ rule.placeholder else spelling)

end OptionRule

namespace OperandRule

def placeholder : OperandRule → Text
  | .several name _ => name
  | .command choices => "\x7b" ++ Text.join "," (choices.map Prod.fst) ++ "\x7d"

def usageWords (rule : OperandRule) : List Text :=
  match rule with
  | .several name _ => [name, "[" ++ name ++ " ...]"]
  | .command _ => [rule.placeholder, "..."]

end OperandRule

namespace Grammar

def usageStart : Text := "usage: "

def usageLines (g : Grammar) : List Text :=
  let options := g.options.flatMap OptionRule.usageWords
  let operands := g.operand.usageWords
  let whole := usageStart ++ Text.join " " (g.program :: (options ++ operands))
  if whole.length ≤ lineWidth then [whole]
  else
    let margin := usageStart.length + g.program.length + 1
    match fill lineWidth usageStart.length margin (g.program :: options) with
    | [] => []
    | first :: rest =>
      (usageStart ++ first) ::
        (rest ++ fill lineWidth margin margin operands).map (spaces margin ++ ·)

def usage (g : Grammar) : Text := Text.join "\n" g.usageLines ++ "\n"

/-- An entry and its summary in two columns; the summary begins on the next line if the entry is too
long for its column. -/
def columns (column indent : Nat) (entry summary : Text) : List Text :=
  let lines := fill (lineWidth - column) 0 0 (words summary)
  let left := spaces indent ++ entry
  match lines with
  | [] => [left]
  | first :: rest =>
    let others := rest.map (spaces column ++ ·)
    if left.length + 2 ≤ column then (left ++ spaces (column - left.length) ++ first) :: others
    else left :: (spaces column ++ first) :: others

def column (g : Grammar) : Nat :=
  let commands : List Text := match g.operand with
    | .several _ _ => []
    | .command choices => choices.map Prod.fst
  let entries := g.operand.placeholder :: (commands ++ g.options.map OptionRule.entry)
  min (entries.foldl (fun longest entry => max longest entry.length) 0 + 4) summaryColumn

def operandLines (g : Grammar) : List Text :=
  match g.operand with
  | .several name summary => columns g.column 2 name summary
  | .command choices =>
    (spaces 2 ++ g.operand.placeholder) ::
      choices.flatMap fun choice => columns g.column 4 choice.1 choice.2

def optionLines (g : Grammar) : List Text :=
  g.options.flatMap fun rule => columns g.column 2 rule.entry rule.summary

def helpText (g : Grammar) : Text :=
  let description : List (List Text) := match g.description with
    | none => []
    | some text => [fill lineWidth 0 0 (words text)]
  let operandTitle : Text := "positional arguments:"
  let optionTitle : Text := "options:"
  let blocks := [g.usageLines] ++ description ++
    [operandTitle :: g.operandLines, optionTitle :: g.optionLines]
  Text.join "\n\n" (blocks.map (Text.join "\n")) ++ "\n"

end Grammar

end ClassSynth.CommandLine
