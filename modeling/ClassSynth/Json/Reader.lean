import ClassSynth.Json.Lexeme

/-!
# Reading JSON

The reader takes one lexeme at a time and keeps the containers that are open.  Each step either
moves to the next state or names the fault, so the first fault of a text decides, and the reader
never looks at anything behind it.
-/

set_option autoImplicit false

namespace ClassSynth.Json

inductive Container where
  | array
  | object

/-- A position in a text: index, line and column; lines and columns count from one. -/
structure Place where
  index : Nat
  line : Nat
  column : Nat

def Place.of (source : Text) (index : Nat) : Place :=
  let before := source.take index
  let isLineFeed (c : CodePoint) : Bool := decide (c = CodePoint.ofChar '\n')
  { index
    line := before.countP isLineFeed + 1
    column := (before.reverse.takeWhile fun c => !isLineFeed c).length + 1 }

inductive ReadError where
  | malformed (fault : Fault) (place : Place)
  | overlongInteger (digits : Nat)
  | nestedTooDeep (container : Container)

def ReadError.message : ReadError → Text
  | .malformed fault place =>
    fault.message ++ ": line " ++ Text.ofNat place.line ++ " column " ++ Text.ofNat place.column ++
      " (char " ++ Text.ofNat place.index ++ ")"
  | .overlongInteger digits =>
    "Exceeds the limit (" ++ Text.ofNat integerDigitLimit ++
      " digits) for integer string conversion: value has " ++ Text.ofNat digits ++
      " digits; use sys.set_int_max_str_digits() to increase the limit"
  | .nestedTooDeep .array =>
    "maximum recursion depth exceeded while decoding a JSON array from a unicode string"
  | .nestedTooDeep .object =>
    "maximum recursion depth exceeded while decoding a JSON object from a unicode string"

/-- A container that is open: the items read, last first, or the members read and the key of the
value being read. -/
inductive Frame where
  | array (items : List Json)
  | object (members : List (Text × Json)) (key : Text)

/-- What the reader looks for next, inside the containers that are open, innermost first. -/
inductive State where
  | value (frames : List Frame)
  | firstItem (frames : List Frame)
  | firstKey (frames : List Frame)
  | key (members : List (Text × Json)) (frames : List Frame)
  | colon (members : List (Text × Json)) (name : Text) (frames : List Frame)
  | afterItem (items : List Json) (frames : List Frame)
  | afterMember (members : List (Text × Json)) (frames : List Frame)
  | finished (document : Json)

inductive Failure where
  | fault (fault : Fault) (index : Nat)
  | overlongInteger (digits : Nat)
  | nestedTooDeep (container : Container)

/-- The most containers that may be open.  Each takes one of the thousand calls that a call stack
holds, so the limit is what a caller leaves who has some twenty calls open; where fewer are open, a
few containers more can be read. -/
def nestingLimit : Nat := 980

def State.deliver (value : Json) : List Frame → State
  | [] => .finished value
  | .array items :: frames => .afterItem (value :: items) frames
  | .object members name :: frames => .afterMember (Keyed.put name value members) frames

def State.enter (container : Container) (frames : List Frame) : Except Failure State :=
  if nestingLimit ≤ frames.length then .error (.nestedTooDeep container)
  else match container with
    | .array => .ok (.firstItem frames)
    | .object => .ok (.firstKey frames)

def State.takeValue (position : Nat) (frames : List Frame) : Lexeme → Except Failure State
  | .string text => .ok (.deliver (.string text) frames)
  | .scalar scalar => .ok (.deliver scalar frames)
  | .beginArray => enter .array frames
  | .beginObject => enter .object frames
  | .overlongInteger digits => .error (.overlongInteger digits)
  | .broken cause place => .error (.fault cause place)
  | _ => .error (.fault .expectingValue position)

def State.takeKey (position : Nat) (members : List (Text × Json)) (frames : List Frame) :
    Lexeme → Except Failure State
  | .string name => .ok (.colon members name frames)
  | .broken fault place => .error (.fault fault place)
  | _ => .error (.fault .expectingPropertyName position)

def State.step (position : Nat) (lexeme : Lexeme) : State → Except Failure State
  | .value frames => takeValue position frames lexeme
  | .firstItem frames =>
    match lexeme with
    | .endArray => .ok (.deliver (.array []) frames)
    | other => takeValue position (.array [] :: frames) other
  | .firstKey frames =>
    match lexeme with
    | .endObject => .ok (.deliver (.object []) frames)
    | other => takeKey position [] frames other
  | .key members frames => takeKey position members frames lexeme
  | .colon members name frames =>
    match lexeme with
    | .colon => .ok (.value (.object members name :: frames))
    | _ => .error (.fault .expectingColon position)
  | .afterItem items frames =>
    match lexeme with
    | .comma => .ok (.value (.array items :: frames))
    | .endArray => .ok (.deliver (.array items.reverse) frames)
    | _ => .error (.fault .expectingComma position)
  | .afterMember members frames =>
    match lexeme with
    | .comma => .ok (.key members frames)
    | .endObject => .ok (.deliver (.object members) frames)
    | _ => .error (.fault .expectingComma position)
  | .finished _ => .error (.fault .extraData position)

def State.finish (position : Nat) : State → Except Failure Json
  | .finished document => .ok document
  | .value _ => .error (.fault .expectingValue position)
  | .firstItem _ => .error (.fault .expectingValue position)
  | .firstKey _ => .error (.fault .expectingPropertyName position)
  | .key _ _ => .error (.fault .expectingPropertyName position)
  | .colon _ _ _ => .error (.fault .expectingColon position)
  | .afterItem _ _ => .error (.fault .expectingComma position)
  | .afterMember _ _ => .error (.fault .expectingComma position)

/-- Reads on from a position; `skip` code points belong to a lexeme that has been taken. -/
def readFrom : (skip position : Nat) → State → Text → Except Failure Json
  | _, position, state, [] => state.finish position
  | skip + 1, position, state, _ :: rest => readFrom skip (position + 1) state rest
  | 0, position, state, c :: rest =>
    if isBlank c then readFrom 0 (position + 1) state rest
    else
      let lexed := lexemeAt position c rest
      match state.step position lexed.lexeme with
      | .error failure => .error failure
      | .ok next => readFrom lexed.extra (position + 1) next rest

def Failure.toReadError (source : Text) : Failure → ReadError
  | .fault cause index => .malformed cause (Place.of source index)
  | .overlongInteger digits => .overlongInteger digits
  | .nestedTooDeep container => .nestedTooDeep container

def byteOrderMark : CodePoint := CodePoint.ofNumber 0xFEFF

def read (source : Text) : Except ReadError Json :=
  let outcome :=
    if source.head? = some byteOrderMark then .error (.fault .byteOrderMark 0)
    else readFrom 0 0 (.value []) source
  outcome.mapError (Failure.toReadError source)

end ClassSynth.Json
