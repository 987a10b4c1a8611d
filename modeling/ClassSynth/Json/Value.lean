import ClassSynth.Number.Binary64

/-!
# JSON values

The data model of a sample document.  An object is the list of its members in document order: a
keyed list, which keeps the order in which keys were first put.  A value from outside the data model
can stand among the others under the name of its type, so that the rules for such values can be
stated.
-/

set_option autoImplicit false

namespace ClassSynth

abbrev Keyed (α : Type) := List (Text × α)

namespace Keyed

variable {α : Type}

def get? (key : Text) (entries : Keyed α) : Option α :=
  (entries.find? fun entry => decide (entry.1 = key)).map Prod.snd

/-- Puts a value under a key.  A key that is present keeps its place; a new one comes last. -/
def put (key : Text) (value : α) : Keyed α → Keyed α
  | [] => [(key, value)]
  | (name, old) :: rest =>
    if name = key then (key, value) :: rest else (name, old) :: put key value rest

def keys (entries : Keyed α) : List Text := entries.map Prod.fst

end Keyed

inductive Json where
  | null
  | bool (value : Bool)
  | integer (value : Int)
  | number (value : Binary64)
  | string (value : Text)
  | array (items : List Json)
  | object (members : List (Text × Json))
  | foreign (typeName : Text)
deriving Inhabited

namespace Json

def kind : Json → Text
  | .null => "null"
  | .bool _ => "boolean"
  | .integer _ => "integer"
  | .number _ => "number"
  | .string _ => "string"
  | .array _ => "array"
  | .object _ => "object"
  | .foreign typeName => typeName

/-- Whether a value counts as true in a condition: all but null, false, zero and what is empty. -/
def isTruthy : Json → Bool
  | .null => false
  | .bool value => value
  | .integer value => decide (value ≠ 0)
  | .number value => !value.isZero
  | .string value => !value.isEmpty
  | .array items => !items.isEmpty
  | .object members => !members.isEmpty
  | .foreign _ => true

def text? : Json → Option Text
  | .string value => some value
  | _ => none

end Json

end ClassSynth
