import ClassSynth.Json.Value
import ClassSynth.Number.Quantity

/-!
# Equality of JSON values

Two values are alike when they say the same: numbers whatever their kind, a truth value counting as
one or zero; texts by their code points; arrays item by item; objects key by key, in any order.

A value that is asked for by itself is found by `equal`, which differs in one point: not-a-number
equals nothing.
-/

set_option autoImplicit false

namespace ClassSynth.Json

def quantity? : Json → Option Quantity
  | .bool value => some (Quantity.ofInt (if value then 1 else 0))
  | .integer value => some (Quantity.ofInt value)
  | .number value => some (Quantity.ofBinary64 value)
  | _ => none

def alikeScalars : Json → Json → Bool
  | .null, .null => true
  | .string value, .string other => decide (value = other)
  | .foreign typeName, .foreign other => decide (typeName = other)
  | value, other =>
    match value.quantity?, other.quantity? with
    | some p, some q => p.same q
    | _, _ => false

mutual

def alike : Json → Json → Bool
  | .array items, .array others => alikeItems items others
  | .object members, .object others =>
    decide (members.length = others.length) && alikeMembers members others
  | value, other => alikeScalars value other
termination_by structural value => value

def alikeItems : List Json → List Json → Bool
  | [], [] => true
  | item :: rest, other :: others => alike item other && alikeItems rest others
  | _, _ => false
termination_by structural items => items

/-- Whether each member is alike to the one that the others have under its key. -/
def alikeMembers : List (Text × Json) → List (Text × Json) → Bool
  | [], _ => true
  | (key, value) :: rest, others =>
    (match Keyed.get? key others with
      | some other => alike value other
      | none => false) && alikeMembers rest others
termination_by structural members => members

end

theorem alike_string_iff (t : Text) (value : Json) :
    alike (.string t) value = true ↔ value = .string t := by
  cases value <;> simp [alike, alikeScalars, quantity?, eq_comm]

def isNan : Json → Bool
  | .number .nan => true
  | _ => false

def equal (value other : Json) : Bool := !value.isNan && alike value other

theorem equal_string_iff (t : Text) (value : Json) :
    equal (.string t) value = true ↔ value = .string t := by
  simp [equal, isNan, alike_string_iff]

end ClassSynth.Json
