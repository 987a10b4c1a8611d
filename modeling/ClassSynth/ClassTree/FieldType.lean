import ClassSynth.Text.Basic

/-!
# Field types

The type of a field: a primitive kind, a list, or a class of the same tree by name.  What names are
is left open, as long as they can be compared; in a finished class tree they are texts.
-/

set_option autoImplicit false

namespace ClassSynth

class NameEquality (Name : Type) where
  /-- Whether a name that is asked for by itself is another. -/
  equal : Name → Name → Bool
  /-- Whether two names are alike as parts of something larger. -/
  alike : Name → Name → Bool

instance : NameEquality Text where
  equal name other := decide (name = other)
  alike name other := decide (name = other)

/-- The primitive kinds; the three integral ones differ in the range they hold. -/
inductive Primitive where
  | string
  | int
  | long
  | bigInteger
  | boolean
  | double
deriving DecidableEq

namespace Primitive

def name : Primitive → Text
  | .string => "string"
  | .int => "int"
  | .long => "long"
  | .bigInteger => "biginteger"
  | .boolean => "boolean"
  | .double => "double"

def all : List Primitive := [.string, .int, .long, .bigInteger, .boolean, .double]

def ofName? (name : Text) : Option Primitive := all.find? fun kind => decide (kind.name = name)

/-- The narrowest integral kind that holds a value: 32 bits, 64 bits, or any number of bits. -/
def ofInt (value : Int) : Primitive :=
  if -0x80000000 ≤ value ∧ value ≤ 0x7FFFFFFF then .int
  else if -0x8000000000000000 ≤ value ∧ value ≤ 0x7FFFFFFFFFFFFFFF then .long
  else .bigInteger

end Primitive

inductive TypeOver (Name : Type) where
  | primitive (kind : Primitive)
  | list (element : TypeOver Name)
  | reference (className : Name)
deriving DecidableEq

abbrev FieldType := TypeOver Text

namespace TypeOver

variable {Name : Type}

def core : TypeOver Name → TypeOver Name
  | .list element => element.core
  | other => other

def map {Other : Type} (rename : Name → Other) : TypeOver Name → TypeOver Other
  | .primitive kind => .primitive kind
  | .list element => .list (element.map rename)
  | .reference className => .reference (rename className)

def rename? {Other : Type} (rename : Name → Option Other) : TypeOver Name → Option (TypeOver Other)
  | .primitive kind => some (.primitive kind)
  | .list element => (element.rename? rename).map .list
  | .reference className => (rename className).map .reference

def same [NameEquality Name] : TypeOver Name → TypeOver Name → Bool
  | .primitive kind, .primitive other => decide (kind = other)
  | .list element, .list other => element.same other
  | .reference className, .reference other => NameEquality.alike className other
  | _, _ => false

end TypeOver

theorem FieldType.same_iff (type other : FieldType) : type.same other = true ↔ type = other := by
  induction type generalizing other with
  | primitive kind => cases other <;> simp [TypeOver.same]
  | list element ih => cases other <;> simp [TypeOver.same, ih]
  | reference className => cases other <;> simp [TypeOver.same, NameEquality.alike]

def FieldType.text : FieldType → Text
  | .primitive kind => kind.name
  | .list element => "list<" ++ FieldType.text element ++ ">"
  | .reference className => className

end ClassSynth
