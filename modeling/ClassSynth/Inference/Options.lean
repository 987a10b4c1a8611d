import ClassSynth.Text.Basic

/-!
# Inference options

How deep a document may nest, what an empty array means, what a nested class is named after, and how
much room there is on the call stack.  Options are made from numbers and names that a caller
supplies; the first bad one is reported.
-/

set_option autoImplicit false

namespace ClassSynth

inductive EmptyArrays where
  | refuse
  | assumeStrings
deriving DecidableEq

/-- What a nested class is named after: the key of the field that holds the object, or the first
key inside the object, if it has one. -/
inductive NestedNaming where
  | byField
  | byFirstKey
deriving DecidableEq

structure Options where
  maxDepth : Nat
  emptyArrays : EmptyArrays
  nestedNaming : NestedNaming
  /-- The levels that a synthesis can descend before the call stack runs out.  It is nothing that a
  caller asks for: it hangs on how many calls are open where the synthesis begins, and on what the
  levels hold, since an object takes three calls and an array one. -/
  room : Nat

def defaultMaxDepth : Nat := 64

/-- The levels of objects for which a stack of a thousand calls has room when few of them are open.
A document that nests arrays has more room, up to three times as many levels for arrays alone. -/
def defaultRoom : Nat := 330

def Options.default : Options := ⟨defaultMaxDepth, .refuse, .byField, defaultRoom⟩

inductive OptionError where
  | noDepth
  | negativeDepth (depth : Int)
  | unknownEmptyArrays (name : Text)
  | unknownNestedNaming (name : Text)

def OptionError.message? : OptionError → Option Text
  | .noDepth => none
  | .negativeDepth depth => some ("max_depth must not be negative, got " ++ Text.ofInt depth)
  | .unknownEmptyArrays name => some ("Unknown empty array policy: " ++ name)
  | .unknownNestedNaming name => some ("Unknown nested naming rule: " ++ name)

def EmptyArrays.ofName? (name : Text) : Option EmptyArrays :=
  if name = "error" then some .refuse
  else if name = "string" then some .assumeStrings
  else none

def NestedNaming.ofName? (name : Text) : Option NestedNaming :=
  if name = "field" then some .byField
  else if name = "first-key" then some .byFirstKey
  else none

structure RawOptions where
  /-- The depth, if it is a whole number. -/
  maxDepth : Option Int
  emptyArrays : Text
  nestedNaming : Text
  room : Nat := defaultRoom

def RawOptions.default : RawOptions := ⟨some defaultMaxDepth, "error", "field", defaultRoom⟩

def Options.ofRaw (raw : RawOptions) : Except OptionError Options :=
  match raw.maxDepth with
  | none => .error .noDepth
  | some depth =>
    if depth < 0 then .error (.negativeDepth depth)
    else match EmptyArrays.ofName? raw.emptyArrays with
      | none => .error (.unknownEmptyArrays raw.emptyArrays)
      | some emptyArrays =>
        match NestedNaming.ofName? raw.nestedNaming with
        | none => .error (.unknownNestedNaming raw.nestedNaming)
        | some nestedNaming => .ok ⟨depth.toNat, emptyArrays, nestedNaming, raw.room⟩

end ClassSynth
