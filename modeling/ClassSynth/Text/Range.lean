import ClassSynth.Text.Basic

/-!
# Ranges of code points

Properties of Unicode code points are given as tables: a class is a list of closed ranges, and a
case mapping is a list of runs in which every code point moves by one shift, with the exceptions
that become several code points beside it.
-/

set_option autoImplicit false

namespace ClassSynth

def CodePoint.isIn (c : CodePoint) (ranges : List (Nat × Nat)) : Bool :=
  ranges.any fun range => decide (range.1 ≤ c.val) && decide (c.val ≤ range.2)

/-- Every `stride`-th code point from `first` to `last` moves by `shift`. -/
structure CaseRun where
  first : Nat
  last : Nat
  stride : Nat
  shift : Int

def CaseRun.moves (run : CaseRun) (c : CodePoint) : Bool :=
  decide (run.first ≤ c.val) && decide (c.val ≤ run.last) &&
    decide ((c.val - run.first) % run.stride = 0)

/-- A case mapping of single code points: exceptions that become several, and runs of shifts. -/
structure CaseMap where
  exceptions : List (Nat × List Nat)
  runs : List CaseRun

def CaseMap.apply (map : CaseMap) (c : CodePoint) : Text :=
  match map.exceptions.find? (fun entry => decide (entry.1 = c.val)) with
  | some entry => entry.2.map CodePoint.ofNumber
  | none =>
    match map.runs.find? (fun run => run.moves c) with
    | some run => [CodePoint.ofNumber (c.val + run.shift).toNat]
    | none => [c]

end ClassSynth
