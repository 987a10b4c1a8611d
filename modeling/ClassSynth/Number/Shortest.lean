import ClassSynth.Number.Binary64

/-!
# Shortest decimal text

A binary64 value is written with the fewest significant digits that read back as the same value,
and among those with the digits nearest to it.  The decimals that read back form an interval around
the value, whose ends belong to it when the significand is even; for one to seventeen digits the two
neighbours of the value on that decimal grid are tested, and the first grid with a hit wins.
-/

set_option autoImplicit false

namespace ClassSynth.Binary64

/-- Decimal digits without sign: the value is `digits * 10 ^ exponent`. -/
structure Digits where
  digits : Nat
  exponent : Int

/-- The interval of decimals that read back as a value, in units of a quarter of its last place:
`value`, `low` and `high` are multiples of `unit / part`. -/
structure Interval where
  low : Nat
  value : Nat
  high : Nat
  closed : Bool
  unit : Nat
  part : Nat

def Interval.of (significand : Nat) (exponent : Int) : Interval :=
  let narrow := decide (significand = leastNormal) && decide (leastExponent < exponent)
  { low := 4 * significand - (if narrow then 1 else 2)
    value := 4 * significand
    high := 4 * significand + 2
    closed := decide (significand % 2 = 0)
    unit := Nat.pow 2 (exponent - 2).toNat
    part := Nat.pow 2 (2 - exponent).toNat }

def Interval.compare (i : Interval) (count : Nat) (exponent : Int) (place : Nat) : Ordering :=
  Ord.compare (count * Nat.pow 10 exponent.toNat * i.part)
    (place * i.unit * Nat.pow 10 (-exponent).toNat)

def Interval.holds (i : Interval) (count : Nat) (exponent : Int) : Bool :=
  match i.compare count exponent i.low, i.compare count exponent i.high with
  | .lt, _ => false
  | _, .gt => false
  | .eq, _ => i.closed
  | _, .eq => i.closed
  | .gt, .lt => true

def Interval.magnitude (i : Interval) : Int :=
  ((Nat.toDigits 10 (i.value * i.unit * Nat.pow 10 330 / i.part)).length : Int) - 330

/-- The neighbour of the value on the grid `10 ^ exponent` that lies in the interval: the nearer one
of two, and the even one when both are equally near. -/
def Interval.neighbour? (i : Interval) (exponent : Int) : Option Nat :=
  let below :=
    i.value * i.unit * Nat.pow 10 (-exponent).toNat / (i.part * Nat.pow 10 exponent.toNat)
  match i.holds below exponent, i.holds (below + 1) exponent with
  | true, false => some below
  | false, true => some (below + 1)
  | false, false => none
  | true, true =>
    match i.compare (2 * below + 1) exponent (2 * i.value) with
    | .lt => some (below + 1)
    | .gt => some below
    | .eq => some (if below % 2 = 0 then below else below + 1)

def Interval.search (i : Interval) (magnitude : Int) : (remaining tried : Nat) → Digits
  | 0, tried => ⟨i.value * i.unit / i.part, magnitude - tried⟩
  | remaining + 1, tried =>
    let exponent := magnitude - (tried + 1 : Nat)
    match i.neighbour? exponent with
    | some digits => ⟨digits, exponent⟩
    | none => i.search magnitude remaining (tried + 1)

def shortestDigits (significand : Nat) (exponent : Int) : Digits :=
  let interval := Interval.of significand exponent
  interval.search interval.magnitude 17 0

/-- Digits with the decimal point after `point` of them, the point being kept in front of a last
zero when there is no fraction. -/
def positional (digits : Text) (point : Int) : Text :=
  let zeros (n : Int) : Text := List.replicate n.toNat (CodePoint.ofChar '0')
  if point ≤ 0 then "0." ++ zeros (-point) ++ digits
  else if (digits.length : Int) ≤ point then digits ++ zeros (point - digits.length) ++ ".0"
  else digits.take point.toNat ++ "." ++ digits.drop point.toNat

def scientific (digits : Text) (exponent : Int) : Text :=
  let magnitude := exponent.natAbs
  let fraction : Text := if digits.length ≤ 1 then [] else "." ++ digits.drop 1
  let mark : Text := if exponent < 0 then "e-" else "e+"
  let padding : Text := if magnitude < 10 then "0" else ""
  digits.take 1 ++ fraction ++ mark ++ padding ++ Text.ofNat magnitude

def written : Binary64 → Text
  | .nan => "nan"
  | .infinite negative => if negative then "-inf" else "inf"
  | .finite negative significand exponent =>
    let sign : Text := if negative then "-" else ""
    if significand = 0 then sign ++ "0.0"
    else
      let found := shortestDigits significand exponent
      let all := Text.ofNat found.digits
      let digits := Text.trimRight (· = CodePoint.ofChar '0') all
      let point : Int := found.exponent + all.length
      sign ++
        (if -4 < point ∧ point ≤ 16 then positional digits point
        else scientific digits (point - 1))

end ClassSynth.Binary64
