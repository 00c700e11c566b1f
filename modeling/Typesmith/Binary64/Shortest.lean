import Typesmith.Binary64

/-! # Shortest decimals

The decimal with the fewest digits among those that round to a given double, and of these the one
nearest to it.
-/

namespace Typesmith.Binary64

/-- `digits * 10 ^ exponent`. -/
structure Decimal where
  digits : Nat
  exponent : Int
deriving DecidableEq, Repr

def fractionLt (x y : Nat × Nat) : Bool :=
  x.1 * y.2 < y.1 * x.2

def Decimal.fraction (x : Decimal) : Nat × Nat :=
  if x.exponent < 0 then (x.digits, Nat.pow 10 x.exponent.natAbs)
  else (x.digits * Nat.pow 10 x.exponent.natAbs, 1)

/-- The numbers that round to a double lie between these two; the ends round to it iff its
significand is even. -/
def roundingEnds (x : Binary64) : (Nat × Nat) × (Nat × Nat) :=
  let low :=
    if x.significand = Nat.pow 2 (precision - 1) ∧ leastExponent < x.exponent then
      scaled (4 * x.significand - 1) 1 (2 - x.exponent)
    else scaled (2 * x.significand - 1) 1 (1 - x.exponent)
  (low, scaled (2 * x.significand + 1) 1 (1 - x.exponent))

def roundsTo (x : Binary64) (candidate : Decimal) : Bool :=
  let (low, high) := x.roundingEnds
  let value := candidate.fraction
  if x.significand % 2 = 0 then !fractionLt value low && !fractionLt high value
  else fractionLt low value && fractionLt value high

/-- The greatest `e` with `10 ^ e ≤ num / den`. -/
def decimalExponent (num den : Nat) : Int :=
  let least := ((num.log2 : Int) - den.log2) * 30103 / 100000 - 1
  let reached (e : Int) : Bool := !fractionLt (num, den) (Decimal.fraction ⟨1, e⟩)
  if reached (least + 2) then least + 2
  else if reached (least + 1) then least + 1
  else least

/-- The two neighbours of a double on the grid `10 ^ unit`, nearer first; of two equally near ones
the even first. -/
def neighbours (x : Binary64) (unit : Int) : List Decimal :=
  let (num, den) := x.fraction
  let power := Nat.pow 10 unit.natAbs
  let (n, d) := if unit < 0 then (num * power, den) else (num, den * power)
  let below := n / d
  let twice := 2 * (n % d)
  if twice < d ∨ (twice = d ∧ below % 2 = 0) then [⟨below, unit⟩, ⟨below + 1, unit⟩]
  else [⟨below + 1, unit⟩, ⟨below, unit⟩]

def Decimal.trimmed (x : Decimal) : Nat → Decimal
  | 0 => x
  | steps + 1 =>
    if x.digits % 10 = 0 then Decimal.trimmed ⟨x.digits / 10, x.exponent + 1⟩ steps else x

/-- Tries one digit, then two, up to seventeen. -/
def shortestFrom (x : Binary64) (exponent : Int) : Nat → Nat → Decimal
  | count, 0 => ⟨(x.neighbours (exponent - count)).headD ⟨0, 0⟩ |>.digits, exponent - count⟩
  | count, steps + 1 =>
    match (x.neighbours (exponent - count)).find? x.roundsTo with
    | some found => found
    | none => shortestFrom x exponent (count + 1) steps

def shortest (x : Binary64) : Decimal :=
  if x.isZero then ⟨0, 0⟩
  else (shortestFrom x (decimalExponent x.fraction.1 x.fraction.2) 0 17).trimmed 17

end Typesmith.Binary64
