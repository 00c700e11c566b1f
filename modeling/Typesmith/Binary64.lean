/-! # Double-precision numbers

A double is a sign and `significand * 2 ^ exponent`, in the one form in which the significand has
53 bits unless the exponent is the least. Rounding goes to the nearest double, a tie to the even
significand.
-/

namespace Typesmith

structure Binary64 where
  negative : Bool
  significand : Nat
  exponent : Int
deriving DecidableEq, Repr

namespace Binary64

def precision : Nat := 53

def leastExponent : Int := -1074

/-- The greatest exponent of a finite double. -/
def greatestExponent : Int := 971

/-- `num * 2 ^ -shift / den` as a fraction of natural numbers. -/
def scaled (num den : Nat) (shift : Int) : Nat × Nat :=
  if shift < 0 then (num * Nat.pow 2 shift.natAbs, den) else (num, den * Nat.pow 2 shift.natAbs)

/-- `num / den`, rounded to the nearest natural number, a tie to the even one. -/
def roundDiv (num den : Nat) : Nat :=
  let quotient := num / den
  let twice := 2 * (num % den)
  if twice < den then quotient
  else if den < twice then quotient + 1
  else if quotient % 2 = 0 then quotient
  else quotient + 1

/-- An exponent at which `num / den` has at most 53 bits, and 52 or 53 unless it is the least. -/
def exponentFor (num den : Nat) : Int :=
  max leastExponent ((num.log2 : Int) - (den.log2 : Int) - precision)

/-- The double nearest to `num / den`; none if that is too large. -/
def round? (negative : Bool) (num den : Nat) : Option Binary64 :=
  if num = 0 then some ⟨negative, 0, leastExponent⟩
  else
    let start := exponentFor num den
    let (n, d) := scaled num den start
    let exponent := if Nat.pow 2 precision ≤ n / d then start + 1 else start
    let (n, d) := scaled num den exponent
    let significand := roundDiv n d
    let (significand, exponent) :=
      if significand = Nat.pow 2 precision then (Nat.pow 2 (precision - 1), exponent + 1)
      else (significand, exponent)
    if greatestExponent < exponent then none else some ⟨negative, significand, exponent⟩

def fraction (x : Binary64) : Nat × Nat :=
  scaled x.significand 1 (-x.exponent)

def isZero (x : Binary64) : Bool :=
  x.significand == 0

def mul? (x y : Binary64) : Option Binary64 :=
  round? x.negative (x.fraction.1 * y.fraction.1) (x.fraction.2 * y.fraction.2)

def div? (x y : Binary64) : Option Binary64 :=
  round? x.negative (x.fraction.1 * y.fraction.2) (x.fraction.2 * y.fraction.1)

end Binary64

end Typesmith
