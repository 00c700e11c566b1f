import Typesmith.Binary64.Shortest

/-! # JSON numbers

A number without fraction and exponent is an integer where it fits in 64 bits; every other number is
a double.
-/

namespace Typesmith.Json

inductive Number where
  | integer (value : Int)
  | double (value : Binary64)
deriving DecidableEq, Repr

/-- The parts of a number as it is written. -/
structure Numeral where
  negative : Bool
  whole : List Nat
  fraction : Option (List Nat)
  exponent : Option Int
deriving DecidableEq, Repr

/-- Reads digits while the significand stays below `2 ^ 64`; gives it with the digits left. -/
def accumulate (significand : Nat) : List Nat → Nat × List Nat
  | [] => (significand, [])
  | digit :: rest =>
    if significand * 10 + digit < Nat.pow 2 64 then accumulate (significand * 10 + digit) rest
    else (significand, digit :: rest)

def powerOfTen (n : Nat) : Option Binary64 :=
  Binary64.round? false (Nat.pow 10 n) 1

def greatestPower : Nat := 308

def divideTimes (x : Binary64) : Nat → Option Binary64
  | 0 => some x
  | times + 1 =>
    if x.isZero then some x
    else
      match (powerOfTen greatestPower).bind x.div? with
      | some y => divideTimes y times
      | none => none

/-- Scales by a power of ten, rounding after each step; none if the result is too large. -/
def scaleByTen (x : Binary64) (exponent : Int) : Option Binary64 :=
  if x.isZero then some x
  else if 0 ≤ exponent then
    if exponent ≤ greatestPower then (powerOfTen exponent.natAbs).bind x.mul? else none
  else
    let times := (exponent.natAbs - 1) / greatestPower
    (divideTimes x times).bind fun y =>
      (powerOfTen (exponent.natAbs - times * greatestPower)).bind y.div?

namespace Numeral

def decimal (numeral : Numeral) : Nat × Int :=
  let (whole, wholeLeft) := accumulate 0 numeral.whole
  let digits := numeral.fraction.getD []
  let (significand, left) := accumulate whole digits
  (significand, wholeLeft.length - (digits.length - left.length : Nat) + numeral.exponent.getD 0)

def double? (numeral : Numeral) : Option Binary64 :=
  let (significand, exponent) := numeral.decimal
  (Binary64.round? numeral.negative significand 1).bind (scaleByTen · exponent)

/-- The integer that a numeral denotes: `-0` denotes none, for its sign counts. -/
def integer? (numeral : Numeral) : Option Int :=
  if numeral.fraction.isSome || numeral.exponent.isSome then none
  else
    let (magnitude, left) := accumulate 0 numeral.whole
    if !left.isEmpty then none
    else if !numeral.negative then some magnitude
    else if magnitude = 0 ∨ Nat.pow 2 63 < magnitude then none
    else some (-magnitude)

def number? (numeral : Numeral) : Option Number :=
  match numeral.integer? with
  | some value => some (.integer value)
  | none => numeral.double?.map .double

end Numeral

namespace Number

/-- Where a double is written without exponent, and how its exponent is written. -/
structure Layout where
  leastPlain : Int
  leastScientific : Int
  positiveSign : List Char

/-- Doubles from `1e-5` up to `1e16` are plain; a positive exponent has its sign. -/
def layout : Layout := ⟨-5, 16, ['+']⟩

def digitsText (n : Nat) : List Char := Nat.toDigits 10 n

/-- Writes `digits` with the point after the first `whole` of them. -/
def plainText (digits : List Char) (whole : Int) : List Char :=
  if whole ≤ 0 then ['0', '.'] ++ List.replicate whole.natAbs '0' ++ digits
  else if digits.length ≤ whole.natAbs then
    digits ++ List.replicate (whole.natAbs - digits.length) '0' ++ ['.', '0']
  else digits.take whole.natAbs ++ ['.'] ++ digits.drop whole.natAbs

def scientificText (digits : List Char) (exponent : Int) : List Char :=
  let mantissa := match digits with
    | [] => []
    | [digit] => [digit]
    | digit :: rest => digit :: '.' :: rest
  let sign := if exponent < 0 then ['-'] else layout.positiveSign
  mantissa ++ ['e'] ++ sign ++ digitsText exponent.natAbs

def doubleText (x : Binary64) : List Char :=
  let decimal := x.shortest
  let digits := digitsText decimal.digits
  let exponent := decimal.exponent + (digits.length - 1 : Nat)
  let magnitude :=
    if layout.leastPlain ≤ exponent ∧ exponent < layout.leastScientific then
      plainText digits (exponent + 1)
    else scientificText digits exponent
  if x.negative then '-' :: magnitude else magnitude

def integerText (n : Int) : List Char :=
  if n < 0 then '-' :: digitsText n.natAbs else digitsText n.natAbs

def text : Number → String
  | integer value => .ofList (integerText value)
  | double value => .ofList (doubleText value)

end Number

end Typesmith.Json
