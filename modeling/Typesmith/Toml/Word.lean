import Typesmith.Binary64
import Typesmith.Toml.Quoted

/-! # TOML words

The values of a document, and how those are read that are written without quotes or brackets:
truth values, numbers, dates and times.
-/

namespace Typesmith.Toml

inductive Real where
  | finite (value : Binary64)
  | infinite (negative : Bool)
  | notANumber
deriving DecidableEq, Repr

inductive Value where
  | string (value : String)
  | integer (value : Int)
  | real (value : Real)
  | boolean (value : Bool)
  | moment (text : String)
  | array (items : List Value)
  | table (entries : List (String × Value))
deriving Repr, Inhabited

abbrev Table := List (String × Value)

end Typesmith.Toml

namespace Typesmith.Toml.Word

open Quoted (isDigit natOf)

def grouped? (base : Nat) (cs : List Char) : Option (List Char × List Char) :=
  let found := cs.takeWhile fun c => isDigit base c || c = '_'
  let groups := found.splitOn '_'
  if groups.any List.isEmpty then none else some (groups.flatten, cs.drop found.length)

def sign : List Char → Bool × List Char
  | '-' :: rest => (true, rest)
  | '+' :: rest => (false, rest)
  | cs => (false, cs)

/-- Integers have at most 128 bits, with or without a sign. -/
def integerOf? (value : Int) : Option Value :=
  if -Nat.pow 2 127 ≤ value ∧ value < Nat.pow 2 128 then some (.integer value) else none

def baseOf? : Char → Option Nat
  | 'x' => some 16
  | 'o' => some 8
  | 'b' => some 2
  | _ => none

def based? : List Char → Option Value
  | '0' :: mark :: digits => do
    let base ← baseOf? mark
    match ← grouped? base digits with
    | (digits, []) => integerOf? (natOf base digits)
    | _ => none
  | _ => none

def whole? (cs : List Char) : Option (List Char × List Char) :=
  match grouped? 10 cs with
  | some ('0' :: _ :: _, _) => none
  | found => found

/-- Powers of ten beyond this bound take any digits that are written to zero or past all
doubles. -/
def exponentBound (digits : List Char) : Int :=
  digits.length + 400

def real? (negative : Bool) (digits : List Char) (exponent : Int) : Option Binary64 :=
  let significand := natOf 10 digits
  let bound := exponentBound digits
  if significand = 0 ∨ exponent < -bound then Binary64.round? negative 0 1
  else if bound < exponent then none
  else if 0 ≤ exponent then Binary64.round? negative (significand * Nat.pow 10 exponent.natAbs) 1
  else Binary64.round? negative significand (Nat.pow 10 exponent.natAbs)

def fraction? : List Char → Option (Option (List Char) × List Char)
  | '.' :: cs => (grouped? 10 cs).map fun (digits, rest) => (some digits, rest)
  | cs => some (none, cs)

def exponent? : List Char → Option (Option Int)
  | [] => some none
  | mark :: cs =>
    if mark = 'e' ∨ mark = 'E' then
      let (negative, cs) := sign cs
      match grouped? 10 cs with
      | some (digits, []) =>
        let magnitude : Int := natOf 10 digits
        some (some (if negative then -magnitude else magnitude))
      | _ => none
    else none

def decimal? (cs : List Char) : Option Value := do
  let (negative, cs) := sign cs
  let (whole, cs) ← whole? cs
  let (fraction, cs) ← fraction? cs
  let exponent ← exponent? cs
  if fraction.isNone && exponent.isNone then
    let magnitude : Int := natOf 10 whole
    integerOf? (if negative then -magnitude else magnitude)
  else
    let digits := fraction.getD []
    return .real (.finite (← real? negative (whole ++ digits)
      (exponent.getD 0 - (digits.length : Int))))

def number? (count low high : Nat) (cs : List Char) : Option (Nat × List Char) :=
  let digits := cs.take count
  let value := natOf 10 digits
  if digits.length = count ∧ digits.all (isDigit 10) ∧ low ≤ value ∧ value ≤ high then
    some (value, cs.drop count)
  else none

def expect? (c : Char) : List Char → Option (List Char)
  | [] => none
  | head :: rest => if head = c then some rest else none

def isLeap (year : Nat) : Bool :=
  (year % 4 = 0 && year % 100 ≠ 0) || year % 400 = 0

def daysOf (year month : Nat) : Nat :=
  if month = 2 then (if isLeap year then 29 else 28)
  else if [4, 6, 9, 11].contains month then 30
  else 31

def afterDate? (cs : List Char) : Option (List Char) := do
  let (year, cs) ← number? 4 0 9999 cs
  let (month, cs) ← number? 2 1 12 (← expect? '-' cs)
  let (_, cs) ← number? 2 1 (daysOf year month) (← expect? '-' cs)
  return cs

def afterSeconds? : List Char → Option (List Char)
  | ':' :: cs => do
    let (_, cs) ← number? 2 0 60 cs
    match cs with
    | '.' :: cs =>
      let digits := cs.takeWhile (isDigit 10)
      if digits.isEmpty then none else return cs.drop digits.length
    | cs => return cs
  | cs => some cs

/-- What follows a time of day; the seconds may be left out. -/
def afterTime? (cs : List Char) : Option (List Char) := do
  let (_, cs) ← number? 2 0 23 cs
  let (_, cs) ← number? 2 0 59 (← expect? ':' cs)
  afterSeconds? cs

def isOffset : List Char → Bool
  | [] => true
  | ['z'] | ['Z'] => true
  | mark :: cs =>
    if mark = '+' ∨ mark = '-' then
      match number? 2 0 23 cs with
      | some (_, ':' :: cs) => (number? 2 0 59 cs).any (·.2.isEmpty)
      | _ => false
    else false

def isMoment (cs : List Char) : Bool :=
  match afterDate? cs with
  | some [] => true
  | some (mark :: rest) => (mark = 'T' || mark = 't' || mark = ' ') && (afterTime? rest).any isOffset
  | none => (afterTime? cs).any List.isEmpty

def isWordChar (c : Char) : Bool :=
  isDigit 36 c || ['_', '-', '+', '.', ':'].contains c

/-- The word at the front: a date, a blank and a time are one word. -/
def split (cs : List Char) : List Char × List Char :=
  let first := cs.takeWhile isWordChar
  let rest := cs.drop first.length
  match afterDate? first, rest with
  | some [], ' ' :: after =>
    let second := after.takeWhile isWordChar
    if second.head?.any (isDigit 10) then (first ++ ' ' :: second, after.drop second.length)
    else (first, rest)
  | _, _ => (first, rest)

def value? (word : List Char) : Option Value :=
  let (negative, magnitude) := sign word
  if word = ['t', 'r', 'u', 'e'] then some (.boolean true)
  else if word = ['f', 'a', 'l', 's', 'e'] then some (.boolean false)
  else if magnitude = ['i', 'n', 'f'] then some (.real (.infinite negative))
  else if magnitude = ['n', 'a', 'n'] then some (.real .notANumber)
  else if isMoment word then some (.moment (.ofList word))
  else (based? word).or (decimal? word)

end Typesmith.Toml.Word
