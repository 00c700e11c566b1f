/-! # Wire format

A message travels as records: the number of a field, and a value in one of five encodings.
-/

namespace Typesmith.Proto

inductive WireValue where
  | varint (value : Nat)
  | fixed64
  | bytes (value : List UInt8)
  | group
  | fixed32
deriving DecidableEq, Repr

structure WireRecord where
  number : Nat
  value : WireValue
deriving DecidableEq, Repr

namespace Wire

/-- Seven bits per byte, low ones first, in at most `limit` bytes. -/
def varintWithin? : Nat → List UInt8 → Option (Nat × List UInt8)
  | 0, _ | _, [] => none
  | limit + 1, byte :: rest =>
    if byte < 128 then some (byte.toNat, rest)
    else (varintWithin? limit rest).map fun (high, rest) => (byte.toNat - 128 + 128 * high, rest)

def varint? (bytes : List UInt8) : Option (Nat × List UInt8) :=
  (varintWithin? 10 bytes).filter (·.1 < Nat.pow 2 64)

def take? (count : Nat) (bytes : List UInt8) : Option (List UInt8 × List UInt8) :=
  if count ≤ bytes.length then some (bytes.take count, bytes.drop count) else none

/-- Records up to the end, or up to the end of the group with the given number; every step takes a
byte. -/
def recordsWithin? : Nat → Option Nat → List UInt8 → Option (List WireRecord × List UInt8)
  | _, none, [] => some ([], [])
  | _, some _, [] => none
  | 0, _, _ => none
  | steps + 1, group, bytes => do
    let (key, rest) ← varint? bytes
    let number := key / 8
    if number = 0 ∨ Nat.pow 2 32 ≤ key then none
    else if key % 8 = 4 then
      if group = some number then some ([], rest) else none
    else
      let (value, rest) ← (match key % 8 with
        | 0 => (varint? rest).map fun (n, rest) => (.varint n, rest)
        | 1 => (take? 8 rest).map fun (_, rest) => (.fixed64, rest)
        | 2 => (varint? rest).bind fun (length, rest) =>
          (take? length rest).map fun (bytes, rest) => (.bytes bytes, rest)
        | 3 => (recordsWithin? steps (some number) rest).map fun (_, rest) => (.group, rest)
        | 5 => (take? 4 rest).map fun (_, rest) => (.fixed32, rest)
        | _ => none : Option (WireValue × List UInt8))
      let (records, rest) ← recordsWithin? steps group rest
      return (⟨number, value⟩ :: records, rest)

def records? (bytes : List UInt8) : Option (List WireRecord) :=
  (recordsWithin? (bytes.length + 1) none bytes).map (·.1)

def valuesOf (records : List WireRecord) (number : Nat) : List WireValue :=
  (records.filter (·.number = number)).map (·.value)

def bytes? : WireValue → Option (List UInt8)
  | .bytes value => some value
  | _ => none

def text? (value : WireValue) : Option String := do
  String.fromUTF8? ⟨(← bytes? value).toArray⟩

def varintOf? : WireValue → Option Nat
  | .varint value => some value
  | _ => none

def int32Of (value : Nat) : Int :=
  let low : Nat := value % Nat.pow 2 32
  if low < Nat.pow 2 31 then low else (low : Int) - Nat.pow 2 32

def varints? (fuel : Nat) (bytes : List UInt8) : Option (List Nat) :=
  match fuel, bytes with
  | _, [] => some []
  | 0, _ => none
  | fuel + 1, bytes => do
    let (first, rest) ← varint? bytes
    return first :: (← varints? fuel rest)

def repeated? {α : Type} (decode : WireValue → Option α) (records : List WireRecord)
    (number : Nat) : Option (List α) :=
  (valuesOf records number).mapM decode

def last? {α : Type} (decode : WireValue → Option α) (records : List WireRecord)
    (number : Nat) : Option (Option α) :=
  (repeated? decode records number).map List.getLast?

def integer? (records : List WireRecord) (number : Nat) : Option (Option Int) :=
  last? (fun value => (varintOf? value).map int32Of) records number

def flag? (records : List WireRecord) (number : Nat) : Option Bool :=
  (last? varintOf? records number).map fun found => found.any (· ≠ 0)

/-- Integers one by one, or many in one record. -/
def integers? (records : List WireRecord) (number : Nat) : Option (List Int) :=
  (repeated? (fun
    | .varint value => some [int32Of value]
    | .bytes bytes => (varints? bytes.length bytes).map (·.map int32Of)
    | _ => none) records number).map List.flatten

/-- The records of a message that occurs at most once, none if it is missing. -/
def merged? (records : List WireRecord) (number : Nat) : Option (List WireRecord) :=
  (repeated? (fun value => (bytes? value).bind records?) records number).map List.flatten

def messages? {α : Type} (decode : List WireRecord → Option α) (records : List WireRecord)
    (number : Nat) : Option (List α) :=
  repeated? (fun value => ((bytes? value).bind records?).bind decode) records number

end Wire

end Typesmith.Proto
