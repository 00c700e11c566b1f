import Typesmith.Json.Value

/-! # JSON text

The grammar of JSON, read into trees. A tree keeps what its text says even where a leaf denotes no
value: a number too large for a double, or a string with half of a surrogate pair.
-/

namespace Typesmith.Json

inductive Tree where
  | null
  | bool (value : Bool)
  | number (value : Option Number)
  | string (value : Option String)
  | array (items : List Tree)
  | object (members : List (Option String × Tree))
deriving Repr, Inhabited

namespace Tree

def isSpace (c : Char) : Bool :=
  c = ' ' || c = '\t' || c = '\n' || c = '\r'

def skipSpace (cs : List Char) : List Char :=
  cs.dropWhile isSpace

def hexValue? (c : Char) : Option Nat :=
  if '0' ≤ c ∧ c ≤ '9' then some (c.toNat - '0'.toNat)
  else if 'a' ≤ c ∧ c ≤ 'f' then some (c.toNat - 'a'.toNat + 10)
  else if 'A' ≤ c ∧ c ≤ 'F' then some (c.toNat - 'A'.toNat + 10)
  else none

/-- A piece of a string: a character, or a UTF-16 unit given by its code. -/
inductive Piece where
  | char (c : Char)
  | unit (code : Nat)
deriving DecidableEq, Repr

def simpleEscape? : Char → Option Char
  | '"' => some '"'
  | '\\' => some '\\'
  | '/' => some '/'
  | 'b' => some '\x08'
  | 'f' => some '\x0C'
  | 'n' => some '\n'
  | 'r' => some '\r'
  | 't' => some '\t'
  | _ => none

def unit? (a b c d : Char) : Option Nat := do
  return ((← hexValue? a) * 16 + (← hexValue? b)) * 256 + (← hexValue? c) * 16 + (← hexValue? d)

/-- The pieces of a string up to its closing quote, and what follows it. -/
def pieces? : List Char → Option (List Piece × List Char)
  | [] => none
  | c :: rest =>
    if c = '"' then some ([], rest)
    else if c = '\\' then
      match rest with
      | [] => none
      | e :: rest =>
        if e = 'u' then
          match rest with
          | a :: b :: c :: d :: rest =>
            match unit? a b c d, pieces? rest with
            | some code, some (found, rest) => some (.unit code :: found, rest)
            | _, _ => none
          | _ => none
        else
          match simpleEscape? e, pieces? rest with
          | some c, some (found, rest) => some (.char c :: found, rest)
          | _, _ => none
    else if c.toNat < 0x20 then none
    else
      match pieces? rest with
      | some (found, rest) => some (.char c :: found, rest)
      | none => none

/-- Joins surrogate pairs; none if half a pair stands alone. -/
def joinPieces? : List Piece → Option (List Char)
  | [] => some []
  | .char c :: rest => (joinPieces? rest).map (c :: ·)
  | .unit code :: rest =>
    if code < 0xD800 ∨ 0xDFFF < code then (joinPieces? rest).map (Char.ofNat code :: ·)
    else if code ≤ 0xDBFF then
      match rest with
      | .unit low :: rest =>
        if 0xDC00 ≤ low ∧ low ≤ 0xDFFF then
          (joinPieces? rest).map
            (Char.ofNat (0x10000 + (code - 0xD800) * 0x400 + (low - 0xDC00)) :: ·)
        else none
      | _ => none
    else none

def string? (cs : List Char) : Option (Option String × List Char) :=
  (pieces? cs).map fun (found, rest) => ((joinPieces? found).map String.ofList, rest)

def isDigit (c : Char) : Bool :=
  '0' ≤ c && c ≤ '9'

def digitValue (c : Char) : Nat :=
  c.toNat - '0'.toNat

def digits (cs : List Char) : List Nat × List Char :=
  ((cs.takeWhile isDigit).map digitValue, cs.dropWhile isDigit)

def someDigits? (cs : List Char) : Option (List Nat × List Char) :=
  match digits cs with
  | ([], _) => none
  | found => some found

/-- A single zero, or digits that do not start with one. -/
def whole? (cs : List Char) : Option (List Nat × List Char) :=
  match someDigits? cs with
  | some (0 :: _ :: _, _) => none
  | found => found

def fraction? : List Char → Option (Option (List Nat) × List Char)
  | '.' :: cs => (someDigits? cs).map fun (found, rest) => (some found, rest)
  | cs => some (none, cs)

def natOfDigits (digits : List Nat) : Nat :=
  digits.foldl (fun n digit => n * 10 + digit) 0

def exponent? : List Char → Option (Option Int × List Char)
  | [] => some (none, [])
  | c :: cs =>
    if c = 'e' ∨ c = 'E' then
      let (negative, cs) := match cs with
        | '+' :: cs => (false, cs)
        | '-' :: cs => (true, cs)
        | cs => (false, cs)
      (someDigits? cs).map fun (found, rest) =>
        (some (if negative then -(natOfDigits found : Int) else natOfDigits found), rest)
    else some (none, c :: cs)

def numeral? (cs : List Char) : Option (Numeral × List Char) := do
  let (negative, cs) := match cs with
    | '-' :: cs => (true, cs)
    | cs => (false, cs)
  let (whole, cs) ← whole? cs
  let (fraction, cs) ← fraction? cs
  let (exponent, cs) ← exponent? cs
  return (⟨negative, whole, fraction, exponent⟩, cs)

def literal? (word : List Char) (tree : Tree) (cs : List Char) : Option (Tree × List Char) :=
  (word.isPrefixOf? cs).map fun rest => (tree, rest)

mutual

def read? : Nat → List Char → Option (Tree × List Char)
  | 0, _ => none
  | steps + 1, cs =>
    match skipSpace cs with
    | [] => none
    | '"' :: cs => (string? cs).map fun (s, rest) => (.string s, rest)
    | '[' :: cs =>
      match skipSpace cs with
      | ']' :: cs => some (.array [], cs)
      | cs => (items? steps cs).map fun (items, rest) => (.array items, rest)
    | '\x7b' :: cs =>
      match skipSpace cs with
      | '\x7d' :: cs => some (.object [], cs)
      | cs => (members? steps cs).map fun (members, rest) => (.object members, rest)
    | 'n' :: cs => literal? ['u', 'l', 'l'] .null cs
    | 't' :: cs => literal? ['r', 'u', 'e'] (.bool true) cs
    | 'f' :: cs => literal? ['a', 'l', 's', 'e'] (.bool false) cs
    | cs => (numeral? cs).map fun (numeral, rest) => (.number numeral.number?, rest)

def items? : Nat → List Char → Option (List Tree × List Char)
  | 0, _ => none
  | steps + 1, cs =>
    match read? steps cs with
    | none => none
    | some (item, cs) =>
      match skipSpace cs with
      | ']' :: cs => some ([item], cs)
      | ',' :: cs => (items? steps cs).map fun (items, rest) => (item :: items, rest)
      | _ => none

def members? : Nat → List Char → Option (List (Option String × Tree) × List Char)
  | 0, _ => none
  | steps + 1, cs =>
    match skipSpace cs with
    | '"' :: cs =>
      match string? cs with
      | none => none
      | some (name, cs) =>
        match skipSpace cs with
        | ':' :: cs =>
          match read? steps cs with
          | none => none
          | some (value, cs) =>
            match skipSpace cs with
            | '\x7d' :: cs => some ([(name, value)], cs)
            | ',' :: cs =>
              (members? steps cs).map fun (members, rest) => ((name, value) :: members, rest)
            | _ => none
        | _ => none
    | _ => none

end

/-- The tree of a text that is one JSON value and nothing else. -/
def parse? (text : String) : Option Tree :=
  match read? (2 * text.length + 2) text.toList with
  | some (tree, rest) => if (skipSpace rest).isEmpty then some tree else none
  | none => none

end Tree

end Typesmith.Json
