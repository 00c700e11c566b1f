/-! # Protobuf tokens

Words, numbers, strings and marks; blanks and comments stand between them.
-/

namespace Typesmith.Proto

inductive Token where
  | word (name : String)
  | integer (value : Nat)
  | real
  | text (bytes : List UInt8)
  | mark (c : Char)
deriving DecidableEq, Repr

namespace Token

def isSpace (c : Char) : Bool :=
  [' ', '\t', '\n', '\r', '\x0B', '\x0C'].contains c

def isDigit (c : Char) : Bool :=
  '0' ≤ c && c ≤ '9'

def isWordStart (c : Char) : Bool :=
  ('a' ≤ c && c ≤ 'z') || ('A' ≤ c && c ≤ 'Z') || c = '_'

def isWordChar (c : Char) : Bool :=
  isWordStart c || isDigit c

def isMark (c : Char) : Bool :=
  ['.', '-', '+', '(', ')', '[', ']', '\x7b', '\x7d', '<', '>', ',', ':', ';', '/', '='].contains c

/-- What follows a block comment; comments do not nest. -/
def afterBlock? : List Char → Option (List Char)
  | [] => none
  | '*' :: '/' :: rest => some rest
  | '/' :: '*' :: _ => none
  | _ :: rest => afterBlock? rest

def digitValue (c : Char) : Nat :=
  if isDigit c then c.toNat - '0'.toNat
  else if 'a' ≤ c ∧ c ≤ 'f' then c.toNat - 'a'.toNat + 10
  else if 'A' ≤ c ∧ c ≤ 'F' then c.toNat - 'A'.toNat + 10
  else 16

def natOf? (base : Nat) (digits : List Char) : Option Nat :=
  if !digits.isEmpty && digits.all (digitValue · < base) then
    some (digits.foldl (fun n c => n * base + digitValue c) 0)
  else none

/-- An integer of at most 64 bits: decimal, octal after a zero, or hexadecimal. -/
def integer? (word : List Char) : Option Token :=
  let value := match word with
    | '0' :: 'x' :: digits | '0' :: 'X' :: digits => natOf? 16 digits
    | '0' :: digit :: digits => natOf? 8 (digit :: digits)
    | digits => natOf? 10 digits
  (value.filter (· < Nat.pow 2 64)).map .integer

def exponentLength (cs : List Char) : Nat :=
  match cs with
  | c :: rest =>
    if c = 'e' ∨ c = 'E' then
      let signs := match rest with
        | '+' :: _ | '-' :: _ => 1
        | _ => 0
      let digits := ((rest.drop signs).takeWhile isDigit).length
      if digits = 0 then 0 else 1 + signs + digits
    else 0
  | [] => 0

/-- A number at the front, and what follows; a word may not follow directly. -/
def number? (cs : List Char) : Option (Token × List Char) :=
  let whole := cs.takeWhile isDigit
  let rest := cs.drop whole.length
  let (fractionLength, rest) := match rest with
    | '.' :: rest =>
      let digits := rest.takeWhile isDigit
      (1 + digits.length, rest.drop digits.length)
    | rest => (0, rest)
  let length := exponentLength rest
  if fractionLength = 0 ∧ length = 0 then
    let word := cs.takeWhile isWordChar
    (integer? word).map (·, cs.drop word.length)
  else
    let rest := rest.drop length
    if rest.head?.any isWordChar then none else some (.real, rest)

def shortNumber (base count : Nat) (cs : List Char) : Nat × Nat :=
  let digits := (cs.take count).takeWhile (digitValue · < base)
  ((natOf? base digits).getD 0, digits.length)

def escape? : List Char → Option (List UInt8 × Nat)
  | [] => none
  | kind :: rest =>
    match kind with
    | 'a' => some ([7], 1)
    | 'b' => some ([8], 1)
    | 't' => some ([9], 1)
    | 'n' => some ([10], 1)
    | 'v' => some ([11], 1)
    | 'f' => some ([12], 1)
    | 'r' => some ([13], 1)
    | '\\' | '\'' | '"' | '?' => some ([kind.toNat.toUInt8], 1)
    | 'x' | 'X' =>
      let (code, length) := shortNumber 16 2 rest
      if length = 0 then none else some ([code.toUInt8], 1 + length)
    | 'u' => wide 4 rest
    | 'U' => wide 8 rest
    | _ =>
      let (code, length) := shortNumber 8 3 (kind :: rest)
      if length = 0 ∨ 255 < code then none else some ([code.toUInt8], length)
where
  wide (count : Nat) (cs : List Char) : Option (List UInt8 × Nat) :=
    let (code, length) := shortNumber 16 count cs
    if length = count ∧ code.isValidChar then
      some (String.utf8EncodeChar (Char.ofNat code), 1 + count)
    else none

/-- The bytes of a string up to its closing quote, and what follows; `skip` characters at the front
belong to an escape. -/
def string? (quote : Char) : Nat → List Char → Option (List UInt8 × List Char)
  | _, [] => none
  | skip + 1, _ :: rest => string? quote skip rest
  | 0, c :: rest =>
    if c = quote then some ([], rest)
    else if c = '\\' then do
      let (bytes, length) ← escape? rest
      let (found, rest) ← string? quote length rest
      return (bytes ++ found, rest)
    else if c = '\n' ∨ c = '\x00' then none
    else do
      let (found, rest) ← string? quote 0 rest
      return (String.utf8EncodeChar c ++ found, rest)

/-- The token at the front, if there is one, and what follows it. -/
def next? (c : Char) (rest : List Char) : Option (Option Token × List Char) :=
  if isSpace c then some (none, rest)
  else if c = '/' ∧ rest.head? = some '/' then some (none, rest.dropWhile (· ≠ '\n'))
  else if c = '/' ∧ rest.head? = some '*' then
    (afterBlock? rest.tail).map fun rest => (none, rest)
  else if isWordStart c then
    let word := c :: rest.takeWhile isWordChar
    some (some (.word (.ofList word)), (c :: rest).drop word.length)
  else if isDigit c ∨ (c = '.' ∧ rest.head?.any isDigit) then
    (number? (c :: rest)).map fun (token, rest) => (some token, rest)
  else if c = '"' ∨ c = '\'' then
    (string? c 0 rest).map fun (bytes, rest) => (some (.text bytes), rest)
  else if isMark c then some (some (.mark c), rest)
  else none

/-- Every step takes at least one character. -/
def scanWithin? : Nat → List Char → Option (List Token)
  | _, [] => some []
  | 0, _ => none
  | steps + 1, c :: rest => do
    let (token, rest) ← next? c rest
    let tokens ← scanWithin? steps rest
    return token.toList ++ tokens

/-- The tokens of a source. -/
def scan? (source : String) : Option (List Token) :=
  scanWithin? source.length source.toList

end Token

end Typesmith.Proto
