/-! # TOML strings

The four kinds of strings, each read after its opening quotes up to its closing ones.
-/

namespace Typesmith.Toml

def isSpace (c : Char) : Bool :=
  c = ' ' || c = '\t'

def skipSpace (cs : List Char) : List Char :=
  cs.dropWhile isSpace

/-- Control characters other than the tab may stand nowhere but at the end of a line. -/
def isControl (c : Char) : Bool :=
  (c.toNat < 0x20 && c ≠ '\t') || c = '\x7F'

def afterNewline? : List Char → Option (List Char)
  | '\n' :: rest => some rest
  | '\r' :: '\n' :: rest => some rest
  | _ => none

namespace Quoted

def digitValue (c : Char) : Nat :=
  if '0' ≤ c ∧ c ≤ '9' then c.toNat - '0'.toNat
  else if 'a' ≤ c ∧ c ≤ 'z' then c.toNat - 'a'.toNat + 10
  else if 'A' ≤ c ∧ c ≤ 'Z' then c.toNat - 'A'.toNat + 10
  else 36

def isDigit (base : Nat) (c : Char) : Bool :=
  digitValue c < base

def natOf (base : Nat) (digits : List Char) : Nat :=
  digits.foldl (fun n c => n * base + digitValue c) 0

def scalar? (count : Nat) (cs : List Char) : Option Char :=
  let digits := cs.take count
  let code := natOf 16 digits
  if digits.length = count ∧ digits.all (isDigit 16) ∧ code.isValidChar then
    some (Char.ofNat code)
  else none

def escape? : List Char → Option (Char × Nat)
  | [] => none
  | kind :: rest =>
    match kind with
    | '"' | '\\' => some (kind, 1)
    | 'b' => some ('\x08', 1)
    | 't' => some ('\t', 1)
    | 'n' => some ('\n', 1)
    | 'f' => some ('\x0C', 1)
    | 'r' => some ('\r', 1)
    | 'e' => some ('\x1B', 1)
    | 'x' => (scalar? 2 rest).map (·, 3)
    | 'u' => (scalar? 4 rest).map (·, 5)
    | 'U' => (scalar? 8 rest).map (·, 9)
    | _ => none

def basic? : Nat → List Char → Option (List Char × List Char)
  | _, [] => none
  | skip + 1, _ :: rest => basic? skip rest
  | 0, c :: rest =>
    if c = '"' then some ([], rest)
    else if c = '\\' then do
      let (escaped, length) ← escape? rest
      let (found, rest) ← basic? length rest
      return (escaped :: found, rest)
    else if isControl c then none
    else do
      let (found, rest) ← basic? 0 rest
      return (c :: found, rest)

def literal? : List Char → Option (List Char × List Char)
  | [] => none
  | c :: rest =>
    if c = '\'' then some ([], rest)
    else if isControl c then none
    else do
      let (found, rest) ← literal? rest
      return (c :: found, rest)

/-- A string over several lines ends with three quotes; up to two more before them belong to it. -/
def closing? (quote : Char) (cs : List Char) : Option (List Char × List Char) :=
  let run := (cs.takeWhile (· = quote)).length
  if 3 ≤ run ∧ run ≤ 5 then some (List.replicate (run - 3) quote, cs.drop run) else none

def endsLine (cs : List Char) : Bool :=
  (afterNewline? (skipSpace cs)).isSome

def isLayout (c : Char) : Bool :=
  isSpace c || c = '\n' || c = '\r'

/-- A string with escapes over several lines. A backslash at the end of a line drops all layout up
to the next character: `folding` holds within such layout. -/
def basicLines? : Bool → Nat → List Char → Option (List Char × List Char)
  | _, _, [] => none
  | folding, skip + 1, _ :: rest => basicLines? folding skip rest
  | folding, 0, c :: rest =>
    if folding && isLayout c then
      if c = '\r' && rest.head? ≠ some '\n' then none else basicLines? true 0 rest
    else if c = '"' then
      match closing? '"' (c :: rest) with
      | some found => some found
      | none => if ['"', '"'].isPrefixOf rest then none else do
        let (found, rest) ← basicLines? false 0 rest
        return (c :: found, rest)
    else if c = '\\' then
      if endsLine rest then basicLines? true 0 rest
      else do
        let (escaped, length) ← escape? rest
        let (found, rest) ← basicLines? false length rest
        return (escaped :: found, rest)
    else if isControl c && (afterNewline? (c :: rest)).isNone then none
    else do
      let (found, rest) ← basicLines? false 0 rest
      return (c :: found, rest)

def literalLines? : List Char → Option (List Char × List Char)
  | [] => none
  | c :: rest =>
    if c = '\'' then
      match closing? '\'' (c :: rest) with
      | some found => some found
      | none => if ['\'', '\''].isPrefixOf rest then none else do
        let (found, rest) ← literalLines? rest
        return (c :: found, rest)
    else if isControl c && (afterNewline? (c :: rest)).isNone then none
    else do
      let (found, rest) ← literalLines? rest
      return (c :: found, rest)

/-- A line break right after the opening quotes does not belong to the string. -/
def dropFirstBreak (cs : List Char) : List Char :=
  (afterNewline? cs).getD cs

/-- A string on one line, as it may also stand for a key. -/
def quoted? : List Char → Option (List Char × List Char)
  | '"' :: rest => basic? 0 rest
  | '\'' :: rest => literal? rest
  | _ => none

def string? : List Char → Option (List Char × List Char)
  | '"' :: '"' :: '"' :: rest => basicLines? false 0 (dropFirstBreak rest)
  | '\'' :: '\'' :: '\'' :: rest => literalLines? (dropFirstBreak rest)
  | cs => quoted? cs

end Quoted

end Typesmith.Toml
