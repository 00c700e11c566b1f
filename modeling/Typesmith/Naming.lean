import Typesmith.Text.Casing

/-! # Names and comments

Wire names become identifiers; descriptions become comment lines, without the white space around
them.
-/

namespace Typesmith.Text

/-- The characters of the Unicode property `White_Space`. -/
def blankRanges : List (Nat × Nat) := [
  (0x9, 0xD), (0x20, 0x20), (0x85, 0x85), (0xA0, 0xA0), (0x1680, 0x1680), (0x2000, 0x200A),
  (0x2028, 0x2029), (0x202F, 0x202F), (0x205F, 0x205F), (0x3000, 0x3000)]

def isBlank (c : Char) : Bool :=
  blankRanges.any fun (low, high) => low ≤ c.toNat && c.toNat ≤ high

def trimStart (cs : List Char) : List Char :=
  cs.dropWhile isBlank

def trimEnd (cs : List Char) : List Char :=
  (cs.reverse.dropWhile isBlank).reverse

def trim (cs : List Char) : List Char :=
  trimEnd (trimStart cs)

end Typesmith.Text

namespace Typesmith.Naming

def raiseFirst : List Char → List Char
  | [] => []
  | c :: rest => Text.upper c ++ rest

def lowerFirst : List Char → List Char
  | [] => []
  | c :: rest => Text.lower c ++ rest

def isSeparator (c : Char) : Bool :=
  c == '-' || c == '_'

def pascalChars (cs : List Char) : List Char :=
  (cs.splitOnP isSeparator).flatMap raiseFirst

def capitalize (s : String) : String :=
  .ofList (raiseFirst s.toList)

/-- Every segment between hyphens and underscores, raised. -/
def pascalCase (s : String) : String :=
  .ofList (pascalChars s.toList)

def camelCase (s : String) : String :=
  .ofList (lowerFirst (pascalChars s.toList))

def requestType (endpoint : String) : String :=
  capitalize endpoint ++ "Request"

/-- One comment line for each line of a description; none for a blank description. -/
def commentLines (marker description : String) : String :=
  if (Text.trim description.toList).isEmpty then ""
  else .join ((description.toList.splitOn '\n').map fun line =>
    marker ++ .ofList (Text.trim line) ++ "\n")

end Typesmith.Naming
