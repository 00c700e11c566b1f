/-! # Splitting at a text -/

namespace Typesmith.Text

/-- Splits at the occurrences of a pattern, found from left to right without overlap; `skip`
characters at the front belong to an occurrence. -/
def splitAtText (pattern : List Char) : Nat → List Char → List (List Char)
  | _, [] => [[]]
  | skip + 1, _ :: rest => splitAtText pattern skip rest
  | 0, c :: rest =>
    if !pattern.isEmpty && pattern.isPrefixOf (c :: rest) then
      [] :: splitAtText pattern (pattern.length - 1) rest
    else
      match splitAtText pattern 0 rest with
      | [] => [[c]]
      | piece :: pieces => (c :: piece) :: pieces

def pieces (pattern s : String) : List (List Char) :=
  splitAtText pattern.toList 0 s.toList

/-- Puts a text for every occurrence of a pattern. -/
def replaceAll (pattern replacement s : String) : String :=
  .ofList (replacement.toList.intercalate (pieces pattern s))

def occursIn (pattern s : String) : Bool :=
  1 < (pieces pattern s).length

/-- What follows a prefix, if the text has it. -/
def afterPrefix? (start s : String) : Option String :=
  (start.toList.isPrefixOf? s.toList).map String.ofList

def beforeSuffix? (ending s : String) : Option String :=
  (ending.toList.reverse.isPrefixOf? s.toList.reverse).map fun cs => String.ofList cs.reverse

end Typesmith.Text
