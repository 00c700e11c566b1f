import Typesmith.Text.Casing

/-! # Target languages -/

namespace Typesmith

inductive Language where
  | go | typescript | dart
deriving DecidableEq, Repr

namespace Language

/-- All languages in output order. -/
def all : List Language := [go, typescript, dart]

def name : Language → String
  | go => "go"
  | typescript => "typescript"
  | dart => "dart"

/-- The spellings of a configuration file. -/
def ofSpelling? : String → Option Language
  | "go" => some go
  | "ts" | "typescript" => some typescript
  | "dart" => some dart
  | _ => none

/-- The spellings of a command line, in any letter case. -/
def ofName? (s : String) : Option Language :=
  ofSpelling? (Text.asciiLower s)

def commentMarker : Language → String
  | dart => "/// "
  | _ => "// "

end Language

end Typesmith
