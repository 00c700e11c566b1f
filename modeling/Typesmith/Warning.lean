import Typesmith.Text.Quoted

/-! # Warnings

Recoverable findings of a run, in the order in which they were recorded.
-/

namespace Typesmith

inductive Warning where
  | unsupportedFormat (location found : String)
  | mismatch (location expected found : String)
deriving DecidableEq, Repr

inductive WarningKind where
  | unsupportedFormat | mismatch
deriving DecidableEq, Repr

def WarningKind.name : WarningKind → String
  | unsupportedFormat => "unsupported_format"
  | mismatch => "example_schema_mismatch"

namespace Warning

def kind : Warning → WarningKind
  | unsupportedFormat .. => .unsupportedFormat
  | mismatch .. => .mismatch

def location : Warning → String
  | unsupportedFormat location _ => location
  | mismatch location .. => location

def message : Warning → String
  | unsupportedFormat location found =>
    "unsupported format " ++ Text.quoteShown found ++ " at " ++ location
  | mismatch location expected found =>
    "example value at " ++ location ++ " is " ++ found ++ ", schema declares " ++ expected

end Warning

abbrev Diagnostics := List Warning

namespace Diagnostics

def count (diagnostics : Diagnostics) (kind : String) : Nat :=
  diagnostics.countP (·.kind.name == kind)

end Diagnostics

end Typesmith
