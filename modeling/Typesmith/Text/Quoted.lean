import Typesmith.Text.Coded

/-! # Quoted text

Three ways to write a text between quotes: double quotes with the escapes of JSON, single quotes
with the escapes of Dart, and the form in which warnings show a text.
-/

namespace Typesmith.Text

def hexDigits (n : Nat) : List Char :=
  Nat.toDigits 16 n

def escapeDouble (c : Char) : List Char :=
  if c = '"' then ['\\', '"']
  else if c = '\\' then ['\\', '\\']
  else if c = '\x08' then ['\\', 'b']
  else if c = '\x0C' then ['\\', 'f']
  else if c = '\n' then ['\\', 'n']
  else if c = '\r' then ['\\', 'r']
  else if c = '\t' then ['\\', 't']
  else if c.toNat < 0x20 then
    ['\\', 'u', '0', '0'] ++ hexDigits (c.toNat / 16) ++ hexDigits (c.toNat % 16)
  else [c]

/-- The escape of one character between single quotes; a dollar sign would start an
interpolation. -/
def escapeSingle (c : Char) : List Char :=
  if c = '\\' then ['\\', '\\']
  else if c = '\'' then ['\\', '\'']
  else if c = '$' then ['\\', '$']
  else if c = '\n' then ['\\', 'n']
  else if c = '\r' then ['\\', 'r']
  else if c = '\t' then ['\\', 't']
  else [c]

/-- The escape of one character in a warning. -/
def escapeShown (c : Char) : List Char :=
  if c = '"' then ['\\', '"']
  else if c = '\\' then ['\\', '\\']
  else if c = '\x00' then ['\\', '0']
  else if c = '\n' then ['\\', 'n']
  else if c = '\r' then ['\\', 'r']
  else if c = '\t' then ['\\', 't']
  else if isCoded c then ['\\', 'u', '\x7b'] ++ hexDigits c.toNat ++ ['\x7d']
  else [c]

def quoteDouble (s : String) : String :=
  .ofList ('"' :: s.toList.flatMap escapeDouble ++ ['"'])

def quoteSingle (s : String) : String :=
  .ofList ('\'' :: s.toList.flatMap escapeSingle ++ ['\''])

def quoteShown (s : String) : String :=
  .ofList ('"' :: s.toList.flatMap escapeShown ++ ['"'])

end Typesmith.Text
