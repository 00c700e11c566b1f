import Typesmith.Proto.Token

/-! # Reading tokens

A reader takes tokens from the front of a list, or fails.
-/

namespace Typesmith.Proto

abbrev Reader := StateT (List Token) Option

namespace Reader

variable {α : Type}

def peek : Reader (Option Token) := do
  return (← get).head?

def next : Reader Token := do
  match ← get with
  | [] => failure
  | token :: rest =>
    set rest
    return token

def taken (token : Token) : Reader Bool := do
  match ← get with
  | [] => return false
  | first :: rest =>
    if first = token then
      set rest
      return true
    else return false

def expect (token : Token) : Reader Unit := do
  unless ← taken token do failure

def mark (c : Char) : Reader Unit :=
  expect (.mark c)

def word : Reader String := do
  match ← next with
  | .word name => return name
  | _ => failure

def natural : Reader Nat := do
  match ← next with
  | .integer value => return value
  | _ => failure

def integer : Reader Int := do
  let negative ← taken (.mark '-')
  let magnitude : Int := ← natural
  return if negative then -magnitude else magnitude

def moreBytes : List Token → List UInt8 × List Token
  | .text bytes :: rest =>
    let (more, rest) := moreBytes rest
    (bytes ++ more, rest)
  | tokens => ([], tokens)

def bytes : Reader (List UInt8) := do
  match ← next with
  | .text first =>
    let (more, rest) := moreBytes (← get)
    set rest
    return first ++ more
  | _ => failure

def textOf (bytes : List UInt8) : Reader String :=
  match String.fromUTF8? ⟨bytes.toArray⟩ with
  | some s => return s
  | none => failure

def text : Reader String := do
  textOf (← bytes)

def upToWithin (close : Char) (item : Reader α) : Nat → Reader (List α)
  | 0 => failure
  | steps + 1 => do
    if ← taken (.mark close) then return []
    let first ← item
    return first :: (← upToWithin close item steps)

/-- Items up to a closing mark; every item takes at least one token. -/
def upTo (close : Char) (item : Reader α) : Reader (List α) := do
  upToWithin close item ((← get).length + 1)

def separatedWithin (mark : Char) (item : Reader α) : Nat → Reader (List α)
  | 0 => failure
  | steps + 1 => do
    let first ← item
    if ← taken (.mark mark) then
      return first :: (← separatedWithin mark item steps)
    return [first]

/-- One or more items with a mark between them. -/
def separated (mark : Char) (item : Reader α) : Reader (List α) := do
  separatedWithin mark item ((← get).length + 1)

def toEndWithin (item : Reader α) : Nat → Reader (List α)
  | 0 => do
    unless (← get).isEmpty do failure
    return []
  | steps + 1 => do
    if (← get).isEmpty then return []
    let first ← item
    return first :: (← toEndWithin item steps)

def toEnd (item : Reader α) : Reader (List α) := do
  toEndWithin item (← get).length

end Reader

end Typesmith.Proto
