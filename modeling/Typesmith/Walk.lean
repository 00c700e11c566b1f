import Typesmith.Literal
import Typesmith.Naming
import Typesmith.Resolution

/-! # From examples to literals

The walk goes through an example value and the schema side by side. A value that its tag does not
admit is left out with a warning; an attribute without a property is left out in silence.
-/

namespace Typesmith

open Json (Value)
open OpenApi (Node)

def digits? (cs : List Char) : Option Nat :=
  if !cs.isEmpty && cs.all Json.Tree.isDigit then
    some (Json.Tree.natOfDigits (cs.map Json.Tree.digitValue))
  else none

/-- The integer that a string denotes: digits after a sign, of which a minus needs a signed kind. -/
def ScalarKind.integerOf? (kind : ScalarKind) (s : String) : Option Int :=
  let value : Option Int :=
    match Text.trim s.toList with
    | '-' :: cs => if kind = .uint64 then none else (digits? cs).map fun n => -(n : Int)
    | '+' :: cs => (digits? cs).map Int.ofNat
    | cs => (digits? cs).map Int.ofNat
  value.filter kind.holds

def integerLiteral (value : Int) : Literal :=
  .number (Json.Number.integer value).text

def numberLiteral? (kind : ScalarKind) (number : Json.Number) : Option Literal :=
  if kind.isInteger then
    match number with
    | .integer value => if kind.holds value then some (integerLiteral value) else none
    | .double _ => none
  else if kind.isNumeric then some (.number number.text)
  else none

def scalarLiteral? (kind : ScalarKind) : Value → Option Literal
  | .string s =>
    match kind with
    | .string | .bytes => some (.string s)
    | .int64 | .uint64 => (kind.integerOf? s).map integerLiteral
    | _ => none
  | .bool b => if kind = .bool then some (.bool b) else none
  | .number number => numberLiteral? kind number
  | _ => none

/-- The value that the key of a map stands for: numbers and truth values are read back. -/
def mapKey (tag : Tag) (key : String) : Value :=
  let read : Option Value :=
    match tag with
    | .scalar .bool =>
      if key = "true" then some (.bool true)
      else if key = "false" then some (.bool false)
      else none
    | .scalar kind => if kind.isInteger then (Value.parse? key).filter Value.isNumber else none
    | _ => none
  read.getD (.string key)

/-- Leaves out a value that the tag does not admit, and says so. -/
def Tag.mismatch (tag : Tag) (location : String) (value : Value) : Report (Option Literal) := do
  Report.warn (.mismatch location tag.display value.kindName)
  return none

namespace Service

variable (service : Service)

/-- The literal of a value without parts; `null` never has one. -/
def leaf? (tag : Tag) (value : Value) : Option Literal :=
  match tag, value with
  | _, .null => none
  | .scalar kind, value => scalarLiteral? kind value
  | .enum name, .string s => if service.isEnumValue name s then some (.enum name s) else none
  | .any, value => some (.json value)
  | _, _ => none

/-- The literal of a value without parts, with a warning if its tag does not admit it. -/
def walkLeaf (tag : Tag) (location : String) (value : Value) : Report (Option Literal) :=
  match service.leaf? tag value with
  | some literal => pure (some literal)
  | none => tag.mismatch location value

mutual

/-- The literal of a value, if its tag admits it; `node` is the node of the value, if there is one. -/
def walk (tag : Tag) (node : Option Node) (location : String) : Value → Report (Option Literal)
  | .array items =>
    match tag with
    | .array element => do
      let itemNode := node.bind fun node => (service.document.resolve node).items
      return some (.list element (← walkItems element itemNode location 0 items))
    | .any => pure (some (.json (.array items)))
    | _ => tag.mismatch location (.array items)
  | .object members =>
    match tag with
    | .map key value => do
      let entries ← Report.collect (byName (walkEntries key value location members))
      return some (.map key value entries)
    | .message name => do
      let inner ← service.messageNode name node
      let fields ← Report.collect (byName (walkMembers name inner location members))
      return some (.message name fields)
    | .json | .any => pure (some (.json (.object members)))
    | _ => tag.mismatch location (.object members)
  | value => service.walkLeaf tag location value

def walkItems (element : Tag) (node : Option Node) (location : String) (index : Nat) :
    List Value → Report (List Literal)
  | [] => pure []
  | item :: rest => do
    let first ← walk element node (location ++ "[" ++ toString index ++ "]") item
    let others ← walkItems element node location (index + 1) rest
    return first.toList ++ others

/-- The entries of a map by their keys; an entry is left out with its key. -/
def walkEntries (key value : Tag) (location : String) :
    List (String × Value) → List (String × Report (Option (Literal × Literal)))
  | [] => []
  | (name, entry) :: rest =>
    let inner := location ++ "." ++ name
    let report : Report (Option (Literal × Literal)) := do
      match ← service.walkLeaf key inner (mapKey key name) with
      | none => return none
      | some keyLiteral => return (← walk value none inner entry).map (keyLiteral, ·)
    (name, report) :: walkEntries key value location rest

/-- The attributes of a message by their names, each resolved before its value is walked. -/
def walkMembers (message : String) (node : Node) (location : String) :
    List (String × Value) → List (String × Report (Option (String × Literal)))
  | [] => []
  | (name, value) :: rest =>
    let report : Report (Option (String × Literal)) :=
      match node.properties.get? name with
      | none => pure none
      | some property => do
        let field ← service.resolveNode message name property (node.isRequired name)
        return (← walk field.tag (some property) (location ++ "." ++ name) value).map (name, ·)
    (name, report) :: walkMembers message node location rest

end

def walkObject (message : String) (node : Node) (location : String)
    (attributes : List (String × Value)) : Report (List (String × Literal)) :=
  Report.collect (byName (service.walkMembers message node location attributes))

def exampleFields (type : String) (attributes : List (String × Value)) :
    Report (List (String × Literal)) := do
  let node ← service.typeSchema type
  service.walkObject type node type attributes

/-- The literal of an example of a named type. -/
def messageLiteral (type : String) (attributes : List (String × Value)) : Report Literal := do
  return .message type (← service.exampleFields type attributes)

end Service

end Typesmith
