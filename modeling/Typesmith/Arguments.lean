import Typesmith.Language

/-! # Arguments

Options that apply to every command may stand before the name of the command or after it, where they
count more. Only the options for services and languages may be given again.
-/

namespace Typesmith

inductive Command where
  | types (service : String) (type : Option String) (languages : List Language)
  | example (service : String) (endpoint : Option String) (languages : List Language)
  | endpoints (service : String)
  | check (services : List String)
deriving DecidableEq, Repr

/-- The services that a command needs. -/
def Command.services : Command → List String
  | types service .. | .example service .. | endpoints service => [service]
  | check services => services

structure Invocation where
  configPath : Option String := none
  servicesDir : Option String := none
  logLevel : Option String := none
  denyWarnings : Bool := false
  command : Command
deriving DecidableEq, Repr

namespace Arguments

inductive Switch where
  | config | servicesDir | logLevel | denyWarnings
  | service | type | endpoint | language
  | help | version
deriving DecidableEq, Repr

namespace Switch

def long : Switch → String
  | config => "config"
  | servicesDir => "services-dir"
  | logLevel => "log-level"
  | denyWarnings => "deny-warnings"
  | service => "service"
  | type => "type"
  | endpoint => "endpoint"
  | language => "lang"
  | help => "help"
  | version => "version"

def short? : Switch → Option Char
  | config => some 'c'
  | service => some 's'
  | type => some 't'
  | endpoint => some 'e'
  | language => some 'l'
  | help => some 'h'
  | version => some 'V'
  | _ => none

def takesValue : Switch → Bool
  | denyWarnings | help | version => false
  | _ => true

def admits (switch : Switch) (value : String) : Bool :=
  match switch with
  | config | servicesDir => !value.isEmpty
  | language => (Language.ofName? value).isSome
  | _ => true

end Switch

inductive CommandName where
  | types | example | endpoints | check
deriving DecidableEq, Repr

namespace CommandName

def ofName? : String → Option CommandName
  | "types" => some types
  | "example" => some .example
  | "endpoints" => some endpoints
  | "check" => some check
  | _ => none

/-- The switches of a command itself. -/
def switches : CommandName → List Switch
  | types => [.service, .type, .language]
  | .example => [.service, .endpoint, .language]
  | endpoints => [.service]
  | check => [.service]

end CommandName

def globalSwitches : List Switch :=
  [.config, .servicesDir, .logLevel, .denyWarnings]

/-- Where options stand: before the command, or after its name. -/
inductive Level where
  | top
  | command (name : CommandName)
deriving DecidableEq, Repr

namespace Level

def switches : Level → List Switch
  | top => globalSwitches ++ [.help, .version]
  | command name => name.switches ++ globalSwitches ++ [.help]

def repeatable : Level → Switch → Bool
  | _, .language => true
  | command .check, .service => true
  | _, _ => false

end Level

/-- Why the arguments name no command to run. -/
inductive Stop where
  | help | version | invalid
deriving DecidableEq, Repr

abbrev Given := List (Switch × String)

def Given.has (given : Given) (switch : Switch) : Bool :=
  given.any (·.1 = switch)

def Given.all (given : Given) (switch : Switch) : List String :=
  (given.filter (·.1 = switch)).map (·.2)

def Given.first? (given : Given) (switch : Switch) : Option String :=
  (given.all switch).head?

/-- An argument that is no option: a value, or the name of a command. -/
def isPlain (argument : String) : Bool :=
  match argument.toList with
  | '-' :: _ :: _ => false
  | _ => true

/-- Splits at the first equals sign. -/
def splitValue (cs : List Char) : List Char × Option (List Char) :=
  let name := cs.takeWhile (· ≠ '=')
  match cs.drop name.length with
  | [] => (name, none)
  | _ :: value => (name, some value)

def switch? (level : Level) (argument : List Char) : Option (Switch × Option String) :=
  match argument with
  | '-' :: '-' :: cs => do
    let (name, value) := splitValue cs
    let switch ← level.switches.find? (·.long.toList = name)
    return (switch, value.map String.ofList)
  | '-' :: c :: cs => do
    let switch ← level.switches.find? (·.short? = some c)
    let value := match cs with
      | [] => none
      | '=' :: value => some value
      | value => some value
    return (switch, value.map String.ofList)
  | _ => none

def add (level : Level) (given : Given) (switch : Switch) (value : String) : Except Stop Given :=
  if !switch.admits value || (given.has switch && !level.repeatable switch) then .error .invalid
  else .ok (given ++ [(switch, value)])

/-- Reads the options of a level; gives them with the arguments from the first plain one on. -/
def readLevel (level : Level) (given : Given) :
    List String → Except Stop (Given × List String)
  | [] => .ok (given, [])
  | argument :: rest =>
    if argument = "--" then
      if rest.isEmpty then .ok (given, []) else .error .invalid
    else if isPlain argument then .ok (given, argument :: rest)
    else
      match switch? level argument.toList with
      | none => .error .invalid
      | some (switch, value) =>
        if switch.takesValue then
          match value, rest with
          | some value, rest => do readLevel level (← add level given switch value) rest
          | none, value :: rest =>
            if isPlain value then do readLevel level (← add level given switch value) rest
            else .error .invalid
          | none, [] => .error .invalid
        else if value.isSome then .error .invalid
        else
          match switch with
          | .help => .error .help
          | .version => .error .version
          | _ => do readLevel level (← add level given switch "") rest

def command? (name : CommandName) (given : Given) : Option Command :=
  let services := given.all .service
  let languages := (given.all .language).filterMap Language.ofName?
  match name, services with
  | .types, [service] => some (.types service (given.first? .type) languages)
  | .example, [service] => some (.example service (given.first? .endpoint) languages)
  | .endpoints, [service] => some (.endpoints service)
  | .check, service :: more => some (.check (service :: more))
  | _, _ => none

/-- The invocation of a command with the options before its name and those after it. -/
def invocation? (name : CommandName) (before after : Given) : Option Invocation := do
  let last (switch : Switch) := (after.first? switch).or (before.first? switch)
  return {
    configPath := last .config
    servicesDir := last .servicesDir
    logLevel := last .logLevel
    denyWarnings := before.has .denyWarnings || after.has .denyWarnings
    command := ← command? name after }

/-- Help is for the program or for one of its commands. -/
def helpFor : List String → Stop
  | [] => .help
  | [name] => if (CommandName.ofName? name).isSome || name = "help" then .help else .invalid
  | _ => .invalid

def parse (arguments : List String) : Except Stop Invocation := do
  match ← readLevel .top [] arguments with
  | (_, []) => .error .invalid
  | (before, name :: rest) =>
    match CommandName.ofName? name with
    | none => .error (if name = "help" then helpFor rest else .invalid)
    | some name =>
      match ← readLevel (.command name) [] rest with
      | (after, []) =>
        match invocation? name before after with
        | some invocation => .ok invocation
        | none => .error .invalid
      | _ => .error .invalid

end Arguments

end Typesmith
