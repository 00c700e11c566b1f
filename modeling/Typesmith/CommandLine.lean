import Typesmith.Arguments
import Typesmith.Command

/-! # The command line

A run reads the configuration, loads the services of the command, and prints its text. A failure
prints nothing; only denied warnings come after the text.
-/

namespace Typesmith

/-- How a run ends without success. -/
inductive Failure where
  | config (path : String) (cause : Error)
  | error (cause : Error)
  | deniedWarnings (count : Nat)
  | usage
deriving DecidableEq, Repr

namespace Failure

def code : Failure → Nat
  | config _ cause | error cause => cause.code
  | deniedWarnings _ => 1
  | usage => 2

/-- The message of a failure, with that of the file system below it. -/
def chain : Error → String
  | .io cause => Error.message (.io cause) ++ ": " ++ cause.message
  | cause => cause.message

def message : Failure → String
  | config path cause => "Failed to load config: " ++ path ++ ": " ++ chain cause
  | error cause => chain cause
  | deniedWarnings count =>
    toString count ++ " warning(s) recorded and --deny-warnings is set"
  | usage => "invalid arguments"

end Failure

structure Outcome where
  stdout : String
  failure : Option Failure := none
deriving DecidableEq, Repr

namespace Outcome

def exit (outcome : Outcome) : Nat :=
  (outcome.failure.map Failure.code).getD 0

def stderr (outcome : Outcome) : String :=
  (outcome.failure.map fun failure => "error: " ++ failure.message ++ "\n").getD ""

end Outcome

def Command.text (command : Command) (generator : Generator) (tree : FileTree) : Report String :=
  match command with
  | .types service type languages => generator.typesText service type languages
  | .example service endpoint languages =>
    generator.examplesText tree service endpoint languages
  | .endpoints service => generator.endpointsText service
  | .check services => generator.checkText tree services

namespace Invocation

def defaultConfigPath : String := "sdkgen.toml"

def configFile? (invocation : Invocation) (tree : FileTree) : Option String :=
  match invocation.configPath with
  | some path => some path
  | none => if tree.isFile defaultConfigPath then some defaultConfigPath else none

/-- The configuration of a run: that of the file, with what the arguments say instead. -/
def config (invocation : Invocation) (tree : FileTree) : Except Failure Config := do
  let config ← match invocation.configFile? tree with
    | some path => (Config.read tree path).mapError (.config path)
    | none => .ok {}
  return { config with
    servicesDir := invocation.servicesDir.getD config.servicesDir
    logLevel := invocation.logLevel.getD config.logLevel }

/-- The generator of a run with the services of its command. -/
def generator (invocation : Invocation) (tree : FileTree) : Except Failure Generator := do
  let config ← invocation.config tree
  let empty ← (Generator.ofConfig config).mapError .error
  (empty.loadAll tree invocation.command.services).mapError .error

def run (invocation : Invocation) (tree : FileTree) : Outcome :=
  match invocation.generator tree with
  | .error failure => ⟨"", some failure⟩
  | .ok generator =>
    let report := invocation.command.text generator tree
    match report.outcome with
    | .error error => ⟨"", some (.error error)⟩
    | .ok text =>
      if invocation.denyWarnings && !report.warnings.isEmpty then
        ⟨text, some (.deniedWarnings report.warnings.length)⟩
      else ⟨text, none⟩

/-- The paths that a run may read, as far as the files in the tree tell. -/
def wanted (invocation : Invocation) (tree : FileTree) : List String :=
  invocation.configPath.getD defaultConfigPath ::
    match invocation.config tree with
    | .error _ => []
    | .ok config => invocation.command.services.flatMap fun service =>
      [config.openApiPathFor service, config.protoPathFor service,
        config.examplesPathFor service] ++ Proto.importPaths tree (config.protoPathFor service)

end Invocation

namespace CommandLine

def versionText : String := "sdkgen 0.3.0\n"

def helpText : String :=
  "Usage: sdkgen [OPTIONS] <COMMAND>\n\n" ++
  "Commands:\n" ++
  "  types      Print field declarations\n" ++
  "  example    Print request literals for recorded examples\n" ++
  "  endpoints  List endpoints with their request and response types\n" ++
  "  check      Resolve every type and example of the given services\n"

def run (tree : FileTree) (arguments : List String) : Outcome :=
  match Arguments.parse arguments with
  | .ok invocation => invocation.run tree
  | .error .version => ⟨versionText, none⟩
  | .error .help => ⟨helpText, none⟩
  | .error .invalid => ⟨"", some .usage⟩

def wanted (tree : FileTree) (arguments : List String) : List String :=
  match Arguments.parse arguments with
  | .ok invocation => invocation.wanted tree
  | .error _ => []

end CommandLine

end Typesmith
