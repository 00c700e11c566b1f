import Typesmith.Proofs.Reading
import Typesmith.Proofs.Steps

/-! # The stages of a run

A run reads its configuration and checks it, loads its services in order, and then takes the steps of
its command. The first of these that fails gives the run its code, and nothing is printed; if none
fails, the texts of all steps are.
-/

namespace Typesmith

namespace Invocation

variable {invocation : Invocation} {tree : FileTree} {config : Config} {generator : Generator}
  {error : Error} {failure : Failure}

def adjusted (invocation : Invocation) (config : Config) : Config :=
  { config with
    servicesDir := invocation.servicesDir.getD config.servicesDir
    logLevel := invocation.logLevel.getD config.logLevel }

/-- The configuration is that of the file, or the default where there is no file. -/
inductive Reads (invocation : Invocation) (tree : FileTree) (config : Config) : Prop
  | file {path : String} {found : Config} : invocation.configFile? tree = some path →
      Config.read tree path = .ok found → config = invocation.adjusted found →
      Reads invocation tree config
  | default : invocation.configFile? tree = none → config = invocation.adjusted {} →
      Reads invocation tree config

theorem config_eq_ok_iff : invocation.config tree = .ok config ↔ invocation.Reads tree config := by
  unfold Invocation.config
  constructor
  · intro h
    cases file : invocation.configFile? tree with
    | none =>
      rw [file] at h
      exact .default file (Except.ok.inj h).symm
    | some path =>
      rw [file] at h
      cases read : Config.read tree path with
      | error error =>
        simp only [read] at h
        cases h
      | ok found =>
        simp only [read] at h
        exact .file file read (Except.ok.inj h).symm
  · intro h
    cases h with
    | file file read eq =>
      rw [file, eq]
      simp only [read]
      rfl
    | default file eq =>
      rw [file, eq]
      rfl

theorem config_eq_error_iff : invocation.config tree = .error failure ↔
    ∃ path error, invocation.configFile? tree = some path ∧
      Config.read tree path = .error error ∧ failure = .config path error := by
  unfold Invocation.config
  cases file : invocation.configFile? tree with
  | none => simp [bind, Except.bind, pure, Except.pure]
  | some path =>
    cases read : Config.read tree path with
    | error error => simp [read, bind, Except.bind, Except.mapError, eq_comm]
    | ok found => simp [read, bind, Except.bind, Except.mapError, pure, Except.pure]

end Invocation

namespace Generator

variable {generator loaded : Generator} {tree : FileTree} {services : List String} {error : Error}

theorem loadAll_cons {name : String} {rest : List String} :
    generator.loadAll tree (name :: rest) =
      match Service.read generator.config tree name with
      | .error error => .error error
      | .ok service =>
        ({ generator with registry := generator.registry.insert name service } : Generator).loadAll
          tree rest := by
  rw [loadAll, List.foldlM_cons, load, Registry.load]
  cases Service.read generator.config tree name <;> rfl

theorem of_loadAll (h : generator.loadAll tree services = .ok loaded) :
    loaded.config = generator.config ∧
    (∀ name ∈ services, ∃ service : Service, service.ReadFrom generator.config tree name) ∧
    ∀ name service, loaded.registry.get? name = some service ↔
      (name ∈ services ∧ service.ReadFrom generator.config tree name) ∨
      (name ∉ services ∧ generator.registry.get? name = some service) := by
  induction services generalizing generator with
  | nil =>
    cases h
    simp
  | cons first rest ih =>
    rw [loadAll_cons] at h
    cases read : Service.read generator.config tree first with
    | error error =>
      rw [read] at h
      cases h
    | ok found =>
      rw [read] at h
      have reads := Service.read_eq_ok_iff.mp read
      obtain ⟨config_eq, readable, registry⟩ := ih h
      refine ⟨config_eq, List.forall_mem_cons.mpr ⟨⟨found, reads⟩, readable⟩,
        fun name service => ?_⟩
      rw [registry, Dict.get?_insert]
      by_cases here : name = first
      · subst here
        have unique : service.ReadFrom generator.config tree name ↔ found = service := by
          rw [← Service.read_eq_ok_iff, read, Except.ok.injEq]
        by_cases again : name ∈ rest <;> simp [again, unique]
      · simp [here]

theorem loadAll_eq_error_iff_forEach : generator.loadAll tree services = .error error ↔
    (Report.forEach services fun name =>
      Report.ofExcept (Service.read generator.config tree name)).outcome = .error error := by
  induction services generalizing generator with
  | nil => simp [loadAll, pure, Except.pure, Report.forEach]
  | cons first rest ih =>
    rw [loadAll_cons, Report.forEach]
    cases read : Service.read generator.config tree first with
    | error cause => simp [Report.ofExcept, Report.bind_of_error]
    | ok found =>
      dsimp only
      rw [ih]
      simp [Report.ofExcept, Report.outcome_bind_eq_error_iff]

theorem loadAll_eq_error_iff : generator.loadAll tree services = .error error ↔
    ∃ before name after, services = before ++ name :: after ∧
      (∀ earlier ∈ before, ∃ service : Service, service.ReadFrom generator.config tree earlier) ∧
      Service.read generator.config tree name = .error error := by
  have readable (name : String) :
      (Report.ofExcept (Service.read generator.config tree name)).Succeeds ↔
        ∃ service : Service, service.ReadFrom generator.config tree name :=
    exists_congr fun _ => Service.read_eq_ok_iff
  rw [loadAll_eq_error_iff_forEach, Report.outcome_forEach_eq_error_iff]
  simp only [readable]
  rfl

end Generator

namespace Invocation

variable {invocation : Invocation} {tree : FileTree} {generator : Generator} {error : Error}
  {failure : Failure}

/-- The generator of a run holds the services of the command, and no others. -/
structure Ready (invocation : Invocation) (tree : FileTree) (generator : Generator) : Prop where
  reads : invocation.Reads tree generator.config
  valid : generator.config.validate = .ok ()
  readable : ∀ name ∈ invocation.command.services,
    ∃ service : Service, service.ReadFrom generator.config tree name
  loaded : ∀ name service, generator.registry.get? name = some service ↔
    name ∈ invocation.command.services ∧ service.ReadFrom generator.config tree name

inductive Unready (invocation : Invocation) (tree : FileTree) (error : Error) : Prop
  | reading {path : String} : invocation.configFile? tree = some path →
      Config.read tree path = .error error → Unready invocation tree error
  | validating {config : Config} : invocation.Reads tree config →
      config.validate = .error error → Unready invocation tree error
  | loading {config : Config} {before after : List String} {name : String} :
      invocation.Reads tree config → config.validate = .ok () →
      invocation.command.services = before ++ name :: after →
      (∀ earlier ∈ before, ∃ service : Service, service.ReadFrom config tree earlier) →
      Service.read config tree name = .error error → Unready invocation tree error

/-- The first failure of a run: on the way to its generator, or in a step of its command that comes
after steps which succeed. -/
inductive Stops (invocation : Invocation) (tree : FileTree) (error : Error) : Prop
  | unready : invocation.Unready tree error → Stops invocation tree error
  | step {generator : Generator} {before after : List Step} {step : Step} :
      invocation.Ready tree generator →
      invocation.command.steps generator tree = before ++ step :: after →
      (∀ earlier ∈ before, (earlier.print generator tree).Succeeds) →
      (step.print generator tree).outcome = .error error → Stops invocation tree error

/-- All steps of a run succeed; what they print makes its text. -/
inductive Completes (invocation : Invocation) (tree : FileTree) : String → List Warning → Prop
  | intro {generator : Generator} {parts : List (Report.Part String)} :
      invocation.Ready tree generator →
      Report.Splits (invocation.command.steps generator tree) (Step.print generator tree) parts →
      Completes invocation tree (.join (parts.map (·.value))) (parts.flatMap (·.warnings))

theorem generator_eq : invocation.generator tree =
    match invocation.config tree with
    | .error failure => .error failure
    | .ok config =>
      match config.validate with
      | .error error => .error (.error error)
      | .ok () =>
        ((⟨config, .empty⟩ : Generator).loadAll tree invocation.command.services).mapError
          .error := by
  unfold Invocation.generator
  cases invocation.config tree with
  | error failure => rfl
  | ok config =>
    dsimp only
    change (do
      let empty ← (Generator.ofConfig config).mapError Failure.error
      (empty.loadAll tree invocation.command.services).mapError Failure.error) = _
    rw [Generator.ofConfig]
    cases config.validate <;> rfl

theorem ready_of_generator (h : invocation.generator tree = .ok generator) :
    invocation.Ready tree generator := by
  rw [generator_eq] at h
  split at h
  · cases h
  · next config read =>
    split at h
    · cases h
    · next valid =>
      cases loads : (⟨config, .empty⟩ : Generator).loadAll tree invocation.command.services with
      | error error =>
        rw [loads] at h
        cases h
      | ok loaded =>
        rw [loads] at h
        cases h
        obtain ⟨rfl, readable, registry⟩ := Generator.of_loadAll loads
        exact ⟨config_eq_ok_iff.mp read, valid, readable, by simpa using registry⟩

theorem generator_of_ready (h : invocation.Ready tree generator) :
    invocation.generator tree = .ok generator := by
  rw [generator_eq, config_eq_ok_iff.mpr h.reads]
  dsimp only
  rw [h.valid]
  dsimp only
  cases loads : (⟨generator.config, .empty⟩ : Generator).loadAll tree
      invocation.command.services with
  | error error =>
    obtain ⟨before, name, after, split, -, failed⟩ := Generator.loadAll_eq_error_iff.mp loads
    obtain ⟨service, reads⟩ := h.readable name (by simp [split])
    cases failed.symm.trans (Service.read_eq_ok_iff.mpr reads)
  | ok loaded =>
    obtain ⟨config_eq, -, registry⟩ := Generator.of_loadAll loads
    have registry_eq : loaded.registry = generator.registry := by
      refine Dict.ext_get? fun name => Option.ext fun service => ?_
      rw [registry, h.loaded]
      simp
    cases loaded
    cases generator
    cases config_eq
    cases registry_eq
    rfl

end Invocation

def Failure.cause? : Failure → Option Error
  | config _ cause | error cause => some cause
  | deniedWarnings _ | usage => none

def Outcome.cause? (outcome : Outcome) : Option Error :=
  outcome.failure.bind Failure.cause?

theorem Failure.code_of_cause {failure : Failure} {error : Error}
    (h : failure.cause? = some error) : failure.code = error.code := by
  cases failure <;> cases h <;> rfl

namespace Invocation

variable {invocation : Invocation} {tree : FileTree} {generator : Generator} {error : Error}
  {failure : Failure}

theorem generator_of_unready (h : invocation.Unready tree error) :
    ∃ failure, invocation.generator tree = .error failure ∧ failure.cause? = some error := by
  rw [generator_eq]
  cases h with
  | reading file failed =>
    rw [config_eq_error_iff.mpr ⟨_, _, file, failed, rfl⟩]
    exact ⟨_, rfl, rfl⟩
  | validating reads invalid =>
    rw [config_eq_ok_iff.mpr reads]
    dsimp only
    rw [invalid]
    exact ⟨_, rfl, rfl⟩
  | @loading config before after name reads valid split readable failed =>
    have loads : (⟨config, .empty⟩ : Generator).loadAll tree invocation.command.services =
        .error error :=
      Generator.loadAll_eq_error_iff.mpr ⟨before, name, after, split, readable, failed⟩
    rw [config_eq_ok_iff.mpr reads]
    dsimp only
    rw [valid]
    dsimp only
    rw [loads]
    exact ⟨_, rfl, rfl⟩

theorem unready_of_generator (h : invocation.generator tree = .error failure) :
    ∃ error, invocation.Unready tree error ∧ failure.cause? = some error := by
  rw [generator_eq] at h
  split at h
  · next found =>
    cases h
    obtain ⟨path, error, file, failed, rfl⟩ := config_eq_error_iff.mp found
    exact ⟨error, .reading file failed, rfl⟩
  · next config read =>
    have reads := config_eq_ok_iff.mp read
    split at h
    · next error invalid =>
      cases h
      exact ⟨error, .validating reads invalid, rfl⟩
    · next valid =>
      cases loads : (⟨config, .empty⟩ : Generator).loadAll tree invocation.command.services with
      | ok loaded =>
        rw [loads] at h
        cases h
      | error error =>
        rw [loads] at h
        cases h
        obtain ⟨before, name, after, split, readable, failed⟩ :=
          Generator.loadAll_eq_error_iff.mp loads
        exact ⟨error, .loading reads valid split readable failed, rfl⟩

theorem run_eq : invocation.run tree =
    match invocation.generator tree with
    | .error failure => ⟨"", some failure⟩
    | .ok generator =>
      match (invocation.command.text generator tree).outcome with
      | .error error => ⟨"", some (.error error)⟩
      | .ok text =>
        if invocation.denyWarnings && !(invocation.command.text generator tree).warnings.isEmpty then
          ⟨text, some (.deniedWarnings (invocation.command.text generator tree).warnings.length)⟩
        else ⟨text, none⟩ :=
  rfl

theorem Ready.text_eq (ready : invocation.Ready tree generator) :
    invocation.command.text generator tree =
      Report.concat (invocation.command.steps generator tree) (Step.print generator tree) := by
  refine Command.text_eq fun name mem => ?_
  obtain ⟨service, reads⟩ := ready.readable name mem
  refine ⟨service, ?_⟩
  rw [Registry.service, (ready.loaded name service).mpr ⟨mem, reads⟩]

theorem run_of_stops (h : invocation.Stops tree error) :
    ∃ failure, invocation.run tree = ⟨"", some failure⟩ ∧ failure.cause? = some error := by
  rw [run_eq]
  cases h with
  | unready unready =>
    obtain ⟨failure, failed, cause⟩ := generator_of_unready unready
    rw [failed]
    exact ⟨failure, rfl, cause⟩
  | @step generator before after step ready split succeed failed =>
    have text : (invocation.command.text generator tree).outcome = .error error := by
      rw [ready.text_eq]
      exact Report.outcome_concat_eq_error_iff.mpr ⟨before, step, after, split, succeed, failed⟩
    rw [generator_of_ready ready]
    dsimp only
    rw [text]
    exact ⟨_, rfl, rfl⟩

theorem run_of_completes {text : String} {warnings : List Warning}
    (h : invocation.Completes tree text warnings) :
    invocation.run tree = if invocation.denyWarnings = true ∧ warnings ≠ []
      then ⟨text, some (.deniedWarnings warnings.length)⟩ else ⟨text, none⟩ := by
  cases h with
  | intro ready splits =>
    rw [run_eq, generator_of_ready ready]
    dsimp only
    rw [ready.text_eq, splits.concat_eq]
    simp

theorem stops_or_completes : (∃ error, invocation.Stops tree error) ∨
    ∃ text warnings, invocation.Completes tree text warnings := by
  cases made : invocation.generator tree with
  | error failure =>
    obtain ⟨error, unready, -⟩ := unready_of_generator made
    exact .inl ⟨error, .unready unready⟩
  | ok generator =>
    have ready := ready_of_generator made
    cases text : (Report.concat (invocation.command.steps generator tree)
        (Step.print generator tree)).outcome with
    | error error =>
      obtain ⟨before, step, after, split, earlier, failed⟩ :=
        Report.outcome_concat_eq_error_iff.mp text
      exact .inl ⟨error, .step ready split earlier failed⟩
    | ok text' =>
      obtain ⟨parts, splits⟩ := Report.exists_splits_of_concat ⟨text', text⟩
      exact .inr ⟨_, _, .intro ready splits⟩

theorem cause?_run_of_stops (h : invocation.Stops tree error) :
    (invocation.run tree).cause? = some error := by
  obtain ⟨failure, stopped, cause⟩ := run_of_stops h
  rw [stopped]
  exact cause

theorem cause?_run_of_completes {text : String} {warnings : List Warning}
    (h : invocation.Completes tree text warnings) : (invocation.run tree).cause? = none := by
  rw [run_of_completes h]
  split <;> rfl

theorem cause?_run_eq_some_iff :
    (invocation.run tree).cause? = some error ↔ invocation.Stops tree error := by
  constructor
  · intro failed
    rcases @stops_or_completes invocation tree with ⟨cause, stops⟩ | ⟨text, warnings, completes⟩
    · rw [cause?_run_of_stops stops, Option.some.injEq] at failed
      rwa [← failed]
    · rw [cause?_run_of_completes completes] at failed
      cases failed
  · exact cause?_run_of_stops

theorem cause?_run_eq_none_iff : (invocation.run tree).cause? = none ↔
    ∃ text warnings, invocation.Completes tree text warnings := by
  constructor
  · intro fine
    refine stops_or_completes.resolve_left ?_
    rintro ⟨error, stops⟩
    rw [cause?_run_of_stops stops] at fine
    cases fine
  · rintro ⟨text, warnings, completes⟩
    exact cause?_run_of_completes completes

end Invocation

/-- A run that stops prints nothing, and its code is that of the first error. A run that completes
prints the texts of all steps, and its code tells of warnings that are denied. Every run does one of
the two, and ends with an error exactly if it stops. -/
theorem CommandLine.prints_all_or_nothing {tree : FileTree} {arguments : List String}
    {invocation : Invocation} (parsed : Arguments.parse arguments = .ok invocation) :
    (∀ error, invocation.Stops tree error →
      (run tree arguments).stdout = "" ∧ (run tree arguments).exit = error.code) ∧
    (∀ text warnings, invocation.Completes tree text warnings →
      (run tree arguments).stdout = text ∧ (run tree arguments).exit =
        if invocation.denyWarnings = true ∧ warnings ≠ [] then 1 else 0) ∧
    (∀ error, (run tree arguments).cause? = some error ↔ invocation.Stops tree error) ∧
    ((run tree arguments).cause? = none ↔
      ∃ text warnings, invocation.Completes tree text warnings) := by
  have run_eq : run tree arguments = invocation.run tree := by rw [run, parsed]
  rw [run_eq]
  refine ⟨?_, ?_, fun error => ?_, ?_⟩
  · intro error stops
    obtain ⟨failure, stopped, cause⟩ := Invocation.run_of_stops stops
    rw [stopped]
    exact ⟨rfl, Failure.code_of_cause cause⟩
  · intro text warnings completes
    rw [Invocation.run_of_completes completes]
    split <;> exact ⟨rfl, rfl⟩
  · exact Invocation.cause?_run_eq_some_iff
  · exact Invocation.cause?_run_eq_none_iff

/-- Two services, of which the second has a recorded example of a type that it does not declare. -/
def noteFiles : FileTree where
  base := []
  entries := {
    entries := [
      ("drafts", .directory),
      ("drafts/api-drafts.json", .file (.text "\x7b\x7d")),
      ("drafts/examples.json", .file (.text "\x7b\"Send\":[\x7b\x7d]\x7d")),
      ("drafts/proto", .directory),
      ("drafts/proto/drafts.proto", .file (.text "")),
      ("notes", .directory),
      ("notes/api-notes.json", .file (.text
        "\x7b\"components\":\x7b\"schemas\":\x7b\"AddRequest\":\x7b\"properties\":
          \x7b\"text\":\x7b\"type\":\"string\"\x7d\x7d\x7d\x7d\x7d\x7d")),
      ("notes/examples.json", .file (.text
        "\x7b\"Add\":[\x7b\"title\":\"One\",\"request\":\x7b\"text\":\"milk\"\x7d\x7d,
          \x7b\"title\":\"Two\",\"request\":\x7b\"text\":2\x7d\x7d]\x7d")),
      ("notes/proto", .directory),
      ("notes/proto/notes.proto", .file (.text ""))]
    increasing := by
      unfold Increasing
      decide +kernel }

def noteTypes : String :=
  "// AddRequest (go)\nText string `json:\"text,omitempty\"`\n\n" ++
  "// AddRequest (typescript)\ntext?: string;\n\n" ++
  "/// AddRequest (dart)\nfinal String? text;\n\n"

def noteExamples : String :=
  "// Add: One (typescript)\n\x7b\ntext: \"milk\",\n\x7d\n\n" ++
  "// Add: Two (typescript)\n\x7b\x7d\n\n"

theorem CommandLine.note_runs :
    (∃ invocation warnings, Arguments.parse ["types", "-s", "notes"] = .ok invocation ∧
      invocation.Completes noteFiles noteTypes warnings ∧
      (run noteFiles ["types", "-s", "notes"]).stdout = noteTypes ∧
      (run noteFiles ["types", "-s", "notes"]).exit = 0) ∧
    (∃ invocation warnings,
      Arguments.parse ["--deny-warnings", "example", "-s", "notes", "-l", "typescript"] =
        .ok invocation ∧
      invocation.Completes noteFiles noteExamples warnings ∧ warnings ≠ [] ∧
      (run noteFiles ["--deny-warnings", "example", "-s", "notes", "-l", "typescript"]).stdout =
        noteExamples ∧
      (run noteFiles ["--deny-warnings", "example", "-s", "notes", "-l", "typescript"]).exit = 1) ∧
    (∃ invocation, Arguments.parse ["check", "-s", "notes", "-s", "drafts"] = .ok invocation ∧
      invocation.Stops noteFiles (.schemaNotFound "drafts.SendRequest") ∧
      (run noteFiles ["check", "-s", "notes", "-s", "drafts"]).stdout = "" ∧
      (run noteFiles ["check", "-s", "notes", "-s", "drafts"]).exit = 3) ∧
    ∃ invocation, Arguments.parse ["check", "-s", "notes", "-s", "ghost"] = .ok invocation ∧
      invocation.Stops noteFiles
        (.openApiParse "ghost" (.unreadable "./ghost/api-ghost.json" .notFound)) ∧
      (run noteFiles ["check", "-s", "notes", "-s", "ghost"]).stdout = "" ∧
      (run noteFiles ["check", "-s", "notes", "-s", "ghost"]).exit = 6 := by
  have types : run noteFiles ["types", "-s", "notes"] = ⟨noteTypes, none⟩ := by decide +kernel
  have examples : run noteFiles ["--deny-warnings", "example", "-s", "notes", "-l", "typescript"] =
      ⟨noteExamples, some (.deniedWarnings 1)⟩ := by decide +kernel
  have drafts : run noteFiles ["check", "-s", "notes", "-s", "drafts"] =
      ⟨"", some (.error (.schemaNotFound "drafts.SendRequest"))⟩ := by decide +kernel
  have ghost : run noteFiles ["check", "-s", "notes", "-s", "ghost"] =
      ⟨"", some (.error (.openApiParse "ghost"
        (.unreadable "./ghost/api-ghost.json" .notFound)))⟩ := by decide +kernel
  refine ⟨?_, ?_, ?_, ?_⟩
  · have parsed : Arguments.parse ["types", "-s", "notes"] =
        .ok { command := .types "notes" none [] } := by decide +kernel
    obtain ⟨-, printed, -, completes⟩ := @prints_all_or_nothing noteFiles _ _ parsed
    rw [types] at printed completes ⊢
    obtain ⟨text, warnings, whole⟩ := completes.mp rfl
    obtain rfl : noteTypes = text := (printed text warnings whole).1
    exact ⟨_, warnings, parsed, whole, rfl, rfl⟩
  · have parsed : Arguments.parse ["--deny-warnings", "example", "-s", "notes", "-l", "typescript"] =
        .ok { denyWarnings := true, command := .example "notes" none [.typescript] } := by
      decide +kernel
    obtain ⟨-, printed, -, completes⟩ := @prints_all_or_nothing noteFiles _ _ parsed
    rw [examples] at printed completes ⊢
    obtain ⟨text, warnings, whole⟩ := completes.mp rfl
    obtain ⟨same, exit⟩ := printed text warnings whole
    obtain rfl : noteExamples = text := same
    refine ⟨_, warnings, parsed, whole, ?_, rfl, rfl⟩
    rintro rfl
    cases exit
  · have parsed : Arguments.parse ["check", "-s", "notes", "-s", "drafts"] =
        .ok { command := .check ["notes", "drafts"] } := by decide +kernel
    obtain ⟨-, -, stops, -⟩ := @prints_all_or_nothing noteFiles _ _ parsed
    rw [drafts] at stops ⊢
    exact ⟨_, parsed, (stops _).mp rfl, rfl, rfl⟩
  · have parsed : Arguments.parse ["check", "-s", "notes", "-s", "ghost"] =
        .ok { command := .check ["notes", "ghost"] } := by decide +kernel
    obtain ⟨-, -, stops, -⟩ := @prints_all_or_nothing noteFiles _ _ parsed
    rw [ghost] at stops ⊢
    exact ⟨_, parsed, (stops _).mp rfl, rfl, rfl⟩

end Typesmith
