import Typesmith.Operation
import Typesmith.Proofs.Dict
import Typesmith.Proofs.Reading
import Typesmith.Session

/-! # Histories

Files change, services are loaded and reloaded, and questions are asked in between. A service is what
its files said at its last load that succeeded: a load that fails leaves no trace, and no question
about the schema looks at a file.
-/

namespace Typesmith

theorem Generator.service_congr {generator other : Generator} {name : String}
    (same : generator.registry.get? name = other.registry.get? name) :
    generator.registry.service name = other.registry.service name := by
  rw [Registry.service, Registry.service, same]

theorem Operation.run_congr {generator other : Generator} {name : String}
    (same : generator.registry.get? name = other.registry.get? name) (tree files : FileTree)
    {operation : Operation} (schema : operation.isSchemaQuery = true) :
    operation.run tree generator name = operation.run files other name := by
  have found := Generator.service_congr same
  cases operation with
  | renderExamples => cases schema
  | _ => simp only [run, Generator.service, Generator.endpoints, Generator.declareType,
      Generator.declareService, found]

namespace Session

inductive Event where
  | change (change : Change)
  | query {α : Type} (ask : FileTree → Generator → Report α)

def next (session : Session) : Event → Session
  | .change change => (session.apply change).2
  | .query ask => (session.query ask).2

def run (session : Session) (events : List Event) : Session :=
  events.foldl next session

/-- The files after an event: a file that cannot be removed stays, loads and questions change
none. -/
def Event.files (tree : FileTree) : Event → FileTree
  | .change (.write path entry) => tree.write path entry
  | .change (.remove path) => (tree.remove path).toOption.getD tree
  | .change (.load _) | .query _ => tree

def filesAfter (tree : FileTree) (events : List Event) : FileTree :=
  events.foldl Event.files tree

/-- A load of a service in the course of some events that succeeds, and what it reads. -/
def Loads (config : Config) (tree : FileTree) (events : List Event) (name : String)
    (service : Service) : Prop :=
  ∃ before after, events = before ++ .change (.load name) :: after ∧
    service.ReadFrom config (filesAfter tree before) name

/-- The last load of a service that succeeds, and what it reads. -/
def LastLoads (config : Config) (tree : FileTree) (events : List Event) (name : String)
    (service : Service) : Prop :=
  ∃ before after, events = before ++ .change (.load name) :: after ∧
    service.ReadFrom config (filesAfter tree before) name ∧
    ∀ later, ¬ Loads config (filesAfter tree before) after name later

variable {config : Config} {tree : FileTree} {event : Event} {rest events : List Event}
  {name : String} {service : Service} {session : Session}

theorem loads_cons_iff : Loads config tree (event :: rest) name service ↔
    (event = .change (.load name) ∧ service.ReadFrom config tree name) ∨
      Loads config (event.files tree) rest name service := by
  constructor
  · rintro ⟨before, after, split, reads⟩
    cases before with
    | nil =>
      obtain ⟨rfl, rfl⟩ := List.cons.inj split
      exact .inl ⟨rfl, reads⟩
    | cons first before =>
      obtain ⟨rfl, rfl⟩ := List.cons.inj split
      exact .inr ⟨before, after, rfl, reads⟩
  · rintro (⟨rfl, reads⟩ | ⟨before, after, rfl, reads⟩)
    · exact ⟨[], rest, rfl, reads⟩
    · exact ⟨event :: before, after, rfl, reads⟩

theorem lastLoads_cons_iff : LastLoads config tree (event :: rest) name service ↔
    (event = .change (.load name) ∧ service.ReadFrom config tree name ∧
      ∀ later, ¬ Loads config (event.files tree) rest name later) ∨
    LastLoads config (event.files tree) rest name service := by
  constructor
  · rintro ⟨before, after, split, reads, last⟩
    cases before with
    | nil =>
      obtain ⟨rfl, rfl⟩ := List.cons.inj split
      exact .inl ⟨rfl, reads, last⟩
    | cons first before =>
      obtain ⟨rfl, rfl⟩ := List.cons.inj split
      exact .inr ⟨before, after, rfl, reads, last⟩
  · rintro (⟨rfl, reads, last⟩ | ⟨before, after, rfl, reads, last⟩)
    · exact ⟨[], rest, rfl, reads, last⟩
    · exact ⟨event :: before, after, rfl, reads, last⟩

theorem LastLoads.loads (h : LastLoads config tree events name service) :
    Loads config tree events name service := by
  obtain ⟨before, after, split, reads, -⟩ := h
  exact ⟨before, after, split, reads⟩

theorem Loads.exists_last (h : Loads config tree events name service) :
    ∃ last, LastLoads config tree events name last := by
  induction events generalizing tree service with
  | nil =>
    obtain ⟨before, after, split, -⟩ := h
    simp at split
  | cons event rest ih =>
    by_cases again : ∃ later, Loads config (event.files tree) rest name later
    · obtain ⟨later, again⟩ := again
      obtain ⟨last, found⟩ := ih again
      exact ⟨last, lastLoads_cons_iff.mpr (.inr found)⟩
    · have none_later := not_exists.mp again
      rcases loads_cons_iff.mp h with ⟨now, reads⟩ | later
      · exact ⟨service, lastLoads_cons_iff.mpr (.inl ⟨now, reads, none_later⟩)⟩
      · exact absurd later (none_later service)

theorem apply_load_of_read (h : service.ReadFrom session.generator.config session.tree name) :
    session.apply (.load name) = (.ok (), { session with generator := { session.generator with
      registry := session.generator.registry.insert name service } }) := by
  have read := Service.read_eq_ok_iff.mpr h
  simp only [apply, changed, Generator.load, Registry.load, read]
  rfl

theorem apply_load_of_not_read
    (h : ∀ service : Service, ¬ service.ReadFrom session.generator.config session.tree name) :
    ∃ error, session.apply (.load name) = (.error error, session) ∧
      ((∃ cause, error = .openApiParse name cause) ∨ ∃ cause, error = .protoParse name cause) := by
  cases read : Service.read session.generator.config session.tree name with
  | ok service => exact absurd (Service.read_eq_ok_iff.mp read) (h service)
  | error error =>
    refine ⟨error, ?_, Service.read_eq_error read⟩
    simp only [apply, changed, Generator.load, Registry.load, read]
    rfl

theorem next_cases (session : Session) (event : Event) :
    (session.next event).tree = event.files session.tree ∧
    ((∃ (name : String) (service : Service), event = .change (.load name) ∧
      service.ReadFrom session.generator.config session.tree name ∧
      (session.next event).generator = { session.generator with
        registry := session.generator.registry.insert name service }) ∨
    ((∀ (name : String) (service : Service), event = .change (.load name) →
      ¬ service.ReadFrom session.generator.config session.tree name) ∧
      (session.next event).generator = session.generator)) := by
  cases event with
  | query ask => exact ⟨rfl, .inr ⟨fun _ _ eq => (nomatch eq), rfl⟩⟩
  | change change =>
    cases change with
    | write path entry => exact ⟨rfl, .inr ⟨fun _ _ eq => (nomatch eq), rfl⟩⟩
    | remove path =>
      simp only [next, apply, changed, Event.files]
      cases session.tree.remove path with
      | ok tree => exact ⟨rfl, .inr ⟨fun _ _ eq => (nomatch eq), rfl⟩⟩
      | error cause => exact ⟨rfl, .inr ⟨fun _ _ eq => (nomatch eq), rfl⟩⟩
    | load name =>
      by_cases readable : ∃ service : Service,
          service.ReadFrom session.generator.config session.tree name
      · obtain ⟨service, reads⟩ := readable
        rw [next, apply_load_of_read reads]
        exact ⟨rfl, .inl ⟨name, service, rfl, reads, rfl⟩⟩
      · have unreadable := not_exists.mp readable
        obtain ⟨error, unchanged, -⟩ := apply_load_of_not_read unreadable
        rw [next, unchanged]
        refine ⟨rfl, .inr ⟨fun other service eq => ?_, rfl⟩⟩
        cases eq
        exact unreadable service

theorem tree_next : (session.next event).tree = event.files session.tree :=
  (next_cases session event).1

theorem config_next : (session.next event).generator.config = session.generator.config := by
  rcases (next_cases session event).2 with ⟨_, _, _, _, changed⟩ | ⟨_, changed⟩ <;> rw [changed]

theorem get?_next_iff : (session.next event).generator.registry.get? name = some service ↔
    (event = .change (.load name) ∧
      service.ReadFrom session.generator.config session.tree name) ∨
    (∀ later : Service, ¬ (event = .change (.load name) ∧
      later.ReadFrom session.generator.config session.tree name)) ∧
        session.generator.registry.get? name = some service := by
  rcases (next_cases session event).2 with ⟨other, read, rfl, reads, changed⟩ | ⟨none, changed⟩
  · rw [changed, Dict.get?_insert]
    by_cases same : name = other
    · subst same
      have unique : service.ReadFrom session.generator.config session.tree name ↔
          read = service := by
        rw [← Service.read_eq_ok_iff, Service.read_eq_ok_iff.mpr reads, Except.ok.injEq]
      simp only [if_true, Option.some.injEq, unique, true_and]
      exact ⟨.inl, fun h => h.elim id fun h => absurd reads (h.1 read)⟩
    · have apart : Event.change (.load other) ≠ .change (.load name) := fun eq => by
        cases eq
        exact same rfl
      simp [same, apart]
  · rw [changed]
    constructor
    · exact fun found => .inr ⟨fun later h => none name later h.1 h.2, found⟩
    · rintro (⟨now, reads⟩ | ⟨-, found⟩)
      · exact absurd reads (none name service now)
      · exact found

theorem tree_run : (session.run events).tree = filesAfter session.tree events := by
  induction events generalizing session with
  | nil => rfl
  | cons event rest ih =>
    rw [run, List.foldl_cons, ← run, ih, tree_next]
    rfl

theorem config_run : (session.run events).generator.config = session.generator.config := by
  induction events generalizing session with
  | nil => rfl
  | cons event rest ih => rw [run, List.foldl_cons, ← run, ih, config_next]

theorem get?_run_iff : (session.run events).generator.registry.get? name = some service ↔
    LastLoads session.generator.config session.tree events name service ∨
    (∀ later, ¬ Loads session.generator.config session.tree events name later) ∧
      session.generator.registry.get? name = some service := by
  induction events generalizing session with
  | nil => simp [run, LastLoads, Loads]
  | cons event rest ih =>
    rw [run, List.foldl_cons, ← run, ih, config_next, tree_next, get?_next_iff]
    simp only [lastLoads_cons_iff, loads_cons_iff, not_or, forall_and]
    tauto

theorem get?_run_of_not_loads
    (h : ∀ later, ¬ Loads session.generator.config session.tree events name later) :
    (session.run events).generator.registry.get? name =
      session.generator.registry.get? name := by
  refine Option.ext fun service => ?_
  rw [get?_run_iff]
  constructor
  · rintro (last | ⟨-, found⟩)
    · exact absurd last.loads (h service)
    · exact found
  · exact fun found => .inr ⟨h, found⟩

def ask (session : Session) (name : String) (operation : Operation) : Report operation.Result :=
  operation.run session.tree session.generator name

/-- After any events a registry maps exactly the services of which some load succeeded, each to what
the last such load read. A load that fails leaves the whole session as it was, and what is asked about
the schema of a service stays as it is until a load of that service succeeds. -/
theorem registry_history {config : Config} (valid : config.validate = .ok ()) (tree : FileTree)
    (events : List Event) :
    ∃ start, Session.start tree config [] = .ok start ∧
      (∀ name service, (start.run events).generator.registry.get? name = some service ↔
        LastLoads config tree events name service) ∧
      (∀ name, (start.run events).generator.registry.contains name = true ↔
        ∃ service, Loads config tree events name service) ∧
      (∀ name, (∀ service : Service, ¬ service.ReadFrom config (filesAfter tree events) name) →
        ∃ error, (start.run events).apply (.load name) = (.error error, start.run events) ∧
          ((∃ cause, error = .openApiParse name cause) ∨
            ∃ cause, error = .protoParse name cause)) ∧
      ∀ name later, (∀ service, ¬ Loads config (filesAfter tree events) later name service) →
        ∀ operation : Operation, operation.isSchemaQuery = true →
          (start.run (events ++ later)).ask name operation =
            (start.run events).ask name operation := by
  let start : Session := { tree, generator := ⟨config, .empty⟩ }
  have started : Session.start tree config [] = .ok start := by
    rw [Session.start, Generator.ofConfig, valid]
    rfl
  have config_eq : (start.run events).generator.config = config := config_run
  have tree_eq : (start.run events).tree = filesAfter tree events := tree_run
  have registry (name : String) (service : Service) :
      (start.run events).generator.registry.get? name = some service ↔
        LastLoads config tree events name service := by
    rw [get?_run_iff]
    simp [start]
  refine ⟨start, started, registry, fun name => ?_, fun name unreadable => ?_,
    fun name later unloaded operation schema => ?_⟩
  · rw [Dict.contains, Option.isSome_iff_exists]
    simp only [registry]
    exact ⟨fun ⟨service, last⟩ => ⟨service, last.loads⟩, fun ⟨_, loads⟩ => loads.exists_last⟩
  · apply apply_load_of_not_read
    rwa [config_eq, tree_eq]
  · have split : start.run (events ++ later) = (start.run events).run later := List.foldl_append
    rw [split, ask, ask]
    refine Operation.run_congr (get?_run_of_not_loads ?_) _ _ schema
    rwa [config_eq, tree_eq]

def drafted : List Event := [
  .change (.write "notes/api-notes.json" (.file (.text
    "\x7b\"components\":\x7b\"schemas\":\x7b\"Note\":\x7b\"type\":\"object\"\x7d\x7d\x7d\x7d"))),
  .change (.write "notes/proto/notes.proto" (.file (.text
    "syntax = \"proto3\"; package notes; message Note \x7b string title = 1; \x7d")))]

theorem exists_drafted :
    ∃ service : Service, service.ReadFrom {} (filesAfter (.empty []) drafted) "notes" ∧
      service.document.schemas.keys = ["Note"] := by
  have keys : (Service.read {} (filesAfter (.empty []) drafted) "notes").toOption.map
      (·.document.schemas.keys) = some ["Note"] := by decide +kernel
  cases read : Service.read {} (filesAfter (.empty []) drafted) "notes" with
  | error error =>
    rw [read] at keys
    cases keys
  | ok service =>
    rw [read] at keys
    exact ⟨service, Service.read_eq_ok_iff.mp read, Option.some.inj keys⟩

/-- The service is loaded, and then its document is cut short. -/
def cutShort : List Event :=
  drafted ++ [.change (.load "notes"), .change (.write "notes/api-notes.json" (.file (.text "\x7b")))]

theorem notes_history :
    ({} : Config).validate = .ok () ∧ ∃ start, Session.start (.empty []) {} [] = .ok start ∧
      (∃ service, (start.run cutShort).generator.registry.get? "notes" = some service ∧
        service.document.schemas.keys = ["Note"]) ∧
      (∃ error, (start.run cutShort).apply (.load "notes") = (.error error, start.run cutShort)) ∧
      (start.run (cutShort ++ [.change (.load "notes")])).ask "notes" (.fields "Note") =
        (start.run cutShort).ask "notes" (.fields "Note") := by
  have valid : ({} : Config).validate = .ok () := by decide +kernel
  have failed : (Service.read {} (filesAfter (.empty []) cutShort) "notes").toOption.isNone := by
    decide +kernel
  have unreadable (service : Service) :
      ¬ service.ReadFrom {} (filesAfter (.empty []) cutShort) "notes" := fun reads => by
    rw [Service.read_eq_ok_iff.mpr reads] at failed
    cases failed
  obtain ⟨service, reads, keys⟩ := exists_drafted
  have last : LastLoads {} (.empty []) cutShort "notes" service := by
    refine ⟨drafted, _, rfl, reads, fun later loads => ?_⟩
    rcases loads_cons_iff.mp loads with ⟨other, -⟩ | ⟨before, after, split, -⟩
    · cases other
    · simp at split
  obtain ⟨start, started, registry, -, failing, asked⟩ :=
    registry_history valid (.empty []) cutShort
  obtain ⟨error, unchanged, -⟩ := failing "notes" unreadable
  refine ⟨valid, start, started, ⟨service, (registry _ _).mpr last, keys⟩, ⟨error, unchanged⟩,
    asked _ _ (fun later loads => ?_) (.fields "Note") rfl⟩
  rcases loads_cons_iff.mp loads with ⟨-, again⟩ | ⟨before, after, split, -⟩
  · exact unreadable later again
  · simp at split

end Session

end Typesmith
