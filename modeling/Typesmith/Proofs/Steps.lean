import Typesmith.CommandLine
import Typesmith.Proofs.Batch

/-! # The steps of a command

A command does one thing after the other: it declares a type in a language, reads the recorded
examples of a service, renders one of them. Its text is what its steps print, in this order, and it
fails where one of them does.
-/

namespace Typesmith

namespace Report

variable {α β γ : Type} {items more : List α} {item : α} {run : α → Report String}

def concat (items : List α) (run : α → Report String) : Report String := do
  return .join (← forEach items run)

theorem concat_nil : concat [] run = pure "" := rfl

theorem concat_cons : concat (item :: items) run = do
    let first ← run item
    let others ← concat items run
    return first ++ others := by
  simp only [concat, forEach, bind_assoc, pure_bind, String.join_cons]

theorem concat_singleton : concat [item] run = run item := by
  simp only [concat_cons, concat_nil, pure_bind, String.append_empty, bind_pure]

theorem concat_append : concat (items ++ more) run = do
    let first ← concat items run
    let others ← concat more run
    return first ++ others := by
  induction items with
  | nil => simp only [List.nil_append, concat_nil, pure_bind, String.empty_append, bind_pure]
  | cons item items ih =>
    simp only [List.cons_append, concat_cons, ih, bind_assoc, pure_bind, String.append_assoc]

theorem concat_flatMap {parts : β → List α} {groups : List β} :
    concat (groups.flatMap parts) run = concat groups fun group => concat (parts group) run := by
  induction groups with
  | nil => rfl
  | cons group groups ih => rw [List.flatMap_cons, concat_append, concat_cons, ih]

theorem concat_map {f : β → α} {entries : List β} :
    concat (entries.map f) run = concat entries fun entry => run (f entry) := by
  have same : (entries.map fun entry => run (f entry)) = (entries.map f).map run :=
    List.map_map.symm
  rw [concat, concat, forEach_congr same]

theorem concat_congr {run' : α → Report String} (h : ∀ item ∈ items, run item = run' item) :
    concat items run = concat items run' := by
  rw [concat, concat, forEach_congr (List.map_congr_left h)]

theorem outcome_concat_eq_error_iff {error : Error} :
    (concat items run).outcome = .error error ↔
      ∃ before item after, items = before ++ item :: after ∧
        (∀ earlier ∈ before, (run earlier).Succeeds) ∧ (run item).outcome = .error error := by
  rw [concat, outcome_bind_eq_error_iff]
  simp only [outcome_forEach_eq_error_iff, outcome_pure, reduceCtorEq, and_false, exists_false,
    or_false]

theorem Splits.concat_eq {parts : List (Part String)} (h : Splits items run parts) :
    concat items run = ⟨.ok (.join (parts.map (·.value))), parts.flatMap (·.warnings)⟩ := by
  rw [concat, return_eq, h.forEach_eq]
  rfl

theorem exists_splits_of_concat (h : (concat items run).Succeeds) :
    ∃ parts, Splits items run parts :=
  exists_splits (succeeds_return_iff.mp h)

theorem join_map_forEach {run : α → Report β} {f : β → String} :
    (do return String.join ((← forEach items run).map f)) =
      concat items fun item => do return f (← run item) := by
  simp only [concat, ← return_forEach, bind_assoc, pure_bind]

theorem concat_silent {run : α → Report β} :
    (concat items fun item => do
      let _ ← run item
      return "") = do
    let _ ← forEach items run
    return "" := by
  have silent (results : List β) : String.join (results.map fun _ => "") = "" := by
    induction results with
    | nil => rfl
    | cons result results ih => rw [List.map_cons, String.join_cons, ih, String.append_empty]
  rw [← join_map_forEach]
  simp only [silent]

theorem forEach_bind_length {run : α → Report β} (next : Nat → Report γ) :
    (forEach items run >>= fun results => next results.length) =
      forEach items run >>= fun _ => next items.length := by
  cases h : (forEach items run).outcome with
  | ok results =>
    have one_each := (outcome_forEach_eq_ok_iff.mp h).length_eq
    rw [bind_of_ok h, bind_of_ok h, one_each]
  | error error => rw [bind_of_error h, bind_of_error h]

end Report

inductive Step where
  | declare (language : Language) (service type : String)
  | read (service : String)
  | render (language : Language) (service endpoint : String) (sample : Example)
  | list (service : String)
  | resolve (service type : String)
  | walk (service endpoint : String) (sample : Example)
  | sum (service : String) (types examples : Nat)

namespace Step

/-- A comment line that names what comes below it, and the language. -/
def headline (language : Language) (text : String) : String :=
  Naming.commentLines language.commentMarker (text ++ " (" ++ language.name ++ ")")

/-- What a step prints, which is nothing for those that only check. -/
def print (generator : Generator) (tree : FileTree) : Step → Report String
  | declare language service type => do
    let code ← generator.declareType ⟨language, service⟩ service type
    return headline language type ++ (if code = "" then "\n" else code ++ "\n\n")
  | read service => do
    let _ ← generator.examples tree service
    return ""
  | render language service endpoint sample => do
    let found ← generator.renderExample ⟨language, service⟩ service endpoint sample
    return headline language (found.endpoint ++ ": " ++ found.title) ++ found.rendered.literal ++
      "\n\n"
  | list service => do
    let found ← generator.endpoints service
    return .join (found.map fun endpoint =>
      endpoint.name ++ "\t" ++ endpoint.requestType ++ "\t" ++ endpoint.responseType ++ "\t" ++
        (if endpoint.streaming then "stream\n" else "unary\n"))
  | resolve service type => do
    let found ← generator.service service
    let _ ← found.fields type
    return ""
  | walk service endpoint sample => do
    let found ← generator.service service
    let _ ← found.messageLiteral (Naming.requestType endpoint) sample.request
    return ""
  | sum service types examples =>
    return service ++ ": " ++ toString types ++ " types, " ++ toString examples ++ " examples\n"

end Step

namespace Generator

def typeNames (generator : Generator) (service : String) : List String :=
  (generator.registry.get? service).elim [] (·.document.schemas.keys)

/-- The recorded requests of a service, as far as they can be read. -/
def recorded (generator : Generator) (tree : FileTree) (service : String) :
    List (String × Example) :=
  (generator.examples tree service).toOption.elim [] ExampleDocument.requests

def checkSteps (generator : Generator) (tree : FileTree) (service : String) : List Step :=
  (generator.typeNames service).map (.resolve service) ++
    .read service :: (generator.recorded tree service).map (fun request =>
      .walk service request.1 request.2) ++
    [.sum service (generator.typeNames service).length (generator.recorded tree service).length]

def languagesOr (generator : Generator) : List Language → List Language
  | [] => generator.config.languages
  | requested => requested

end Generator

def Command.steps (command : Command) (generator : Generator) (tree : FileTree) : List Step :=
  match command with
  | .types service (some type) requested =>
    (generator.languagesOr requested).map fun language => .declare language service type
  | .types service none requested => (generator.languagesOr requested).flatMap fun language =>
      (generator.typeNames service).map fun type => .declare language service type
  | .example service endpoint requested => (generator.languagesOr requested).flatMap fun language =>
      .read service :: ((generator.recorded tree service).filter fun request =>
        endpoint.all (Text.equalIgnoringCase · request.1)).map fun request =>
          .render language service request.1 request.2
  | .endpoints service => [.list service]
  | .check services => services.flatMap (generator.checkSteps tree)

namespace Generator

variable {generator : Generator} {tree : FileTree} {name : String} {service : Service}

theorem chosenLanguages_eq {requested : List Language} :
    generator.chosenLanguages requested = generator.languagesOr requested := by
  cases requested <;> rfl

theorem typeNames_of_service (found : generator.registry.service name = .ok service) :
    generator.typeNames name = service.document.schemas.keys := by
  unfold Registry.service at found
  split at found
  · next loaded =>
    cases found
    rw [typeNames, loaded, Option.elim_some]
  · cases found

theorem recorded_of_examples {document : ExampleDocument}
    (read : generator.examples tree name = .ok document) :
    generator.recorded tree name = document.requests := by
  rw [recorded, read, Except.toOption, Option.elim_some]

theorem declarationText_eq {language : Language} {type code : String} :
    declarationText ⟨language, name⟩ type code =
      Step.headline language type ++ (if code = "" then "\n" else code ++ "\n\n") := by
  by_cases empty : code = "" <;>
    simp [declarationText, heading, Target.comment, Step.headline, empty, String.append_assoc]

theorem print_declare {language : Language} {type : String} :
    (Step.declare language name type).print generator tree = do
      let code ← generator.declareType ⟨language, name⟩ name type
      return declarationText ⟨language, name⟩ type code := by
  simp only [Step.print, declarationText_eq]

theorem print_render {language : Language} {endpoint : String} {sample : Example} :
    (Step.render language name endpoint sample).print generator tree = do
      let found ← generator.renderExample ⟨language, name⟩ name endpoint sample
      return exampleText ⟨language, name⟩ found :=
  rfl

theorem declareService_text (found : generator.registry.service name = .ok service)
    (language : Language) : (do
      let declarations ← generator.declareService ⟨language, name⟩ name
      return String.join (declarations.map fun entry =>
        declarationText ⟨language, name⟩ entry.1 entry.2)) =
      Report.concat ((generator.typeNames name).map (.declare language name))
        (Step.print generator tree) := by
  rw [Report.concat_map, typeNames_of_service found, declareService_eq_forEach found,
    Report.join_map_forEach]
  simp only [print_declare, Report.bind_assoc, Report.pure_bind]

theorem typesText_eq (found : generator.registry.service name = .ok service) (type : Option String)
    (requested : List Language) : generator.typesText name type requested =
      Report.concat ((Command.types name type requested).steps generator tree)
        (Step.print generator tree) := by
  rw [typesText, chosenLanguages_eq]
  cases type with
  | none =>
    rw [Command.steps, Report.concat_flatMap]
    refine Report.concat_congr fun language _ => ?_
    exact declareService_text found language
  | some type =>
    rw [Command.steps, Report.concat_map]
    refine Report.concat_congr fun language _ => ?_
    rw [print_declare]
    simp only [declarations, Report.bind_assoc, Report.pure_bind, List.map_cons, List.map_nil,
      String.join_cons, String.join_nil, String.append_empty]

theorem renderExamples_text {language : Language} {filter : Option String} :
    (do
      let found ← generator.renderExamples tree ⟨language, name⟩ name filter
      return String.join (found.map (exampleText ⟨language, name⟩))) =
      Report.concat (.read name :: ((generator.recorded tree name).filter fun request =>
        filter.all (Text.equalIgnoringCase · request.1)).map fun request =>
          .render language name request.1 request.2) (Step.print generator tree) := by
  rw [Report.concat_cons, renderExamples, Step.print]
  cases read : generator.examples tree name with
  | error error => rfl
  | ok document =>
    rw [Report.bind_lift_ok, Report.bind_lift_ok, Report.pure_bind, recorded_of_examples read,
      Report.join_map_forEach, Report.concat_map]
    simp only [print_render, String.empty_append, Report.bind_pure]
    rfl

theorem examplesText_eq (filter : Option String) (requested : List Language) :
    generator.examplesText tree name filter requested =
      Report.concat ((Command.example name filter requested).steps generator tree)
        (Step.print generator tree) := by
  rw [examplesText, chosenLanguages_eq, Command.steps, Report.concat_flatMap]
  exact Report.concat_congr fun language _ => renderExamples_text

theorem endpointText_eq {endpoint : OpenApi.Endpoint} : endpointText endpoint =
    endpoint.name ++ "\t" ++ endpoint.requestType ++ "\t" ++ endpoint.responseType ++ "\t" ++
      (if endpoint.streaming then "stream\n" else "unary\n") := by
  cases streams : endpoint.streaming <;>
    simp [endpointText, streams, String.intercalate_cons_cons, String.append_assoc]

theorem endpointsText_eq : generator.endpointsText name =
    Report.concat ((Command.endpoints name).steps generator tree) (Step.print generator tree) := by
  have lines : (endpointText : OpenApi.Endpoint → String) = _ := funext fun _ => endpointText_eq
  rw [Command.steps, Report.concat_singleton, endpointsText, Step.print, lines]

theorem schema_bind_length {α : Type} (service : Service) (next : Nat → Report α) :
    (service.schema >>= fun schema => next schema.types.length) =
      service.schema >>= fun _ => next service.document.schemas.keys.length := by
  simp only [Service.schema, Report.bind_assoc, Report.pure_bind]
  exact Report.forEach_bind_length next

theorem walkExamples_bind {α : Type} (next : Nat → Report α) :
    generator.walkExamples tree name >>= next =
      generator.walkExamples tree name >>= fun _ => next (generator.recorded tree name).length := by
  rw [walkExamples]
  cases read : generator.examples tree name with
  | error error => rw [Report.bind_lift_error, Report.bind_of_error rfl, Report.bind_of_error rfl]
  | ok document =>
    simp only [Report.bind_lift_ok, Report.bind_assoc, Report.pure_bind, recorded_of_examples read]
    exact Report.forEach_bind_length next

theorem concat_resolve (found : generator.registry.service name = .ok service) :
    Report.concat ((generator.typeNames name).map (.resolve name)) (Step.print generator tree) = do
      let _ ← service.schema
      return "" := by
  have service_eq : generator.service name = pure service := by
    rw [Generator.service, found]
    rfl
  rw [Report.concat_map, typeNames_of_service found, Service.schema, Report.bind_assoc]
  simp only [Step.print, service_eq, Report.pure_bind]
  rw [← Report.concat_silent]
  simp only [Report.bind_assoc, Report.pure_bind]

theorem concat_walk : Report.concat (.read name :: (generator.recorded tree name).map fun request =>
      .walk name request.1 request.2) (Step.print generator tree) = do
    let _ ← generator.walkExamples tree name
    return "" := by
  rw [Report.concat_cons, Step.print, walkExamples]
  cases read : generator.examples tree name with
  | error error => rfl
  | ok document =>
    simp only [Report.bind_lift_ok, Report.pure_bind, Report.bind_assoc, Report.concat_map,
      String.empty_append, Report.bind_pure, recorded_of_examples read]
    rw [← Report.concat_silent]
    simp only [Step.print, Report.bind_assoc]

theorem checkService_eq (found : generator.registry.service name = .ok service) :
    generator.checkService tree name =
      Report.concat (generator.checkSteps tree name) (Step.print generator tree) := by
  rw [checkService, Generator.service, found, Report.bind_lift_ok, checkSteps,
    Report.concat_append, Report.concat_append, concat_resolve found, concat_walk,
    Report.concat_singleton, Step.print, typeNames_of_service found]
  simp only [Report.bind_assoc, Report.pure_bind, String.empty_append]
  rewrite [← schema_bind_length service fun types => generator.walkExamples tree name >>= fun _ =>
    pure (name ++ ": " ++ toString types ++ " types, " ++
      toString (generator.recorded tree name).length ++ " examples\n")]
  exact congrArg (service.schema >>= ·) (funext fun schema => walkExamples_bind _)

theorem checkText_eq {services : List String}
    (loaded : ∀ name ∈ services, ∃ service, generator.registry.service name = .ok service) :
    generator.checkText tree services =
      Report.concat ((Command.check services).steps generator tree) (Step.print generator tree) := by
  rw [checkText, Command.steps, Report.concat_flatMap]
  refine Report.concat_congr fun name mem => ?_
  obtain ⟨service, found⟩ := loaded name mem
  exact checkService_eq found

end Generator

/-- The text of a command whose services are loaded is what its steps print. -/
theorem Command.text_eq {command : Command} {generator : Generator} {tree : FileTree}
    (loaded : ∀ name ∈ command.services, ∃ service, generator.registry.service name = .ok service) :
    command.text generator tree =
      Report.concat (command.steps generator tree) (Step.print generator tree) := by
  cases command with
  | types name type requested =>
    obtain ⟨service, found⟩ := loaded name List.mem_cons_self
    exact Generator.typesText_eq found type requested
  | «example» name filter requested => exact Generator.examplesText_eq filter requested
  | endpoints name => exact Generator.endpointsText_eq
  | check services => exact Generator.checkText_eq loaded

end Typesmith
