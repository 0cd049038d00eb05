import Thesaurus.Proofs.Rules.Outcome
import Thesaurus.Service.Basic

/-!
# Answers to posted rules

What is answered to a request that posts rules follows from the verdict on them alone. Main facts:
`judge_outcome` for every endpoint that judges rules, and from it `respond_take` and
`respond_graph`; `respond_validate` and `respond_parse` are for a request that holds nothing but
rules, and the lemmas on `notText` for one that holds none.
-/

set_option autoImplicit false

namespace Thesaurus.Service

open Rules

/-- A request posts a rule text to an endpoint, in whatever spelling of JSON, and nothing else. -/
structure Posts (web : Framework) (r : Request) (e : Endpoint) (t : Text) : Prop where
  route : web.dispatch registrations r.method r.target = .serve e
  payload : web.payload r = .ok (.object [("rules", .string t)])

variable {web : Framework} {files : FileTree} {env : Environment} {configFile : Text}
  {settings : Settings} {r : Request} {t : Text}

/-- The answer to what becomes of posted rules. -/
def answerTo {α : Type} (web : Framework) (verdict : List (Text × Json))
    (accept : α → List (Text × Json)) : Except ParseError α → Except Failure Response
  | .ok a => .ok (web.answer 200 (accept a))
  | .error (.rule e) => .ok (web.answer 400 (("error", .string e.message) :: verdict))
  | .error cause => .error (.parse cause)

/-- What is reported of posted rules behind all else. -/
def reportOf {α : Type} : Except ParseError α → List Event
  | .error (.rule e) => [.rulesRejected e.message]
  | _ => []

section Judge

variable {α : Type} {j : Json} (hpayload : web.payload r = .ok j)
  (hrules : j.member? "rules" = some (.string t))
  (hsettings : (Settings.load files env (.ofText configFile)).outcome.1 = .ok settings)
  (verdict : List (Text × Json)) (step : Parser → Source → Step α)
  (accept : α → List (Text × Json))

include hpayload hrules hsettings

theorem judge_outcome :
    (web.judge files env configFile r verdict step accept).outcome =
      let result := (step (parser j settings) (.text t)).runFrom (parser j settings).start
      (answerTo web verdict accept result.1,
        (Settings.load files env (.ofText configFile)).outcome.2 ++ result.2.events.toList ++
          reportOf result.1) := by
  let said := (Settings.load files env (.ofText configFile)).outcome.2
  have hload := run_adapt (Prod.ext hsettings rfl) Failure.settings
  have hstart : ((Except.ok j : Except Failure Json) : Reporting Failure Json).run.run #[] =
      (.ok j, #[]) := rfl
  rw [Framework.judge, hpayload, Reporting.outcome, run_bind_ok hstart, hrules]
  dsimp only
  rw [run_bind_ok hload]
  cases (step (parser j settings) (.text t)).runFrom (parser j settings).start with
  | mk outcome session =>
    have hevents : (said.toArray ++ session.events).toList = said ++ session.events.toList :=
      Array.toList_append
    match outcome with
    | .error (.rule e) =>
      exact congrArg (_, ·) (Array.toList_push.trans (congrArg (· ++ _) hevents))
    | .ok _ | .error (.edge _) | .error (.source _) =>
      exact congrArg (_, ·) (hevents.trans (List.append_nil _).symm)

theorem outcome_judge :
    (web.judge files env configFile r verdict step accept).outcome.1 =
      answerTo web verdict accept
        ((step (parser j settings) (.text t)).runFrom (parser j settings).start).1 :=
  congrArg Prod.fst (judge_outcome hpayload hrules hsettings verdict step accept)

end Judge

theorem outcome_judge_notText {α : Type} {j : Json} (hpayload : web.payload r = .ok j)
    (hrules : ∀ t, j.member? "rules" ≠ some (.string t)) (verdict : List (Text × Json))
    (step : Parser → Source → Step α) (accept : α → List (Text × Json)) :
    (web.judge files env configFile r verdict step accept).outcome.1 =
      .ok (web.answer 400 (("error", .string notText) :: verdict)) := by
  have hstart : ((web.payload r : Except Failure Json) : Reporting Failure Json).run.run #[] =
      (.ok j, #[]) := by
    rw [hpayload]
    rfl
  rw [Framework.judge, Reporting.outcome, run_bind_ok hstart]
  rcases hmember : j.member? "rules" with _ | (_ | _ | _ | t | _ | _)
  case some.string => exact absurd hmember (hrules t)
  all_goals rfl

theorem respond_of_outcome {e : Endpoint} {response : Response} {events : List Event}
    (hroute : web.dispatch registrations r.method r.target = .serve e)
    (h : (web.serve files env configFile r e).outcome = (.ok response, events)) :
    web.respond files env configFile r = (response, .serviceReady root :: events) := by
  rw [Framework.respond, hroute]
  dsimp only
  rw [h]
  rfl

theorem respond_of_serve {e : Endpoint}
    (hroute : web.dispatch registrations r.method r.target = .serve e) {response : Response}
    (h : (web.serve files env configFile r e).outcome.1 = .ok response) :
    (web.respond files env configFile r).1 = response :=
  congrArg Prod.fst (respond_of_outcome hroute (Prod.ext h rfl))

/-- The parser that the settings ask for. -/
def settingsParser (settings : Settings) : Parser where
  expand := settings.expand
  dedup := settings.dedup
  normalizer := Analyzer.normalizer ⟨settings.lowercase⟩

theorem neverEmpty_settingsParser (settings : Settings) :
    (settingsParser settings).normalizer.NeverEmpty :=
  Analyzer.neverEmpty_normalizer ⟨settings.lowercase⟩

theorem neverEmpty_payload (j : Json) (settings : Settings) :
    (parser j settings).normalizer.NeverEmpty :=
  Analyzer.neverEmpty_normalizer ⟨settings.lowercase⟩

section Judged

variable {j : Json} (hpayload : web.payload r = .ok j)
  (hrules : j.member? "rules" = some (.string t))
  (hsettings : (Settings.load files env (.ofText configFile)).outcome.1 = .ok settings)

include hpayload hrules hsettings

theorem respond_take (hroute : web.dispatch registrations r.method r.target = .serve .validate) :
    (web.respond files env configFile r).1 =
      match verdict (parser j settings).normalizer (.text t) with
      | .ok _ => web.answer 200 [("valid", .bool true)]
      | .error cause =>
        web.answer 400 [("error", .string cause.message), ("valid", .bool false)] := by
  apply respond_of_serve hroute
  rw [Framework.serve, outcome_judge hpayload hrules hsettings,
    outcome_take (neverEmpty_payload j settings)]
  cases hverdict : verdict (parser j settings).normalizer (.text t) with
  | ok pairs => rfl
  | error cause =>
    obtain ⟨e, rfl⟩ := exists_rule_of_verdict rfl hverdict
    rfl

theorem respond_graph (hroute : web.dispatch registrations r.method r.target = .serve .parse) :
    (web.respond files env configFile r).1 =
      match (parser j settings).run (.text t) with
      | .ok g => web.answer 200 (graphMembers g)
      | .error cause => web.answer 400 [("error", .string cause.message)] := by
  apply respond_of_serve hroute
  rw [Framework.serve, outcome_judge hpayload hrules hsettings]
  change answerTo _ _ _ ((parser j settings).run (.text t)) = _
  rw [run_eq (neverEmpty_payload j settings)]
  cases hverdict : verdict (parser j settings).normalizer (.text t) with
  | ok pairs => rfl
  | error cause =>
    obtain ⟨e, rfl⟩ := exists_rule_of_verdict rfl hverdict
    rfl

end Judged

section Unjudged

variable {j : Json} (hpayload : web.payload r = .ok j)
  (hrules : ∀ t, j.member? "rules" ≠ some (.string t))

include hpayload hrules

theorem respond_take_notText
    (hroute : web.dispatch registrations r.method r.target = .serve .validate) :
    (web.respond files env configFile r).1 =
      web.answer 400 [("error", .string notText), ("valid", .bool false)] := by
  apply respond_of_serve hroute
  rw [Framework.serve]
  exact outcome_judge_notText hpayload hrules _ _ _

theorem respond_graph_notText
    (hroute : web.dispatch registrations r.method r.target = .serve .parse) :
    (web.respond files env configFile r).1 = web.answer 400 [("error", .string notText)] := by
  apply respond_of_serve hroute
  rw [Framework.serve]
  exact outcome_judge_notText hpayload hrules _ _ _

end Unjudged

section Posted

/-- Where nothing but rules is posted, the switches are those of the settings. -/
theorem parser_rules (t : Text) (settings : Settings) :
    parser (.object [("rules", .string t)]) settings = settingsParser settings := rfl

variable (hsettings : (Settings.load files env (.ofText configFile)).outcome.1 = .ok settings)

include hsettings

theorem respond_validate (h : Posts web r .validate t) :
    (web.respond files env configFile r).1 =
      match verdict (settingsParser settings).normalizer (.text t) with
      | .ok _ => web.answer 200 [("valid", .bool true)]
      | .error cause =>
        web.answer 400 [("error", .string cause.message), ("valid", .bool false)] := by
  rw [← parser_rules t settings]
  exact respond_take h.payload rfl hsettings h.route

theorem respond_parse (h : Posts web r .parse t) :
    (web.respond files env configFile r).1 =
      match (settingsParser settings).run (.text t) with
      | .ok g => web.answer 200 (graphMembers g)
      | .error cause => web.answer 400 [("error", .string cause.message)] := by
  rw [← parser_rules t settings]
  exact respond_graph h.payload rfl hsettings h.route

end Posted

end Thesaurus.Service
