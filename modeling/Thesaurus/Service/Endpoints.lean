import Thesaurus.Graph.Catalog
import Thesaurus.RuleFile
import Thesaurus.Service.Framework
import Thesaurus.Settings.Basic

/-!
# The rule service

Editors send rules as JSON and get back the graph, or the reason why the rules are rejected. A body
that is no JSON object counts as an empty one. What the body leaves open comes from the settings,
which are read anew for each request.
-/

set_option autoImplicit false

namespace Thesaurus.Service

/-- Why an endpoint gives no answer of its own. -/
inductive Failure where
  | body
  | settings (cause : SettingsError)
  | parse (cause : Rules.ParseError)
deriving DecidableEq, Repr

def jsonType : Text := "application/json; charset=utf-8"

/-- A truth value of the payload, or what the settings say. -/
def choice (payload : Json) (name : Text) (default : Bool) : Bool :=
  match payload.member? name with
  | some (.bool b) => b
  | _ => default

def parser (payload : Json) (s : Settings) : Rules.Parser where
  expand := choice payload "expand" s.expand
  dedup := choice payload "dedup" s.dedup
  normalizer := Analyzer.normalizer ⟨s.lowercase⟩

def edgeJson (e : Edge) : Json :=
  .object
    [("input", .string e.input.display), ("output", .string e.output.display),
      ("include_original", .bool e.keepsInput)]

def graphMembers (g : Graph) : List (Text × Json) :=
  [("edges", .array (g.edges.map edgeJson)), ("graph", g.catalog.json)]

def notText : Text := "'rules' must be a string"

namespace Framework

variable (web : Framework)

def answer (status : Nat) (members : List (Text × Json)) : Response where
  status := status
  json := some (web.text (.object members))

/-- The object that the body of a request holds. -/
def payload (r : Request) : Except Failure Json :=
  match web.content r.contentType r.body with
  | .json (.object members) => .ok (.object members)
  | .json _ | .other => .ok (.object [])
  | .failure => .error .body

variable (files : FileTree) (env : Environment) (configFile : Text) (r : Request)

/-- Carries out a step on the rules of a request. Rejected rules are reported and answered with
the reason; `verdict` stands beside it. -/
def judge {α : Type} (verdict : List (Text × Json))
    (step : Rules.Parser → Rules.Source → Rules.Step α) (accept : α → List (Text × Json)) :
    Reporting Failure Response := do
  let payload ← (web.payload r : Except Failure Json)
  match payload.member? "rules" with
  | some (.string rules) => do
    let settings ← (Settings.load files env (.ofText configFile)).adapt Failure.settings
    let parser := parser payload settings
    let (outcome, session) := (step parser (.text rules)).runFrom parser.start
    modify (· ++ session.events)
    match outcome with
    | .ok a => return web.answer 200 (accept a)
    | .error (.rule e) => do
      Reporting.report (.rulesRejected e.message)
      return web.answer 400 (("error", .string e.message) :: verdict)
    | .error cause => throw (.parse cause)
  | _ => return web.answer 400 (("error", .string notText) :: verdict)

def serve : Endpoint → Reporting Failure Response
  | .status => return web.answer 200 [("status", .string "ok")]
  | .parse => web.judge files env configFile r [] Rules.Parser.graph graphMembers
  | .validate =>
    web.judge files env configFile r [("valid", .bool false)] Rules.Parser.take
      fun _ => [("valid", .bool true)]

/-- The answer to a request and what is reported on the way, the start of the service first. -/
def respond : Response × List Event :=
  let (response, events) := match web.dispatch registrations r.method r.target with
    | .serve e => (web.serve files env configFile r e).outcome
    | .probe e =>
      let (response, events) := (web.serve files env configFile r e).outcome
      (response.map Response.withoutText, events)
    | .own response => (.ok response, [])
  (response.toOption.getD web.failed, .serviceReady root :: events)

end Framework

end Thesaurus.Service
