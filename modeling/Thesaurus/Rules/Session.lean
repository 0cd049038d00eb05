import Thesaurus.Graph.Draft
import Thesaurus.Rules.Group

/-!
# Sessions

A session is a draft with the record of what was done to it. A step changes a session and may
fail; what it changed before it failed stays.
-/

set_option autoImplicit false

namespace Thesaurus.Rules

/-- The texts that were normalized, the edges that were submitted and the events that were
reported stand in order, those at which a step failed included. -/
structure Session where
  draft : Draft := {}
  normalized : Array Text := #[]
  submitted : Array Edge := #[]
  events : Array Event := #[]
deriving DecidableEq

/-- Why a step fails. -/
inductive ParseError where
  | rule (cause : RuleError)
  | edge (cause : EdgeError)
  | source (reason : Text)
deriving DecidableEq, Repr

def ParseError.message : ParseError → Text
  | .rule cause => cause.message
  | .edge cause => cause.message
  | .source reason => reason

abbrev Step := ExceptT ParseError (StateM Session)

namespace Step

/-- The outcome of a step and the session behind it. -/
def runFrom {α : Type} (step : Step α) (s : Session) : Except ParseError α × Session :=
  step.run.run s

def report (events : List Event) : Step Unit :=
  modify fun s => { s with events := s.events ++ events }

def normalize (normalizer : Normalizer) (t : Text) : Step Term := do
  modify fun s => { s with normalized := s.normalized.push t }
  match normalizer t with
  | .ok term => return term
  | .error cause => throw (.rule (.term cause))

/-- Submits one edge to the draft. -/
def submit (e : Edge) : Step Unit := do
  modify fun s => { s with submitted := s.submitted.push e }
  match (← get).draft.add e with
  | .error cause => throw (.edge cause)
  | .ok (draft, events) =>
    report events
    modify fun s => { s with draft }

/-- The graph of the draft as it stands. -/
def graph : Step Graph := do
  let draft := (← get).draft
  report [draft.graphNotice]
  return draft.graph

end Step

end Thesaurus.Rules
