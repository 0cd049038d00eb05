import Thesaurus.Event
import Thesaurus.Graph.Basic

/-!
# Drafts of a graph

A draft takes edges one at a time. An edge with an empty term is refused and changes nothing; with
`dedup` an output that its input already has is not recorded again, though its mark and its width
still count. A graph can be had at any time, and the draft goes on.
-/

set_option autoImplicit false

namespace Thesaurus

inductive EdgeError where
  | emptyInput
  | emptyOutput
deriving DecidableEq, Repr

def EdgeError.message : EdgeError → Text
  | .emptyInput => "input term must not be empty"
  | .emptyOutput => "output term must not be empty"

structure Draft where
  dedup : Bool := true
  rules : OrderedMap Term Rule := ∅
  lookahead : Nat := 0
  /-- How many edges were recorded. -/
  recorded : Nat := 0
deriving DecidableEq

namespace Draft

/-- Whether an edge is dropped because its input already has the output. -/
def drops (d : Draft) (e : Edge) : Bool :=
  d.dedup && ((d.rules.get? e.input).getD {}).outputs.contains e.output

/-- The rule of an input after one more edge, `old` being its rule before. -/
def extend (dropped : Bool) (e : Edge) (old : Option Rule) : Rule :=
  let rule := old.getD {}
  { outputs := if dropped then rule.outputs else rule.outputs ++ [e.output]
    keepsInput := rule.keepsInput || e.keepsInput }

/-- The draft after an edge that it drops or not. -/
def record (d : Draft) (dropped : Bool) (e : Edge) : Draft :=
  { d with
    rules := d.rules.alter (extend dropped e) e.input
    lookahead := max d.lookahead (max e.input.length e.output.length)
    recorded := if dropped then d.recorded else d.recorded + 1 }

/-- What there is to report of an edge. -/
def notices (dropped : Bool) (e : Edge) : List Event :=
  if dropped then [.duplicateEdge e.input e.output] else []

/-- The draft after an edge, with what there is to report. -/
def add (d : Draft) (e : Edge) : Except EdgeError (Draft × List Event) :=
  if e.input.isEmpty then .error .emptyInput
  else if e.output.isEmpty then .error .emptyOutput
  else
    let dropped := d.drops e
    .ok (d.record dropped e, notices dropped e)

/-- The graph of all edges so far. -/
def graph (d : Draft) : Graph := { rules := d.rules, lookahead := d.lookahead }

def graphNotice (d : Draft) : Event := .graphBuilt d.rules.size d.recorded

end Draft

end Thesaurus
