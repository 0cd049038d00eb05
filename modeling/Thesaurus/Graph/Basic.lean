import Thesaurus.OrderedMap
import Thesaurus.Term

/-!
# Synonym graphs

A graph maps each input term to the terms that may stand for it. Inputs keep the order in which
they first came, outputs the order in which they were recorded. Main fact: `length_edges` counts
the edges by the outputs of the rules.
-/

set_option autoImplicit false

namespace Thesaurus

/-- A directed relation between two terms. With `keepsInput` the input still matches itself. -/
structure Edge where
  input : Term
  output : Term
  keepsInput : Bool
deriving DecidableEq, Repr

/-- All that one input leads to. -/
structure Rule where
  outputs : List Term := []
  keepsInput : Bool := false
deriving DecidableEq, Repr

/-- The rules by input, and how many tokens a reader has to look ahead to match any term. -/
structure Graph where
  rules : OrderedMap Term Rule := ∅
  lookahead : Int := 0
deriving DecidableEq

namespace Graph

/-- The number of inputs. -/
def size (g : Graph) : Nat := g.rules.size

def contains (g : Graph) (term : Term) : Bool := g.rules.contains term

/-- The outputs of a term, none for one that is no input. -/
def outputs (g : Graph) (term : Term) : List Term :=
  match g.rules.get? term with
  | some rule => rule.outputs
  | none => []

/-- The edges input by input, each with the mark of its rule. -/
def edges (g : Graph) : List Edge :=
  g.rules.entries.flatMap fun (input, rule) =>
    rule.outputs.map fun output => ⟨input, output, rule.keepsInput⟩

def countEdges (g : Graph) : Nat := g.rules.total (·.outputs.length)

theorem length_edges (g : Graph) : g.edges.length = g.countEdges := by
  rw [edges, countEdges, OrderedMap.total, OrderedMap.values]
  induction g.rules.entries with
  | nil => rfl
  | cons entry rest ih =>
    rw [List.flatMap_cons, List.length_append, List.length_map, ih]
    rfl

end Graph

end Thesaurus
