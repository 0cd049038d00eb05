import Thesaurus.Graph.Wide
import Thesaurus.Rules.Parser

/-!
# Rules in wide texts

A source of rules that holds surrogates is read sheltered, and the graph is taken out of the shelter
again. One that holds none is read as it is. What an analyzer makes of a sheltered text is what it
makes of the text (`Analyzer.unshelter_analyze_shelter`), and in cutting lines, groups and terms
only characters of the first planes are told apart.
-/

set_option autoImplicit false

namespace Thesaurus

/-- The graph that was built of sheltered texts. -/
def Graph.unshelter (g : Graph) : WideGraph where
  rules := .ofList (g.rules.entries.map fun (input, rule) =>
    (input.map WideText.unshelter,
      { outputs := rule.outputs.map (·.map WideText.unshelter), keepsInput := rule.keepsInput }))
  lookahead := g.lookahead

namespace Rules

inductive WideSource where
  | text (t : WideText)
  | stream (t : WideText)
  | items (lines : List WideText) (failure : Option WideText)
deriving DecidableEq, Repr

namespace WideSource

def isPlain : WideSource → Bool
  | .text t | .stream t => t.isPlain
  | .items lines failure => lines.all (·.isPlain) && failure.toList.all (·.isPlain)

def map (f : WideText → Text) : WideSource → Source
  | .text t => .text (f t)
  | .stream t => .stream (f t)
  | .items lines failure => .items (lines.map f) (failure.map f)

end WideSource

/-- The graph of a source that may hold surrogates, unless its rules are refused. -/
def Parser.wideGraph? (p : Parser) (source : WideSource) : Option WideGraph :=
  if source.isPlain then (p.run (source.map WideText.chars)).toOption.map Graph.wide
  else (p.run (source.map WideText.shelter)).toOption.map Graph.unshelter

end Rules

end Thesaurus
