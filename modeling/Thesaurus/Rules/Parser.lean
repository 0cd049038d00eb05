import Thesaurus.Rules.Session
import Thesaurus.Rules.Source

/-!
# Parsing rules

A parser reads its source line by line and group by group, normalizes the terms of each group and
submits edges. It stops at the first group that it cannot use; what was submitted before stays.
-/

set_option autoImplicit false

namespace Thesaurus.Rules

/-- The edges among the terms of a group. Without expansion all terms lead to the first; with it
each leads to the terms at all other places, and keeps its own tokens. -/
def groupEdges (expand : Bool) (terms : List Term) : List Edge :=
  if expand then
    terms.zipIdx.flatMap fun (input, i) =>
      (terms.zipIdx.filter (·.2 != i)).map fun (output, _) => ⟨input, output, true⟩
  else
    match terms with
    | [] => []
    | first :: _ => terms.map fun input => ⟨input, first, false⟩

/-- Relates the terms of one group, `ask` being asked for the term of each text. All are there before
the first edge is submitted. -/
def relateBy (expand : Bool) (ask : Text → Step Term) (terms : List Text) : Step Unit := do
  let terms ← terms.mapM ask
  (groupEdges expand terms).forM Step.submit

def takeGroupBy (expand : Bool) (ask : Text → Step Term) (group : Text) : Step Unit :=
  match terms group with
  | .ok terms => relateBy expand ask terms
  | .error cause => throw (.rule cause)

def takeLinesBy (expand : Bool) (ask : Text → Step Term) (lines : List Text) : Step Unit :=
  lines.forM fun line => (groups line).forM (takeGroupBy expand ask)

/-- Takes all lines of a source. A failure of the source itself is met behind the last line. -/
def takeBy (expand : Bool) (ask : Text → Step Term) (source : Source) : Step Unit := do
  let lines := source.lines
  takeLinesBy expand ask lines
  match source.failure with
  | some reason => throw (.source reason)
  | none => Step.report [.rulesProcessed lines.length (lines.flatMap groups).length]

structure Parser where
  expand : Bool := false
  dedup : Bool := true
  normalizer : Normalizer := Analyzer.normalizer {}

namespace Parser

/-- A session with a draft of the parser's own. -/
def start (p : Parser) : Session := { draft := { dedup := p.dedup } }

def ask (p : Parser) : Text → Step Term := Step.normalize p.normalizer

def relate (p : Parser) (terms : List Text) : Step Unit := relateBy p.expand p.ask terms

def takeGroup (p : Parser) (group : Text) : Step Unit := takeGroupBy p.expand p.ask group

def takeLines (p : Parser) (lines : List Text) : Step Unit := takeLinesBy p.expand p.ask lines

def take (p : Parser) (source : Source) : Step Unit := takeBy p.expand p.ask source

/-- The graph after all lines of a source. -/
def graph (p : Parser) (source : Source) : Step Graph := do
  p.take source
  Step.graph

/-- The graph of a source alone, or the reason why it has none. -/
def run (p : Parser) (source : Source) : Except ParseError Graph :=
  ((p.graph source).runFrom p.start).1

end Parser

end Thesaurus.Rules
