import Thesaurus.Proofs.Rules.Steps

/-!
# Histories of a draft

A history is a list of calls that submit an edge or ask for the graph. Main facts:
`draft_afterCalls` says that a draft is determined by the accepted edges of its history, and
`finish_after_history` what graph it gives.
-/

set_option autoImplicit false

namespace Thesaurus.Rules

inductive Call where
  | add (e : Edge)
  | finish
deriving DecidableEq

/-- Carries out a call, which answers with a graph if it asks for one. -/
def Call.step : Call → Step (Option Graph)
  | .add e => do
    Step.submit e
    return none
  | .finish => do return some (← Step.graph)

/-- The session that calls leave behind, those that fail included. -/
def afterCalls (dedup : Bool) (calls : List Call) : Session :=
  calls.foldl (fun s call => (call.step.runFrom s).2) { draft := { dedup } }

/-- The edges submitted so far of which neither term is empty. -/
def accepted (calls : List Call) : List Edge :=
  calls.filterMap fun
    | .add e => if e.IsProper then some e else none
    | .finish => none

theorem runFrom_add_emptyInput {e : Edge} (h : e.input = []) (s : Session) :
    (Call.add e).step.runFrom s =
      (.error (.edge .emptyInput), { s with submitted := s.submitted.push e }) :=
  Step.runFrom_bind_error (Step.runFrom_submit_error (Draft.add_emptyInput h s.draft)) _

theorem runFrom_add_emptyOutput {e : Edge} (hinput : e.input ≠ []) (h : e.output = [])
    (s : Session) :
    (Call.add e).step.runFrom s =
      (.error (.edge .emptyOutput), { s with submitted := s.submitted.push e }) :=
  Step.runFrom_bind_error (Step.runFrom_submit_error (Draft.add_emptyOutput hinput h s.draft)) _

theorem runFrom_add {e : Edge} (h : e.IsProper) (s : Session) :
    (Call.add e).step.runFrom s = (.ok none, s.put e) :=
  Step.runFrom_bind_ok (Step.runFrom_submit h s) _

theorem runFrom_finish (s : Session) :
    Call.finish.step.runFrom s =
      (.ok (some s.draft.graph), { s with events := s.events ++ [s.draft.graphNotice] }) := rfl

/-- A refused edge and a request for the graph leave the draft as it is. -/
theorem draft_step (call : Call) (s : Session) :
    (call.step.runFrom s).2.draft = (accepted [call]).foldl Draft.put s.draft := by
  cases call with
  | finish => rfl
  | add e =>
    by_cases h : e.IsProper
    · rw [runFrom_add h]
      simp [accepted, h, Session.put]
    · have hnone : accepted [.add e] = [] := by simp [accepted, h]
      rw [hnone]
      by_cases hinput : e.input = []
      · rw [runFrom_add_emptyInput hinput]
        rfl
      · have houtput : e.output = [] := by
          by_contra hne
          exact h ⟨hinput, hne⟩
        rw [runFrom_add_emptyOutput hinput houtput]
        rfl

/-- Along every history the draft is a function of the accepted edges. -/
theorem draft_afterCalls (dedup : Bool) (calls : List Call) :
    (afterCalls dedup calls).draft = Draft.ofEdges dedup (accepted calls) := by
  induction calls using List.reverseRecOn with
  | nil => exact (Draft.ofEdges_nil dedup).symm
  | append_singleton calls call ih =>
    have haccepted : accepted (calls ++ [call]) = accepted calls ++ accepted [call] :=
      List.filterMap_append
    rw [afterCalls, List.foldl_append, ← afterCalls, List.foldl_cons, List.foldl_nil, draft_step,
      ih, Draft.foldl_put_ofEdges, haccepted]

/-- After any history an edge with an empty term is refused and changes nothing, every other edge
is accepted, and the graph is what its edges say: the distinct inputs in order of first occurrence;
for each its outputs in order, with `dedup` the first occurrence of each, and whether any edge keeps
the input; and the largest token count of all terms. The three counts of edges agree. -/
theorem finish_after_history (dedup : Bool) (calls : List Call) :
    let s := afterCalls dedup calls
    let edges := accepted calls
    (∀ e, e.input = [] →
      ((Call.add e).step.runFrom s).1 = .error (.edge .emptyInput) ∧
        ((Call.add e).step.runFrom s).2.draft = s.draft) ∧
    (∀ e, e.input ≠ [] → e.output = [] →
      ((Call.add e).step.runFrom s).1 = .error (.edge .emptyOutput) ∧
        ((Call.add e).step.runFrom s).2.draft = s.draft) ∧
    (∀ e, e.input ≠ [] → e.output ≠ [] → ((Call.add e).step.runFrom s).1 = .ok none) ∧
    (Call.finish.step.runFrom s).2.draft = s.draft ∧
    ∃ g, (Call.finish.step.runFrom s).1 = .ok (some g) ∧
      g.rules.keys = firsts (edges.map (·.input)) ∧
      (∀ input ∈ g.rules.keys, g.rules.get? input = some
        { outputs := if dedup then firsts (outputsOf edges input) else outputsOf edges input
          keepsInput := (edges.filter (·.input = input)).any (·.keepsInput) }) ∧
      g.lookahead = width (edges.flatMap Edge.terms) ∧
      g.lookahead = width g.terms ∧
      (edges = [] → g.lookahead = 0) ∧
      s.draft.recorded = g.countEdges ∧
      g.edges.length = g.countEdges ∧
      g.countEdges =
        if dedup then (firsts (edges.map Edge.pair)).length else edges.length := by
  intro s edges
  have hdraft : s.draft = Draft.ofEdges dedup edges := draft_afterCalls dedup calls
  have hgraph : s.draft.graph = Graph.ofEdges dedup edges := by rw [hdraft]; rfl
  refine ⟨?_, ?_, ?_, rfl, Graph.ofEdges dedup edges, ?_, ?_, ?_, rfl, ?_, ?_, ?_, ?_, ?_⟩
  · intro e h
    rw [runFrom_add_emptyInput h]
    exact ⟨rfl, rfl⟩
  · intro e hinput h
    rw [runFrom_add_emptyOutput hinput h]
    exact ⟨rfl, rfl⟩
  · intro e hinput houtput
    rw [runFrom_add ⟨hinput, houtput⟩]
  · rw [runFrom_finish, hgraph]
  · exact OrderedMap.keys_tabulate _ _
  · intro input h
    have hmem : input ∈ edges.map (·.input) := by
      rwa [Graph.ofEdges, OrderedMap.keys_tabulate, mem_firsts] at h
    rw [Graph.ofEdges, OrderedMap.get?_tabulate, if_pos hmem]
    rfl
  · exact congrArg Nat.cast (width_terms_ofEdges dedup edges).symm
  · intro h
    rw [h]
    rfl
  · rw [hdraft, countEdges_ofEdges]
    rfl
  · exact Graph.length_edges _
  · exact countEdges_ofEdges dedup edges

theorem finish_after_repeated_edge :
    let calls : List Call :=
      [.add ⟨["a"], ["b", "c"], false⟩, .add ⟨[], ["b"], true⟩, .finish,
        .add ⟨["d"], ["a"], false⟩, .add ⟨["a"], ["b", "c"], true⟩]
    let s := afterCalls true calls
    ((Call.add ⟨[], ["b"], true⟩).step.runFrom s).2.draft = s.draft ∧
    ((Call.add ⟨["b"], [], true⟩).step.runFrom s).2.draft = s.draft ∧
    ((Call.add ⟨["b"], ["b"], true⟩).step.runFrom s).1 = .ok none ∧
    ∃ g, (Call.finish.step.runFrom s).1 = .ok (some g) ∧
      g.rules.keys = ([["a"], ["d"]] : List Term) ∧
      g.rules.get? ["a"] = some { outputs := [["b", "c"]], keepsInput := true } ∧
      g.lookahead = 2 ∧ g.countEdges = 2 := by
  intro calls s
  obtain ⟨hinput, houtput, hadd, -, g, hg, hkeys, hrules, hlookahead, -, -, -, -, hcount⟩ :=
    finish_after_history true calls
  refine ⟨(hinput _ rfl).2, (houtput _ (by decide) rfl).2, hadd _ (by decide) (by decide), g, hg,
    hkeys.trans (by decide), (hrules ["a"] ?_).trans (by decide), hlookahead.trans (by decide),
    hcount.trans (by decide)⟩
  rw [hkeys]
  decide

end Thesaurus.Rules
