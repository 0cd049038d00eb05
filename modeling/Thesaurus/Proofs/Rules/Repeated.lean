import Thesaurus.Proofs.Graph.Held
import Thesaurus.Proofs.Rules.Outcome
import Thesaurus.Proofs.Rules.Shape

/-!
# The same rules once more

A source submits the same edges whenever it is taken, and a draft holds those of the first time,
whatever came in between. Main facts: `exists_edges_of_take` for the source, `exists_edges_behind`
for the uses in between and `take_again` for both.
-/

set_option autoImplicit false

namespace Thesaurus.Rules

variable {p : Parser} {source : Source} {s : Session}

/-- The session after uses of a parser, with those that fail. -/
def Parser.behind (p : Parser) (uses : List Use) (s : Session) : Session :=
  uses.foldl (fun s use => ((use.step p.expand p.ask).runFrom s).2) s

theorem exists_edges_behind (hne : p.normalizer.NeverEmpty) (uses : List Use) (s : Session) :
    ∃ edges : List Edge, (p.behind uses s).draft = edges.foldl Draft.put s.draft := by
  induction uses generalizing s with
  | nil => exact ⟨[], rfl⟩
  | cons use uses ih =>
    have hwhole : Whole p.expand (use.step p.expand p.ask) := by
      rw [← consult_eq_ask]
      exact whole_step (fun _ => hne) use
    obtain ⟨all, hall⟩ := hwhole s
    obtain ⟨edges, hedges⟩ := ih ((use.step p.expand p.ask).runFrom s).2
    refine ⟨all.flatMap (groupEdges p.expand) ++ edges, ?_⟩
    rw [List.foldl_append, ← hall]
    exact hedges

/-- A source on which a parser succeeds once succeeds always, and always submits the same edges. -/
theorem exists_edges_of_take (hne : p.normalizer.NeverEmpty)
    (hok : ((p.take source).runFrom s).1 = .ok ()) :
    ∃ edges : List Edge, ∀ s, ∃ after, (p.take source).runFrom s = (.ok (), after) ∧
      after.draft = edges.foldl Draft.put s.draft := by
  rw [outcome_take hne] at hok
  cases hverdict : verdict p.normalizer source with
  | error cause =>
    rw [hverdict] at hok
    exact absurd hok nofun
  | ok pairs =>
    refine ⟨pairs.flatMap (pairEdges p.expand), fun s => ?_⟩
    obtain ⟨after, taken, hrun, -, hdraft, hedges⟩ := runFrom_take_eq_verdict hne source s
    rw [hverdict] at hrun
    rw [hedges pairs hverdict] at hdraft
    exact ⟨after, hrun, hdraft⟩

/-- A source that is taken once more, whatever a parser was used for in between, changes nothing in
a draft that drops repeated edges. A new draft that keeps them has the graph of the source with the
outputs of every input repeated behind themselves. -/
theorem take_again (hne : p.normalizer.NeverEmpty)
    (hok : ((p.take source).runFrom s).1 = .ok ()) :
    (s.draft.dedup = true → ∀ uses : List Use,
      let middle := p.behind uses ((p.take source).runFrom s).2
      ∃ after, (p.take source).runFrom middle = (.ok (), after) ∧ after.draft = middle.draft) ∧
    (s.draft = { dedup := false } → ∃ once twice,
      (p.take source).runFrom s = (.ok (), once) ∧ (p.take source).runFrom once = (.ok (), twice) ∧
      twice.draft.graph =
        { once.draft.graph with
          rules := once.draft.graph.rules.mapValues
            fun rule => { rule with outputs := rule.outputs ++ rule.outputs } }) := by
  obtain ⟨edges, hedges⟩ := exists_edges_of_take hne hok
  obtain ⟨once, honce, hdraft⟩ := hedges s
  constructor
  · intro hdedup uses
    have hfirst : ((p.take source).runFrom s).2.draft = edges.foldl Draft.put s.draft := by
      rw [honce]
      exact hdraft
    obtain ⟨more, hmiddle⟩ := exists_edges_behind hne uses ((p.take source).runFrom s).2
    rw [hfirst] at hmiddle
    obtain ⟨after, hafter, hagain⟩ := hedges (p.behind uses ((p.take source).runFrom s).2)
    refine ⟨after, hafter, ?_⟩
    rw [hagain, hmiddle]
    apply Draft.foldl_put_eq_self
    · rw [Draft.dedup_foldl_put, Draft.dedup_foldl_put, hdedup]
    · intro e he
      exact (Draft.holds_foldl_put he s.draft).foldl_put more
  · intro hfresh
    obtain ⟨twice, htwice, hagain⟩ := hedges once
    refine ⟨once, twice, honce, htwice, ?_⟩
    rw [hfresh, ← Draft.ofEdges_nil, Draft.foldl_put_ofEdges, List.nil_append] at hdraft
    rw [hdraft, Draft.foldl_put_ofEdges] at hagain
    rw [hagain, hdraft]
    exact ofEdges_append_self edges

theorem take_again_after_failures :
    let p : Parser := { expand := true }
    let source : Source := .text "A,b c|d,a\na , D"
    let uses : List Use :=
      [.take (.text "d,e|f"), .relate ["a", "g"], .take (.items ["B  c,a"] (some "broken off"))]
    let middle := p.behind uses ((p.take source).runFrom p.start).2
    let fresh : Session := { draft := { dedup := false } }
    (∃ after, (p.take source).runFrom middle = (.ok (), after) ∧ after.draft = middle.draft) ∧
    middle.draft.recorded = 8 ∧
    ∃ once twice, (p.take source).runFrom fresh = (.ok (), once) ∧
      (p.take source).runFrom once = (.ok (), twice) ∧
      once.draft.graph.outputs ["a"] = ([["b", "c"], ["d"], ["d"]] : List Term) ∧
      twice.draft.graph.rules = once.draft.graph.rules.mapValues
        fun rule => { rule with outputs := rule.outputs ++ rule.outputs } := by
  intro p source uses middle fresh
  have hne : p.normalizer.NeverEmpty := Analyzer.neverEmpty_normalizer {}
  have hdropping : ((p.take source).runFrom p.start).1 = .ok () := by decide +kernel
  have hkeeping : ((p.take source).runFrom fresh).1 = .ok () := by decide +kernel
  obtain ⟨once, twice, honce, htwice, hgraph⟩ := (take_again hne hkeeping).2 rfl
  refine ⟨(take_again hne hdropping).1 rfl uses, by decide +kernel, once, twice, honce, htwice, ?_,
    congrArg Graph.rules hgraph⟩
  have houtputs : ((p.take source).runFrom fresh).2.draft.graph.outputs ["a"] =
      ([["b", "c"], ["d"], ["d"]] : List Term) := by decide +kernel
  rwa [honce] at houtputs

end Thesaurus.Rules
