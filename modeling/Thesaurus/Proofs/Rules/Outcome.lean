import Thesaurus.Proofs.Graph.Queries
import Thesaurus.Proofs.Rules.FirstFault

/-!
# Outcomes of a run

Whether a source is rejected, and why, is settled by its groups and the normalizer. What a parser
expands and what it drops shape the graph alone. Main facts: `outcome_take` and `run_eq` reduce a
run to `verdict`, which knows neither switch, and `runs_under_all_switches` compares the four graphs.
-/

set_option autoImplicit false

namespace Thesaurus.Rules

section MapM

variable {α β ε : Type} {f : α → Except ε β} {l : List α}

theorem exists_fault_of_mapM {cause : ε} (h : l.mapM f = .error cause) :
    ∃ before x rest, l = before ++ x :: rest ∧ (∀ y ∈ before, ∃ b, f y = .ok b) ∧
      f x = .error cause := by
  induction l with
  | nil => exact absurd h nofun
  | cons x l ih =>
    rw [List.mapM_cons] at h
    cases hx : f x with
    | error cause' =>
      rw [hx] at h
      have heq : cause' = cause := Except.error.inj h
      exact ⟨[], x, l, rfl, by simp, by rw [hx, heq]⟩
    | ok b =>
      rw [hx] at h
      cases hl : l.mapM f with
      | ok bs =>
        rw [hl] at h
        exact absurd h nofun
      | error cause' =>
        rw [hl] at h
        have heq : cause' = cause := Except.error.inj h
        obtain ⟨before, y, rest, rfl, hbefore, hy⟩ := ih (heq ▸ hl)
        exact ⟨x :: before, y, rest, rfl, List.forall_mem_cons.mpr ⟨⟨b, hx⟩, hbefore⟩, hy⟩

theorem map_eq_of_mapM {bs : List β} (h : l.mapM f = .ok bs) : l.map f = bs.map .ok := by
  induction l generalizing bs with
  | nil =>
    rw [← Except.ok.inj h]
    rfl
  | cons x l ih =>
    rw [List.mapM_cons] at h
    cases hx : f x with
    | error cause =>
      rw [hx] at h
      exact absurd h nofun
    | ok b =>
      rw [hx] at h
      cases hl : l.mapM f with
      | error cause =>
        rw [hl] at h
        exact absurd h nofun
      | ok rest =>
        rw [hl] at h
        rw [← Except.ok.inj h, List.map_cons, hx, ih hl]
        rfl

theorem exists_ok_of_map_eq {bs : List β} (h : l.map f = bs.map .ok) :
    ∀ x ∈ l, ∃ b, f x = .ok b := by
  intro x hx
  have hmem : f x ∈ bs.map .ok := h ▸ List.mem_map_of_mem hx
  obtain ⟨b, -, hb⟩ := List.mem_map.mp hmem
  exact ⟨b, hb.symm⟩

/-- Two lists that look the same through `f` and `g` give the same through what depends on that. -/
theorem flatMap_eq_of_map_eq {γ δ : Type} {f : α → δ} {g : β → δ} {h : α → List γ} {k : β → List γ}
    (hk : ∀ x b, f x = g b → h x = k b) {l : List α} {bs : List β} (hl : l.map f = bs.map g) :
    l.flatMap h = bs.flatMap k := by
  induction bs generalizing l with
  | nil =>
    rw [List.map_eq_nil_iff.mp hl]
    rfl
  | cons b bs ih =>
    obtain ⟨x, rest, rfl, hx, hrest⟩ := List.map_eq_cons_iff.mp hl
    rw [List.flatMap_cons, List.flatMap_cons, hk x b hx, ih hrest]

end MapM

/-- The pairs of terms that a source holds, or why it is rejected. -/
def verdict (normalizer : Normalizer) (source : Source) : Except ParseError (List (Term × Term)) :=
  match (source.lines.flatMap groups).mapM (resolve normalizer), source.failure with
  | .error cause, _ => .error (.rule cause)
  | .ok _, some reason => .error (.source reason)
  | .ok pairs, none => .ok pairs

theorem flatMap_edgesOf {p : Parser} {all : List Text} {pairs : List (Term × Term)}
    (h : all.map (resolve p.normalizer) = pairs.map .ok) :
    all.flatMap (edgesOf p) = pairs.flatMap (pairEdges p.expand) := by
  refine flatMap_eq_of_map_eq (fun group pair hpair => ?_) h
  rw [edgesOf, hpair]

theorem verdict_eq_ok_iff {normalizer : Normalizer} {source : Source}
    {pairs : List (Term × Term)} : verdict normalizer source = .ok pairs ↔
      (source.lines.flatMap groups).mapM (resolve normalizer) = .ok pairs ∧
        source.failure = none := by
  rw [verdict]
  cases (source.lines.flatMap groups).mapM (resolve normalizer) with
  | error cause => simp
  | ok resolved => cases source.failure <;> simp

theorem map_resolve_of_verdict {normalizer : Normalizer} {source : Source}
    {pairs : List (Term × Term)} (h : verdict normalizer source = .ok pairs) :
    (source.lines.flatMap groups).map (resolve normalizer) = pairs.map .ok :=
  map_eq_of_mapM (verdict_eq_ok_iff.mp h).1

theorem exists_group_of_verdict {normalizer : Normalizer} {source : Source} {cause : ParseError}
    (hfailure : source.failure = none) (h : verdict normalizer source = .error cause) :
    ∃ group ∈ source.lines.flatMap groups, ∃ e,
      resolve normalizer group = .error e ∧ cause = .rule e := by
  rw [verdict, hfailure] at h
  cases hall : (source.lines.flatMap groups).mapM (resolve normalizer) with
  | ok pairs =>
    rw [hall] at h
    exact absurd h nofun
  | error e =>
    rw [hall] at h
    obtain ⟨before, group, rest, hsplit, -, hgroup⟩ := exists_fault_of_mapM hall
    have hmem : group ∈ source.lines.flatMap groups := by simp [hsplit]
    exact ⟨group, hmem, e, hgroup, (Except.error.inj h).symm⟩

theorem exists_rule_of_verdict {normalizer : Normalizer} {source : Source} {cause : ParseError}
    (hfailure : source.failure = none) (h : verdict normalizer source = .error cause) :
    ∃ e, cause = .rule e := by
  obtain ⟨group, -, e, -, hcause⟩ := exists_group_of_verdict hfailure h
  exact ⟨e, hcause⟩

def Usable (normalizer : Normalizer) (line : Text) : Prop :=
  ∀ group ∈ groups line, ∃ pair, resolve normalizer group = .ok pair

theorem exists_verdict_iff {normalizer : Normalizer} {source : Source}
    (hfailure : source.failure = none) :
    (∃ pairs, verdict normalizer source = .ok pairs) ↔
      ∀ line ∈ source.lines, Usable normalizer line := by
  constructor
  · rintro ⟨pairs, hpairs⟩ line hline group hgroup
    exact exists_ok_of_map_eq (map_resolve_of_verdict hpairs) group
      (List.mem_flatMap.mpr ⟨line, hline, hgroup⟩)
  · intro h
    rw [verdict, hfailure]
    cases hall : (source.lines.flatMap groups).mapM (resolve normalizer) with
    | ok pairs => exact ⟨pairs, rfl⟩
    | error cause =>
      obtain ⟨before, group, rest, hsplit, -, hgroup⟩ := exists_fault_of_mapM hall
      have hmem : group ∈ source.lines.flatMap groups := by simp [hsplit]
      obtain ⟨line, hline, hgroup'⟩ := List.mem_flatMap.mp hmem
      obtain ⟨pair, hpair⟩ := h line hline group hgroup'
      rw [hgroup] at hpair
      exact absurd hpair nofun

section Take

variable {p : Parser} (hne : p.normalizer.NeverEmpty)

include hne

/-- Wherever a source is left, the edges of some of its first groups have been submitted. -/
theorem runFrom_take_eq_verdict (source : Source) (s : Session) :
    ∃ after taken, (p.take source).runFrom s =
        ((verdict p.normalizer source).map fun _ => (), after) ∧
      taken <+: source.lines.flatMap groups ∧
      after.draft = (taken.flatMap (edgesOf p)).foldl Draft.put s.draft ∧
      ∀ pairs, verdict p.normalizer source = .ok pairs →
        taken.flatMap (edgesOf p) = pairs.flatMap (pairEdges p.expand) := by
  rw [verdict]
  cases hall : (source.lines.flatMap groups).mapM (resolve p.normalizer) with
  | error cause =>
    obtain ⟨before, group, rest, hsplit, hbefore, hgroup⟩ := exists_fault_of_mapM hall
    have hrun := runFrom_forM_takeGroup_fault hne hbefore hgroup rest s
    rw [← hsplit, ← takeLines_eq_forM] at hrun
    refine ⟨_, before ++ [group], Step.runFrom_bind_error hrun _, ?_, draft_foldl_after _ s, ?_⟩
    · exact ⟨rest, by rw [hsplit, List.append_assoc, List.singleton_append]⟩
    · intro pairs hpairs
      exact absurd hpairs nofun
  | ok pairs =>
    have hmap := map_eq_of_mapM hall
    obtain ⟨after, hrun, hdraft, -, -⟩ := runFrom_take hne (exists_ok_of_map_eq hmap) s
    refine ⟨after, source.lines.flatMap groups, ?_, List.prefix_rfl, hdraft, ?_⟩
    · rw [hrun]
      cases source.failure <;> rfl
    · intro pairs' hpairs
      cases hfailure : source.failure with
      | some reason =>
        rw [hfailure] at hpairs
        exact absurd hpairs nofun
      | none =>
        rw [hfailure] at hpairs
        rw [← Except.ok.inj hpairs]
        exact flatMap_edgesOf hmap

theorem outcome_take (source : Source) (s : Session) :
    ((p.take source).runFrom s).1 = (verdict p.normalizer source).map fun _ => () := by
  obtain ⟨after, taken, hrun, -⟩ := runFrom_take_eq_verdict hne source s
  rw [hrun]

theorem run_eq (source : Source) :
    p.run source = (verdict p.normalizer source).map fun pairs =>
      Graph.ofEdges p.dedup (pairs.flatMap (pairEdges p.expand)) := by
  obtain ⟨after, taken, hrun, -, hdraft, hedges⟩ := runFrom_take_eq_verdict hne source p.start
  cases hverdict : verdict p.normalizer source with
  | error cause =>
    rw [hverdict] at hrun
    rw [Parser.run, Parser.graph, Step.runFrom_bind_error hrun]
    rfl
  | ok pairs =>
    rw [hverdict] at hrun
    have hofEdges : after.draft = Draft.ofEdges p.dedup (pairs.flatMap (pairEdges p.expand)) := by
      rw [hdraft, hedges pairs hverdict, Parser.start, ← Draft.ofEdges_nil,
        Draft.foldl_put_ofEdges, List.nil_append]
    rw [Parser.run, Parser.graph, Step.runFrom_bind_ok hrun]
    exact congrArg (fun d => Except.ok d.graph) hofEdges

theorem exists_verdict_of_run {source : Source} {g : Graph} (h : p.run source = .ok g) :
    ∃ pairs, verdict p.normalizer source = .ok pairs ∧
      g = Graph.ofEdges p.dedup (pairs.flatMap (pairEdges p.expand)) := by
  rw [run_eq hne] at h
  cases hverdict : verdict p.normalizer source with
  | error cause =>
    rw [hverdict] at h
    exact absurd h nofun
  | ok pairs =>
    rw [hverdict] at h
    exact ⟨pairs, rfl, (Except.ok.inj h).symm⟩

theorem exists_run_iff {source : Source} (hfailure : source.failure = none) :
    (∃ g, p.run source = .ok g) ↔ ∀ line ∈ source.lines, Usable p.normalizer line := by
  rw [run_eq hne, ← exists_verdict_iff hfailure]
  cases verdict p.normalizer source with
  | ok pairs => exact iff_of_true ⟨_, rfl⟩ ⟨pairs, rfl⟩
  | error cause => exact iff_of_false nofun nofun

end Take

/-- The terms of some pairs, each as often as it stands there. -/
def pairTerms (pairs : List (Term × Term)) : List Term :=
  pairs.flatMap fun pair => [pair.1, pair.2]

theorem inputs_pairEdges (expand : Bool) (pairs : List (Term × Term)) :
    (pairs.flatMap (pairEdges expand)).map (·.input) = pairTerms pairs := by
  rw [pairTerms, List.map_flatMap]
  cases expand <;> rfl

theorem length_pairEdges (expand : Bool) (pairs : List (Term × Term)) :
    (pairs.flatMap (pairEdges expand)).length = 2 * pairs.length := by
  have hlength := congrArg List.length (inputs_pairEdges expand pairs)
  rw [List.length_map] at hlength
  rw [hlength, pairTerms]
  induction pairs with
  | nil => rfl
  | cons pair pairs ih => simp [Nat.mul_succ, Nat.mul_comm]

theorem length_groups_of_verdict {normalizer : Normalizer} {source : Source}
    {pairs : List (Term × Term)} (h : verdict normalizer source = .ok pairs) :
    (source.lines.flatMap groups).length = pairs.length := by
  simpa using congrArg List.length (map_resolve_of_verdict h)

/-- Every group counts for two edges, of which repeated ones may be dropped. -/
theorem countEdges_of_run {p : Parser} (hne : p.normalizer.NeverEmpty) {source : Source} {g : Graph}
    (h : p.run source = .ok g) :
    g.countEdges ≤ 2 * (source.lines.flatMap groups).length ∧
      (p.dedup = false → g.countEdges = 2 * (source.lines.flatMap groups).length) := by
  obtain ⟨pairs, hpairs, rfl⟩ := exists_verdict_of_run hne h
  rw [countEdges_ofEdges, length_groups_of_verdict hpairs, ← length_pairEdges p.expand]
  refine ⟨keptCount_le p.dedup _, fun hdedup => ?_⟩
  rw [hdedup]
  rfl

theorem mem_terms_pairEdges {expand : Bool} {pairs : List (Term × Term)} {term : Term} :
    term ∈ (pairs.flatMap (pairEdges expand)).flatMap Edge.terms ↔ term ∈ pairTerms pairs := by
  rw [List.flatMap_assoc, pairTerms, List.mem_flatMap, List.mem_flatMap]
  have hpair (pair : Term × Term) :
      term ∈ (pairEdges expand pair).flatMap Edge.terms ↔ term ∈ [pair.1, pair.2] := by
    cases expand <;> simp [pairEdges, Edge.terms] <;> tauto
  simp only [hpair]

theorem lookahead_pairEdges (expand dedup : Bool) (pairs : List (Term × Term)) :
    (Graph.ofEdges dedup (pairs.flatMap (pairEdges expand))).lookahead = width (pairTerms pairs) :=
  congrArg Nat.cast (width_congr fun _ => mem_terms_pairEdges)

/-- Under all settings of the switches a source is rejected for the same reason, or it has a graph.
The graphs agree in their inputs, in order, and in the lookahead, which is that of the terms of the
source; unless edges are dropped each group counts for two; and dropping them keeps the first of
equal outputs of an input and nothing else. -/
theorem runs_under_all_switches (normalizer : Normalizer) (hne : normalizer.NeverEmpty)
    (source : Source) :
    let run (expand dedup : Bool) := ({ expand, dedup, normalizer } : Parser).run source
    let all := source.lines.flatMap groups
    (∃ cause, ∀ expand dedup, run expand dedup = .error cause) ∨
    ∃ (pairs : List (Term × Term)) (graph : Bool → Bool → Graph),
      all.map (resolve normalizer) = pairs.map .ok ∧
      (∀ expand dedup, run expand dedup = .ok (graph expand dedup)) ∧
      (∀ expand dedup, (graph expand dedup).rules.keys = firsts (pairTerms pairs)) ∧
      (∀ expand dedup, (graph expand dedup).lookahead = width (pairTerms pairs)) ∧
      (all = [] → ∀ expand dedup, (graph expand dedup).lookahead = 0) ∧
      (∀ expand, (graph expand false).countEdges = 2 * all.length) ∧
      ∀ expand, (graph expand true).rules = (graph expand false).rules.mapValues
        fun rule => { rule with outputs := firsts rule.outputs } := by
  intro run all
  have hrun (expand dedup : Bool) : run expand dedup =
      (verdict normalizer source).map fun pairs =>
        Graph.ofEdges dedup (pairs.flatMap (pairEdges expand)) :=
    run_eq (p := { expand, dedup, normalizer }) hne source
  cases hverdict : verdict normalizer source with
  | error cause =>
    left
    refine ⟨cause, fun expand dedup => ?_⟩
    rw [hrun, hverdict]
    rfl
  | ok pairs =>
    right
    have hpairs : all.map (resolve normalizer) = pairs.map .ok := map_resolve_of_verdict hverdict
    have hlength : all.length = pairs.length := length_groups_of_verdict hverdict
    refine ⟨pairs, fun expand dedup => Graph.ofEdges dedup (pairs.flatMap (pairEdges expand)),
      hpairs, ?_, ?_, fun expand dedup => lookahead_pairEdges expand dedup pairs, ?_, ?_,
      fun expand => rules_ofEdges_true _⟩
    · intro expand dedup
      rw [hrun, hverdict]
      rfl
    · intro expand dedup
      rw [keys_ofEdges, inputs_pairEdges]
    · intro hnone expand dedup
      have hnil : pairs = [] := List.length_eq_zero_iff.mp (by rw [← hlength, hnone]; rfl)
      rw [lookahead_pairEdges, hnil]
      rfl
    · intro expand
      rw [countEdges_ofEdges, keptCount, if_neg Bool.false_ne_true, length_pairEdges, hlength]

theorem runs_under_all_switches_repeated :
    let run (expand dedup : Bool) (t : Text) := ({ expand, dedup } : Parser).run (.text t)
    (∃ graph : Bool → Bool → Graph,
      (∀ expand dedup, run expand dedup "A  b,c|C , a B\nC,c" = .ok (graph expand dedup)) ∧
      (∀ expand dedup, (graph expand dedup).rules.keys = ([["a", "b"], ["c"]] : List Term)) ∧
      (∀ expand dedup, (graph expand dedup).lookahead = 2) ∧
      ∀ expand, (graph expand false).countEdges = 6) ∧
    ∃ cause, ∀ expand dedup, run expand dedup "a,b|c,\\ \nd" = .error cause := by
  intro run
  have hne : (Analyzer.normalizer {}).NeverEmpty := Analyzer.neverEmpty_normalizer {}
  constructor
  · obtain ⟨cause, hfault⟩ | ⟨pairs, graph, hpairs, hrun, hkeys, hlookahead, -, hcount, -⟩ :=
      runs_under_all_switches _ hne (.text "A  b,c|C , a B\nC,c")
    · have haccepted : (Parser.run {} (.text "A  b,c|C , a B\nC,c")).isOk = true := by
        decide +kernel
      have hcause : Parser.run {} (.text "A  b,c|C , a B\nC,c") = .error cause :=
        hfault false true
      rw [hcause] at haccepted
      exact absurd haccepted nofun
    · have hresolved : pairs.map Except.ok =
          ([(["a", "b"], ["c"]), (["c"], ["a", "b"]), (["c"], ["c"])] :
            List (Term × Term)).map (Except.ok (ε := RuleError)) :=
        hpairs.symm.trans (by decide +kernel)
      have hterms := List.map_injective_iff.mpr (fun _ _ => Except.ok.inj) hresolved
      refine ⟨graph, hrun, ?_, ?_, ?_⟩
      · intro expand dedup
        rw [hkeys, hterms]
        decide
      · intro expand dedup
        rw [hlookahead, hterms]
        rfl
      · intro expand
        rw [hcount]
        decide +kernel
  · obtain hfault | ⟨pairs, graph, -, hrun, -⟩ :=
      runs_under_all_switches _ hne (.text "a,b|c,\\ \nd")
    · exact hfault
    · have hrejected : (Parser.run {} (.text "a,b|c,\\ \nd")).isOk = false := by decide +kernel
      have hgraph : Parser.run {} (.text "a,b|c,\\ \nd") = .ok (graph false true) :=
        hrun false true
      rw [hgraph] at hrejected
      exact absurd hrejected nofun

end Thesaurus.Rules
