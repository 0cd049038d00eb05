import Mathlib.Data.List.Perm.Basic
import Thesaurus.Proofs.Rules.Outcome

/-!
# The order of rules

A graph keeps the order in which its edges came, and dropping repeated edges keeps the first of
them. Which edges there are is another matter: groups in another order give the same graph up to
order, or are rejected as well. Main facts: `sameUpToOrder_ofEdges` for permuted edges,
`exists_verdict_of_perm` for permuted groups and `run_of_permuted_groups` for the graphs of two
sources.
-/

set_option autoImplicit false

namespace Thesaurus

/-- Two graphs say the same in another order. -/
structure Graph.SameUpToOrder (g g' : Graph) : Prop where
  inputs : g.rules.keys.Perm g'.rules.keys
  lookahead : g.lookahead = g'.lookahead
  countEdges : g.countEdges = g'.countEdges
  rule : ∀ input rule, g.rules.get? input = some rule → ∃ rule',
    g'.rules.get? input = some rule' ∧ rule.keepsInput = rule'.keepsInput ∧
      rule.outputs.Perm rule'.outputs

theorem firsts_perm {α : Type} [DecidableEq α] {l m : List α} (h : l.Perm m) :
    (firsts l).Perm (firsts m) := by
  rw [List.perm_ext_iff_of_nodup (nodup_firsts l) (nodup_firsts m)]
  intro x
  rw [mem_firsts, mem_firsts, h.mem_iff]

section Edges

variable {edges edges' : List Edge} (h : edges.Perm edges') (dedup : Bool)

include h

theorem outputsOf_perm (input : Term) : (outputsOf edges input).Perm (outputsOf edges' input) :=
  (h.filter _).map _

theorem keptCount_perm : keptCount dedup edges = keptCount dedup edges' := by
  cases dedup with
  | false => exact h.length_eq
  | true => exact (firsts_perm (h.map Edge.pair)).length_eq

theorem sameUpToOrder_ofEdges :
    (Graph.ofEdges dedup edges).SameUpToOrder (Graph.ofEdges dedup edges') where
  inputs := by
    rw [keys_ofEdges, keys_ofEdges]
    exact firsts_perm (h.map _)
  lookahead := congrArg Nat.cast (width_congr fun _ => (h.flatMap_right Edge.terms).mem_iff)
  countEdges := by rw [countEdges_ofEdges, countEdges_ofEdges, keptCount_perm h]
  rule := by
    intro input rule hrule
    rw [get?_ofEdges] at hrule
    split_ifs at hrule with hinput
    refine ⟨Rule.ofEdges dedup edges' input, ?_, ?_, ?_⟩
    · rw [get?_ofEdges, if_pos ((h.map _).mem_iff.mp hinput)]
    · rw [← Option.some.inj hrule]
      exact (h.filter _).any_eq
    · rw [← Option.some.inj hrule, Rule.ofEdges, Rule.ofEdges]
      cases dedup with
      | false => exact outputsOf_perm h input
      | true => exact firsts_perm (outputsOf_perm h input)

end Edges

theorem nodup_outputs_ofEdges {edges : List Edge} {input : Term} {rule : Rule}
    (h : (Graph.ofEdges true edges).rules.get? input = some rule) : rule.outputs.Nodup := by
  rw [get?_ofEdges] at h
  split_ifs at h
  rw [← Option.some.inj h]
  exact nodup_firsts (outputsOf edges input)

namespace Rules

section Groups

variable {source source' : Source}
  (hgroups : (source.lines.flatMap groups).Perm (source'.lines.flatMap groups))
  (hends : source.failure = none ↔ source'.failure = none)

include hgroups hends

theorem exists_verdict_of_perm {normalizer : Normalizer} {pairs : List (Term × Term)}
    (h : verdict normalizer source = .ok pairs) :
    ∃ pairs', verdict normalizer source' = .ok pairs' ∧ pairs.Perm pairs' := by
  have hmap := map_resolve_of_verdict h
  have husable : ∀ line ∈ source'.lines, Usable normalizer line := by
    intro line hline group hgroup
    have hmem : group ∈ source'.lines.flatMap groups := List.mem_flatMap.mpr ⟨line, hline, hgroup⟩
    exact exists_ok_of_map_eq hmap group (hgroups.mem_iff.mpr hmem)
  obtain ⟨pairs', hpairs'⟩ :=
    (exists_verdict_iff (hends.mp (verdict_eq_ok_iff.mp h).2)).mpr husable
  have hresolved := hgroups.map (resolve normalizer)
  rw [hmap, map_resolve_of_verdict hpairs'] at hresolved
  exact ⟨pairs', hpairs', (List.map_perm_map_iff fun _ _ => Except.ok.inj).mp hresolved⟩

theorem exists_run_of_perm {p : Parser} (hne : p.normalizer.NeverEmpty) {g : Graph}
    (h : p.run source = .ok g) : ∃ g', p.run source' = .ok g' ∧ g.SameUpToOrder g' := by
  obtain ⟨pairs, hverdict, rfl⟩ := exists_verdict_of_run hne h
  obtain ⟨pairs', hverdict', hpairs⟩ := exists_verdict_of_perm hgroups hends hverdict
  refine ⟨Graph.ofEdges p.dedup (pairs'.flatMap (pairEdges p.expand)), ?_, ?_⟩
  · rw [run_eq hne, hverdict']
    rfl
  · exact sameUpToOrder_ofEdges (hpairs.flatMap_right _) p.dedup

end Groups

/-- Of two sources that have the same groups in some order, and of which both or neither break off,
either both have a graph or neither has. The graphs are the same up to order, and where repeated
edges are dropped no output comes twice. -/
theorem run_of_permuted_groups {p : Parser} (hne : p.normalizer.NeverEmpty)
    {source source' : Source}
    (hgroups : (source.lines.flatMap groups).Perm (source'.lines.flatMap groups))
    (hends : source.failure = none ↔ source'.failure = none) :
    ((∃ g, p.run source = .ok g) ↔ ∃ g, p.run source' = .ok g) ∧
    ∀ g g', p.run source = .ok g → p.run source' = .ok g' →
      g.SameUpToOrder g' ∧
      (p.dedup = true → ∀ input rule, g.rules.get? input = some rule → rule.outputs.Nodup) := by
  refine ⟨⟨?_, ?_⟩, ?_⟩
  · rintro ⟨g, hg⟩
    obtain ⟨g', hg', -⟩ := exists_run_of_perm hgroups hends hne hg
    exact ⟨g', hg'⟩
  · rintro ⟨g', hg'⟩
    obtain ⟨g, hg, -⟩ := exists_run_of_perm hgroups.symm hends.symm hne hg'
    exact ⟨g, hg⟩
  · intro g g' hg hg'
    obtain ⟨g'', hg'', hsame⟩ := exists_run_of_perm hgroups hends hne hg
    obtain rfl : g'' = g' := Except.ok.inj (hg''.symm.trans hg')
    refine ⟨hsame, fun hdedup input rule hrule => ?_⟩
    obtain ⟨pairs, -, rfl⟩ := exists_verdict_of_run hne hg
    rw [hdedup] at hrule
    exact nodup_outputs_ofEdges hrule

theorem run_of_permuted_groups_shared_terms :
    let p : Parser := {}
    let a : Term := ["a"]
    let b : Term := ["b"]
    let c : Term := ["c"]
    let g := Graph.ofEdges true
      [⟨b, b, false⟩, ⟨a, b, false⟩, ⟨c, c, false⟩, ⟨b, c, false⟩, ⟨a, a, false⟩, ⟨b, a, false⟩]
    let g' := Graph.ofEdges true
      [⟨a, a, false⟩, ⟨b, a, false⟩, ⟨b, b, false⟩, ⟨a, b, false⟩, ⟨c, c, false⟩, ⟨b, c, false⟩]
    p.run (.text "b, a|c, B\na, b\nb, a") = .ok g ∧
      p.run (.items ["a, b|b, a|b, a", "", "c, B"] none) = .ok g' ∧
      g ≠ g' ∧ g.SameUpToOrder g' := by
  intro p a b c g g'
  have hg : p.run (.text "b, a|c, B\na, b\nb, a") = .ok g := by decide +kernel
  have hg' : p.run (.items ["a, b|b, a|b, a", "", "c, B"] none) = .ok g' := by decide +kernel
  have hgroups : ((Source.text "b, a|c, B\na, b\nb, a").lines.flatMap groups).Perm
      ((Source.items ["a, b|b, a|b, a", "", "c, B"] none).lines.flatMap groups) := by
    decide +kernel
  have hne : p.normalizer.NeverEmpty := Analyzer.neverEmpty_normalizer {}
  obtain ⟨-, hsame⟩ := run_of_permuted_groups hne hgroups Iff.rfl
  exact ⟨hg, hg', by decide, (hsame g g' hg hg').1⟩

end Rules

end Thesaurus
