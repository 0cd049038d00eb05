import Mathlib.Data.List.Count
import Thesaurus.Proofs.Graph.OfEdges

/-!
# What the graph of a list of edges answers

Main facts: `keys_ofEdges`, `outputs_ofEdges` and `contains_ofEdges` read the answers of a graph off
its list of edges, and `rules_ofEdges_true` says what dropping repeated edges takes away.
-/

set_option autoImplicit false

namespace Thesaurus

theorem keys_ofEdges (dedup : Bool) (edges : List Edge) :
    (Graph.ofEdges dedup edges).rules.keys = firsts (edges.map (·.input)) :=
  OrderedMap.keys_tabulate _ _

theorem get?_ofEdges (dedup : Bool) (edges : List Edge) (input : Term) :
    (Graph.ofEdges dedup edges).rules.get? input =
      if input ∈ edges.map (·.input) then some (Rule.ofEdges dedup edges input) else none := by
  rw [Graph.ofEdges, OrderedMap.get?_tabulate]
  congr

theorem outputs_ofEdges (dedup : Bool) (edges : List Edge) (input : Term) :
    (Graph.ofEdges dedup edges).outputs input = (Rule.ofEdges dedup edges input).outputs := by
  rw [Graph.outputs, get?_ofEdges]
  by_cases h : input ∈ edges.map (·.input)
  · rw [if_pos h]
  · rw [if_neg h, Rule.ofEdges_eq_default h]

theorem contains_ofEdges {dedup : Bool} {edges : List Edge} {input : Term} :
    (Graph.ofEdges dedup edges).contains input = true ↔ input ∈ edges.map (·.input) := by
  rw [Graph.contains, OrderedMap.contains, get?_ofEdges]
  split_ifs with h <;> simp [h]

/-- Without repeated edges every rule keeps the first of equal outputs, and nothing else changes. -/
theorem rules_ofEdges_true (edges : List Edge) :
    (Graph.ofEdges true edges).rules = (Graph.ofEdges false edges).rules.mapValues
      fun rule => { rule with outputs := firsts rule.outputs } := by
  rw [Graph.ofEdges, Graph.ofEdges, OrderedMap.mapValues_tabulate]
  rfl

theorem firsts_filter_map_snd (pairs : List (Term × Term)) (input : Term) :
    firsts ((pairs.filter (·.1 = input)).map Prod.snd) =
      ((firsts pairs).filter (·.1 = input)).map Prod.snd := by
  induction pairs using List.reverseRecOn with
  | nil => rfl
  | append_singleton pairs pair ih =>
    obtain ⟨first, second⟩ := pair
    by_cases h : first = input
    · subst h
      have hmem : second ∈ (pairs.filter (·.1 = first)).map Prod.snd ↔ (first, second) ∈ pairs := by
        simp
      simp only [List.filter_append, List.map_append, firsts_concat]
      by_cases hpair : (first, second) ∈ pairs <;> simp [firsts_concat, hmem, hpair, ih]
    · by_cases hpair : (first, second) ∈ pairs <;> simp [firsts_concat, h, hpair, ih]

theorem outputs_eq_keptPairs (dedup : Bool) (edges : List Edge) (input : Term) :
    (Rule.ofEdges dedup edges input).outputs =
      ((keptPairs dedup edges).filter (·.1 = input)).map Prod.snd := by
  have hall : outputsOf edges input =
      ((edges.map Edge.pair).filter (·.1 = input)).map Prod.snd := by
    rw [outputsOf, List.filter_map, List.map_map]
    rfl
  cases dedup with
  | false => exact hall
  | true => exact (congrArg firsts hall).trans (firsts_filter_map_snd _ input)

theorem count_outputs_ofEdges (dedup : Bool) (edges : List Edge) (input output : Term) :
    ((Graph.ofEdges dedup edges).outputs input).count output =
      (keptPairs dedup edges).count (input, output) := by
  rw [outputs_ofEdges, outputs_eq_keptPairs]
  induction keptPairs dedup edges with
  | nil => rfl
  | cons pair pairs ih =>
    rw [List.count_cons, ← ih]
    by_cases h : pair.1 = input <;> simp [h, List.count_cons, Prod.ext_iff]

end Thesaurus
