import Thesaurus.Proofs.Graph.OfEdges

/-!
# Edges that a draft holds

An edge leaves its output, its mark and its width in a draft, and these stay. With `dedup` an edge
that a draft holds changes nothing any more. Main facts: `Holds.put` and `put_eq_self`; without
`dedup`, `ofEdges_append_self` for edges that all come twice.
-/

set_option autoImplicit false

namespace Thesaurus

namespace Draft

variable {d : Draft} {e : Edge}

/-- An edge that left all its traces in a draft: its output, its mark and its width. -/
structure Holds (d : Draft) (e : Edge) : Prop where
  output : ∃ rule, d.rules.get? e.input = some rule ∧ e.output ∈ rule.outputs ∧
    (e.keepsInput = true → rule.keepsInput = true)
  width : max e.input.length e.output.length ≤ d.lookahead

theorem get?_put (d : Draft) (e : Edge) (input : Term) :
    (d.put e).rules.get? input =
      if input = e.input then some (extend (d.drops e) e (d.rules.get? e.input))
      else d.rules.get? input := by
  rw [rules_put, OrderedMap.get?_alter]

theorem mem_outputs_extend (d : Draft) (e : Edge) :
    e.output ∈ (extend (d.drops e) e (d.rules.get? e.input)).outputs := by
  rw [extend]
  dsimp only
  split_ifs with hdrops
  · rw [drops, Bool.and_eq_true, List.contains_iff_mem] at hdrops
    exact hdrops.2
  · exact List.mem_append_right _ (List.mem_singleton_self _)

theorem mem_outputs_extend_of_mem {dropped : Bool} {rule : Rule} {output : Term}
    (h : output ∈ rule.outputs) : output ∈ (extend dropped e (some rule)).outputs := by
  rw [extend]
  dsimp only
  split_ifs
  · exact h
  · exact List.mem_append_left _ h

theorem holds_put (d : Draft) (e : Edge) : (d.put e).Holds e where
  output := by
    refine ⟨_, (get?_put d e e.input).trans (if_pos rfl), mem_outputs_extend d e, fun hkeeps => ?_⟩
    rw [extend, hkeeps, Bool.or_true]
  width := Nat.le_max_right _ _

/-- What a draft holds stays in it. -/
theorem Holds.put (h : d.Holds e) (more : Edge) : (d.put more).Holds e where
  output := by
    obtain ⟨rule, hrule, houtput, hkeeps⟩ := h.output
    rw [get?_put]
    split_ifs with hinput
    · rw [← hinput, hrule]
      refine ⟨_, rfl, mem_outputs_extend_of_mem houtput, fun hedge => ?_⟩
      rw [extend, Option.getD_some, hkeeps hedge, Bool.true_or]
    · exact ⟨rule, hrule, houtput, hkeeps⟩
  width := Nat.le_trans h.width (Nat.le_max_left _ _)

theorem Holds.foldl_put (h : d.Holds e) (edges : List Edge) :
    (edges.foldl Draft.put d).Holds e := by
  induction edges generalizing d with
  | nil => exact h
  | cons more edges ih => exact ih (h.put more)

theorem holds_foldl_put {edges : List Edge} (h : e ∈ edges) (d : Draft) :
    (edges.foldl put d).Holds e := by
  induction edges generalizing d with
  | nil => exact absurd h List.not_mem_nil
  | cons first edges ih =>
    rcases List.mem_cons.mp h with rfl | h
    · exact (holds_put d e).foldl_put edges
    · exact ih h (d.put first)

theorem dedup_foldl_put (edges : List Edge) (d : Draft) :
    (edges.foldl put d).dedup = d.dedup := by
  induction edges generalizing d with
  | nil => rfl
  | cons e edges ih => exact ih (d.put e)

/-- A draft that drops repeated edges does not change by one that it holds. -/
theorem put_eq_self (hdedup : d.dedup = true) (h : d.Holds e) : d.put e = d := by
  obtain ⟨rule, hrule, houtput, hkeeps⟩ := h.output
  have hdrops : d.drops e = true := by
    rw [drops, hdedup, hrule, Option.getD_some, Bool.true_and, List.contains_iff_mem]
    exact houtput
  have hsame : extend true e (some rule) = rule := by
    have hmark : (rule.keepsInput || e.keepsInput) = rule.keepsInput := by
      cases he : e.keepsInput with
      | false => exact Bool.or_false _
      | true => rw [hkeeps he, Bool.true_or]
    rw [extend, if_pos rfl, Option.getD_some, hmark]
  have hkey : e.input ∈ d.rules.keys :=
    List.mem_map_of_mem (f := Prod.fst) (OrderedMap.get?_eq_some_iff.mp hrule)
  have hrules : d.rules.alter (extend true e) e.input = d.rules := by
    apply OrderedMap.ext_get?
    · rw [OrderedMap.keys_alter, if_pos hkey]
    · intro input
      rw [OrderedMap.get?_alter, hrule, hsame]
      split_ifs with hinput
      · rw [hinput, hrule]
      · rfl
  rw [Draft.put, hdrops, record, hrules, Nat.max_eq_left h.width, if_pos rfl]

theorem foldl_put_eq_self {edges : List Edge} (hdedup : d.dedup = true)
    (h : ∀ e ∈ edges, d.Holds e) : edges.foldl put d = d := by
  induction edges with
  | nil => rfl
  | cons e edges ih =>
    obtain ⟨hfirst, hrest⟩ := List.forall_mem_cons.mp h
    rw [List.foldl_cons, put_eq_self hdedup hfirst, ih hrest]

end Draft

/-- Edges that come twice, none of them dropped, give every output twice and change nothing else. -/
theorem ofEdges_append_self (edges : List Edge) :
    Graph.ofEdges false (edges ++ edges) =
      { Graph.ofEdges false edges with
        rules := (Graph.ofEdges false edges).rules.mapValues
          fun rule => { rule with outputs := rule.outputs ++ rule.outputs } } := by
  have hrule (input : Term) : Rule.ofEdges false (edges ++ edges) input =
      { Rule.ofEdges false edges input with
        outputs := (Rule.ofEdges false edges input).outputs ++
          (Rule.ofEdges false edges input).outputs } := by
    simp [Rule.ofEdges, outputsOf]
  have hkeys : firsts ((edges ++ edges).map (·.input)) = firsts (edges.map (·.input)) := by
    rw [List.map_append, firsts_append_self]
  have hwidth : width ((edges ++ edges).flatMap Edge.terms) = width (edges.flatMap Edge.terms) := by
    rw [List.flatMap_append, width_append, Nat.max_self]
  have hrules : OrderedMap.tabulate (Rule.ofEdges false (edges ++ edges))
      ((edges ++ edges).map (·.input)) = (Graph.ofEdges false edges).rules.mapValues
        fun rule => { rule with outputs := rule.outputs ++ rule.outputs } := by
    rw [Graph.ofEdges, OrderedMap.mapValues_tabulate, funext hrule]
    exact OrderedMap.ext_entries (congrArg (List.map _) hkeys)
  exact congrArg₂ Graph.mk hrules (congrArg Nat.cast hwidth)

end Thesaurus
