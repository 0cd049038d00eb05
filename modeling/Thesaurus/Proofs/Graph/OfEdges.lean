import Thesaurus.Graph.Draft
import Thesaurus.Proofs.OrderedMap

/-!
# The graph of a list of edges

What a draft has become after some edges, said of the list of edges alone. Main facts: `put_ofEdges`
shows that a draft keeps up with the list edge by edge, `countEdges_ofEdges` counts the edges that
are kept, and `width_terms_ofEdges` finds the lookahead again in the terms of the graph.
-/

set_option autoImplicit false

namespace Thesaurus

/-- An edge that can be recorded: neither of its terms is empty. -/
def Edge.IsProper (e : Edge) : Prop := e.input ≠ [] ∧ e.output ≠ []

instance (e : Edge) : Decidable e.IsProper := inferInstanceAs (Decidable (_ ∧ _))

def Edge.terms (e : Edge) : List Term := [e.input, e.output]

def Edge.pair (e : Edge) : Term × Term := (e.input, e.output)

/-- The largest token count among some terms, zero where there are none. -/
def width (terms : List Term) : Nat := (terms.map List.length).foldr max 0

/-- The outputs submitted for an input, in order. -/
def outputsOf (edges : List Edge) (input : Term) : List Term :=
  (edges.filter (·.input = input)).map (·.output)

/-- The rule of an input: every output, or with `dedup` the first occurrence of each, and whether
any of its edges keeps the input, a repeated one included. -/
def Rule.ofEdges (dedup : Bool) (edges : List Edge) (input : Term) : Rule where
  outputs := if dedup then firsts (outputsOf edges input) else outputsOf edges input
  keepsInput := (edges.filter (·.input = input)).any (·.keepsInput)

/-- The distinct inputs in order of first occurrence, each with its rule. -/
def Graph.ofEdges (dedup : Bool) (edges : List Edge) : Graph where
  rules := .tabulate (Rule.ofEdges dedup edges) (edges.map (·.input))
  lookahead := width (edges.flatMap Edge.terms)

/-- The pairs of terms that are recorded, in the order in which they are: all, or with `dedup` each
where it first comes. -/
def keptPairs (dedup : Bool) (edges : List Edge) : List (Term × Term) :=
  if dedup then firsts (edges.map Edge.pair) else edges.map Edge.pair

/-- How many edges are kept: all, or with `dedup` one for each pair of terms. -/
def keptCount (dedup : Bool) (edges : List Edge) : Nat :=
  if dedup then (firsts (edges.map Edge.pair)).length else edges.length

def Draft.ofEdges (dedup : Bool) (edges : List Edge) : Draft where
  dedup := dedup
  rules := (Graph.ofEdges dedup edges).rules
  lookahead := width (edges.flatMap Edge.terms)
  recorded := keptCount dedup edges

/-- The terms that appear in a graph, as inputs or as outputs. -/
def Graph.terms (g : Graph) : List Term :=
  g.rules.keys ++ g.rules.values.flatMap (·.outputs)

theorem width_cons (term : Term) (terms : List Term) :
    width (term :: terms) = max term.length (width terms) := rfl

theorem width_append (ts us : List Term) : width (ts ++ us) = max (width ts) (width us) := by
  induction ts with
  | nil => exact (Nat.zero_max _).symm
  | cons term ts ih => rw [List.cons_append, width_cons, width_cons, ih, Nat.max_assoc]

theorem width_le_iff {terms : List Term} {n : Nat} :
    width terms ≤ n ↔ ∀ term ∈ terms, term.length ≤ n := by
  induction terms with
  | nil => simp [width]
  | cons term terms ih => rw [List.forall_mem_cons, ← ih, width_cons, Nat.max_le]

theorem width_congr {ts us : List Term} (h : ∀ term, term ∈ ts ↔ term ∈ us) :
    width ts = width us := by
  have hle (term : Term) (terms : List Term) (hmem : term ∈ terms) : term.length ≤ width terms :=
    width_le_iff.mp (Nat.le_refl _) term hmem
  apply Nat.le_antisymm
  · exact width_le_iff.mpr fun term ht => hle term us ((h term).mp ht)
  · exact width_le_iff.mpr fun term ht => hle term ts ((h term).mpr ht)

theorem length_keptPairs (dedup : Bool) (edges : List Edge) :
    (keptPairs dedup edges).length = keptCount dedup edges := by
  cases dedup <;> simp [keptPairs, keptCount]

theorem keptCount_le (dedup : Bool) (edges : List Edge) : keptCount dedup edges ≤ edges.length := by
  cases dedup with
  | false => exact Nat.le_refl _
  | true => simpa [keptCount] using length_firsts_le (edges.map Edge.pair)

theorem outputsOf_concat (edges : List Edge) (e : Edge) (input : Term) :
    outputsOf (edges ++ [e]) input =
      if e.input = input then outputsOf edges input ++ [e.output] else outputsOf edges input := by
  by_cases h : e.input = input <;> simp [outputsOf, h]

theorem mem_outputsOf {edges : List Edge} {input output : Term} :
    output ∈ outputsOf edges input ↔ (input, output) ∈ edges.map Edge.pair := by
  simp [outputsOf, Edge.pair, and_assoc]

theorem Rule.ofEdges_eq_default {dedup : Bool} {edges : List Edge} {input : Term}
    (h : input ∉ edges.map (·.input)) : Rule.ofEdges dedup edges input = {} := by
  have hnone : edges.filter (·.input = input) = [] := by
    rw [List.filter_eq_nil_iff]
    intro e he heq
    exact h (List.mem_map.mpr ⟨e, he, by simpa using heq⟩)
  simp [Rule.ofEdges, outputsOf, hnone, firsts]

namespace Draft

/-- The draft after an edge that it accepts. -/
def put (d : Draft) (e : Edge) : Draft := d.record (d.drops e) e

theorem add_of_proper {e : Edge} (h : e.IsProper) (d : Draft) :
    d.add e = .ok (d.put e, notices (d.drops e) e) := by
  simp [add, put, h.1, h.2]

theorem add_emptyInput {e : Edge} (h : e.input = []) (d : Draft) :
    d.add e = .error .emptyInput := by
  simp [add, h]

theorem add_emptyOutput {e : Edge} (hinput : e.input ≠ []) (h : e.output = []) (d : Draft) :
    d.add e = .error .emptyOutput := by
  simp [add, hinput, h]

theorem exists_error_of_not_isProper {e : Edge} (h : ¬ e.IsProper) (d : Draft) :
    ∃ cause, d.add e = .error cause := by
  by_cases hinput : e.input = []
  · exact ⟨_, add_emptyInput hinput d⟩
  · have houtput : e.output = [] := by
      by_contra hne
      exact h ⟨hinput, hne⟩
    exact ⟨_, add_emptyOutput hinput houtput d⟩

/-- The draft after some edges, if it accepts each of them. -/
def addAll (d : Draft) (edges : List Edge) : Except EdgeError Draft :=
  edges.foldlM (fun d e => (d.add e).map Prod.fst) d

theorem addAll_of_proper {edges : List Edge} (h : ∀ e ∈ edges, e.IsProper) (d : Draft) :
    d.addAll edges = .ok (edges.foldl put d) := by
  induction edges generalizing d with
  | nil => rfl
  | cons e edges ih =>
    have hadd : (d.add e).map Prod.fst = .ok (d.put e) := by
      rw [add_of_proper (h e List.mem_cons_self)]
      rfl
    rw [addAll, List.foldlM_cons, hadd]
    exact ih (fun e' he' => h e' (List.mem_cons_of_mem e he')) (d.put e)

theorem getD_ofEdges (dedup : Bool) (edges : List Edge) (input : Term) :
    ((ofEdges dedup edges).rules.get? input).getD {} = Rule.ofEdges dedup edges input := by
  rw [ofEdges, Graph.ofEdges, OrderedMap.get?_tabulate]
  split_ifs with h
  · rfl
  · exact (Rule.ofEdges_eq_default h).symm

theorem drops_ofEdges (dedup : Bool) (edges : List Edge) (e : Edge) :
    (ofEdges dedup edges).drops e = (dedup && decide (e.pair ∈ edges.map Edge.pair)) := by
  rw [drops, getD_ofEdges]
  cases dedup with
  | false => rfl
  | true => simp [ofEdges, Rule.ofEdges, List.contains_eq_mem, mem_outputsOf, Edge.pair]

/-- What one more edge makes of the rule of its input. -/
theorem extend_ofEdges (dedup : Bool) (edges : List Edge) (e : Edge) :
    extend ((ofEdges dedup edges).drops e) e ((ofEdges dedup edges).rules.get? e.input) =
      Rule.ofEdges dedup (edges ++ [e]) e.input := by
  have hkeeps : ((edges ++ [e]).filter (·.input = e.input)).any (·.keepsInput) =
      ((edges.filter (·.input = e.input)).any (·.keepsInput) || e.keepsInput) := by simp
  have hpair : e.pair ∈ edges.map Edge.pair ↔ e.output ∈ outputsOf edges e.input :=
    mem_outputsOf.symm
  rw [extend, getD_ofEdges, drops_ofEdges, Rule.ofEdges, Rule.ofEdges, outputsOf_concat,
    if_pos rfl, hkeeps]
  cases dedup with
  | false => rfl
  | true =>
    rw [if_pos rfl, if_pos rfl, firsts_concat]
    -- A dropped output is one that is there already, which `firsts` does not take again.
    by_cases h : e.output ∈ outputsOf edges e.input <;> simp [hpair, h]

theorem ofEdges_concat_of_ne {dedup : Bool} {edges : List Edge} {e : Edge} {input : Term}
    (h : input ≠ e.input) :
    Rule.ofEdges dedup edges input = Rule.ofEdges dedup (edges ++ [e]) input := by
  have hne : ¬ e.input = input := fun heq => h heq.symm
  simp [Rule.ofEdges, outputsOf, List.filter_append, hne]

theorem rules_put (d : Draft) (e : Edge) :
    (d.put e).rules = d.rules.alter (extend (d.drops e) e) e.input := rfl

theorem rules_put_ofEdges (dedup : Bool) (edges : List Edge) (e : Edge) :
    ((ofEdges dedup edges).put e).rules = (ofEdges dedup (edges ++ [e])).rules := by
  have hrules (edges : List Edge) : (ofEdges dedup edges).rules =
      .tabulate (Rule.ofEdges dedup edges) (edges.map (·.input)) := rfl
  have hextend := extend_ofEdges dedup edges e
  rw [hrules, OrderedMap.get?_tabulate] at hextend
  rw [rules_put, hrules, hrules, List.map_append]
  exact OrderedMap.alter_tabulate _ _ _ _ _ hextend fun input h => ofEdges_concat_of_ne h

/-- A pair is recorded behind the others unless the draft drops it. -/
theorem keptPairs_concat (dedup : Bool) (edges : List Edge) (e : Edge) :
    keptPairs dedup (edges ++ [e]) =
      if (ofEdges dedup edges).drops e then keptPairs dedup edges
      else keptPairs dedup edges ++ [e.pair] := by
  rw [drops_ofEdges]
  cases dedup with
  | false => simp [keptPairs]
  | true =>
    have hfirsts := firsts_concat (edges.map Edge.pair) e.pair
    by_cases h : e.pair ∈ edges.map Edge.pair <;> simp [keptPairs, hfirsts, h]

theorem keptCount_concat (dedup : Bool) (edges : List Edge) (e : Edge) :
    keptCount dedup (edges ++ [e]) =
      if (ofEdges dedup edges).drops e then keptCount dedup edges
      else keptCount dedup edges + 1 := by
  rw [← length_keptPairs, ← length_keptPairs, keptPairs_concat]
  split_ifs
  · rfl
  · exact List.length_append

/-- A draft keeps up with the list of its edges. -/
theorem put_ofEdges (dedup : Bool) (edges : List Edge) (e : Edge) :
    (ofEdges dedup edges).put e = ofEdges dedup (edges ++ [e]) := by
  have hrules := rules_put_ofEdges dedup edges e
  have hcount := keptCount_concat dedup edges e
  have hwidth : width ((edges ++ [e]).flatMap Edge.terms) =
      max (width (edges.flatMap Edge.terms)) (max e.input.length e.output.length) := by
    rw [List.flatMap_append, width_append]
    simp [width, Edge.terms]
  calc
    (ofEdges dedup edges).put e = ⟨dedup, ((ofEdges dedup edges).put e).rules,
        max (width (edges.flatMap Edge.terms)) (max e.input.length e.output.length),
        if (ofEdges dedup edges).drops e then keptCount dedup edges
        else keptCount dedup edges + 1⟩ := rfl
    _ = ofEdges dedup (edges ++ [e]) := by rw [hrules, ← hwidth, ← hcount]; rfl

theorem ofEdges_nil (dedup : Bool) : ofEdges dedup [] = { dedup } := by
  cases dedup <;> rfl

theorem foldl_put_ofEdges (dedup : Bool) (edges more : List Edge) :
    more.foldl put (ofEdges dedup edges) = ofEdges dedup (edges ++ more) := by
  induction more generalizing edges with
  | nil => rw [List.append_nil, List.foldl_nil]
  | cons e more ih => rw [List.foldl_cons, put_ofEdges, ih, List.append_assoc]; rfl

theorem elim_outputs (old : Option Rule) :
    old.elim 0 (·.outputs.length) = (old.getD {}).outputs.length := by
  cases old <;> rfl

theorem length_outputs_extend (dropped : Bool) (e : Edge) (old : Option Rule) :
    (extend dropped e old).outputs.length =
      (old.getD {}).outputs.length + if dropped then 0 else 1 := by
  cases dropped <;> simp [extend]

/-- The count of a draft stays the number of edges in its graph. -/
theorem recorded_put {d : Draft} (h : d.recorded = d.graph.countEdges) (e : Edge) :
    (d.put e).recorded = (d.put e).graph.countEdges := by
  have htotal := OrderedMap.total_alter (extend (d.drops e) e) (·.outputs.length) e.input d.rules
  rw [elim_outputs, length_outputs_extend] at htotal
  have hput : (d.put e).graph.countEdges =
      (d.rules.alter (extend (d.drops e) e) e.input).total (·.outputs.length) := rfl
  have hold : d.recorded = d.rules.total (·.outputs.length) := h
  have hcount : (d.put e).recorded = if d.drops e then d.recorded else d.recorded + 1 := rfl
  rw [hput, hcount]
  split_ifs at htotal ⊢ <;> omega

end Draft

theorem countEdges_ofEdges (dedup : Bool) (edges : List Edge) :
    (Graph.ofEdges dedup edges).countEdges = keptCount dedup edges := by
  suffices h : (Draft.ofEdges dedup edges).recorded = (Draft.ofEdges dedup edges).graph.countEdges
    from h.symm
  induction edges using List.reverseRecOn with
  | nil => cases dedup <;> rfl
  | append_singleton edges e ih =>
    rw [← Draft.put_ofEdges]
    exact Draft.recorded_put ih e

theorem mem_outputs_ofEdges {dedup : Bool} {edges : List Edge} {input output : Term} :
    output ∈ (Rule.ofEdges dedup edges input).outputs ↔ output ∈ outputsOf edges input := by
  cases dedup <;> simp [Rule.ofEdges]

theorem mem_terms_ofEdges {dedup : Bool} {edges : List Edge} {term : Term} :
    term ∈ (Graph.ofEdges dedup edges).terms ↔ term ∈ edges.flatMap Edge.terms := by
  have hkeys : (Graph.ofEdges dedup edges).rules.keys = firsts (edges.map (·.input)) :=
    OrderedMap.keys_tabulate _ _
  have hvalues : (Graph.ofEdges dedup edges).rules.values =
      (firsts (edges.map (·.input))).map (Rule.ofEdges dedup edges) := by
    simp [OrderedMap.values, Graph.ofEdges, OrderedMap.tabulate, Function.comp_def]
  rw [Graph.terms, hkeys, hvalues, List.flatMap_map, List.mem_append, List.mem_flatMap,
    List.mem_flatMap, mem_firsts, List.mem_map]
  constructor
  · rintro (⟨e, he, rfl⟩ | ⟨input, -, houtput⟩)
    · exact ⟨e, he, List.mem_cons_self⟩
    · obtain ⟨e, he, hpair⟩ := List.mem_map.mp (mem_outputsOf.mp (mem_outputs_ofEdges.mp houtput))
      refine ⟨e, he, ?_⟩
      rw [← (Prod.mk.inj hpair).2]
      exact List.mem_cons_of_mem _ List.mem_cons_self
  · rintro ⟨e, he, hterm⟩
    rcases List.mem_pair.mp hterm with rfl | rfl
    · exact .inl ⟨e, he, rfl⟩
    · refine .inr ⟨e.input, mem_firsts.mpr (List.mem_map_of_mem he), ?_⟩
      exact mem_outputs_ofEdges.mpr (mem_outputsOf.mpr (List.mem_map_of_mem he))

/-- The lookahead is the width of the terms that appear in the graph. -/
theorem width_terms_ofEdges (dedup : Bool) (edges : List Edge) :
    width (Graph.ofEdges dedup edges).terms = width (edges.flatMap Edge.terms) :=
  width_congr fun _ => mem_terms_ofEdges

end Thesaurus
