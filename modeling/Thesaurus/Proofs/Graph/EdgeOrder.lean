import Thesaurus.Proofs.Graph.Queries
import Thesaurus.Proofs.Rules.History

/-!
# The order of the edges of a graph

A graph lists its edges input by input. That is the order in which they were recorded only where no
input comes back after another one. Main facts: `regroup_eq_self_iff` for lists of pairs and
`edges_after_history` for the graph after any history.
-/

set_option autoImplicit false

namespace Thesaurus

section Regroup

variable {κ α : Type}

/-- No key comes back behind another one. -/
def KeysTogether (pairs : List (κ × α)) : Prop :=
  ∀ x y z, [x, y, z].Sublist pairs → x.1 = z.1 → y.1 = x.1

theorem KeysTogether.of_sublist {pairs some : List (κ × α)} (h : KeysTogether pairs)
    (hsub : some.Sublist pairs) : KeysTogether some :=
  fun x y z hxyz => h x y z (hxyz.trans hsub)

theorem keysTogether_append {k : κ} {block rest : List (κ × α)} (hblock : ∀ x ∈ block, x.1 = k)
    (hrest : ∀ x ∈ rest, x.1 ≠ k) (h : KeysTogether rest) : KeysTogether (block ++ rest) := by
  intro x y z hsub heq
  obtain ⟨l, m, hlm, hl, hm⟩ := List.sublist_append_iff.mp hsub
  have hinside (w : κ × α) (hw : w ∈ l) : w.1 = k := hblock w (hl.subset hw)
  have houtside (w : κ × α) (hw : w ∈ m) : w.1 ≠ k := hrest w (hm.subset hw)
  match l with
  | [] => exact h x y z (hlm ▸ hm) heq
  | [_] =>
    simp only [List.cons_append, List.nil_append, List.cons.injEq] at hlm
    obtain ⟨rfl, rfl⟩ := hlm
    exact absurd (heq.symm.trans (hinside x (by simp))) (houtside z (by simp))
  | [_, _] =>
    simp only [List.cons_append, List.nil_append, List.cons.injEq] at hlm
    obtain ⟨rfl, rfl, rfl⟩ := hlm
    exact absurd (heq.symm.trans (hinside x (by simp))) (houtside z (by simp))
  | _ :: _ :: _ :: _ =>
    simp only [List.cons_append, List.cons.injEq] at hlm
    obtain ⟨rfl, rfl, -⟩ := hlm
    rw [hinside x (by simp), hinside y (by simp)]

variable [DecidableEq κ]

/-- The pairs key by key, the keys in order of first occurrence. -/
def regroup (pairs : List (κ × α)) : List (κ × α) :=
  (firsts (pairs.map Prod.fst)).flatMap fun k => pairs.filter (·.1 = k)

theorem firsts_cons (k : κ) (ks : List κ) : firsts (k :: ks) = k :: firsts (ks.filter (· ≠ k)) := by
  rw [firsts, List.eraseDups_cons, firsts]
  congr 2
  apply List.filter_congr
  intro j _
  rw [decide_not]
  rfl

theorem regroup_cons (x : κ × α) (pairs : List (κ × α)) :
    regroup (x :: pairs) =
      (x :: pairs.filter (·.1 = x.1)) ++ regroup (pairs.filter (·.1 ≠ x.1)) := by
  have hkeys : (pairs.filter (·.1 ≠ x.1)).map Prod.fst = (pairs.map Prod.fst).filter (· ≠ x.1) := by
    rw [List.filter_map]
    rfl
  rw [regroup, List.map_cons, firsts_cons, List.flatMap_cons, regroup, hkeys]
  congr 1
  · simp
  · apply List.flatMap_congr
    intro k hk
    have hne : k ≠ x.1 := by
      have hmem := List.mem_filter.mp (mem_firsts.mp hk)
      simpa using hmem.2
    rw [List.filter_cons_of_neg (by simpa using hne.symm), List.filter_filter]
    apply List.filter_congr
    intro y _
    by_cases hy : y.1 = k <;> simp [hy, hne]

theorem filter_append_filter_ne {k : κ} {pairs : List (κ × α)}
    (h : ∀ y z, [y, z].Sublist pairs → z.1 = k → y.1 = k) :
    pairs.filter (·.1 = k) ++ pairs.filter (·.1 ≠ k) = pairs := by
  induction pairs with
  | nil => rfl
  | cons y pairs ih =>
    by_cases hy : y.1 = k
    · have htail := ih fun z w hzw => h z w (hzw.cons y)
      rw [List.filter_cons_of_pos (by simpa using hy),
        List.filter_cons_of_neg (by simpa using hy), List.cons_append, htail]
    · have hnone : ∀ z ∈ pairs, ¬ z.1 = k := fun z hz hk =>
        hy (h y z (List.singleton_sublist.mpr hz |>.cons_cons y) hk)
      rw [List.filter_eq_nil_iff.mpr (by simpa [hy] using hnone), List.nil_append,
        List.filter_eq_self.mpr (by simpa [hy] using hnone)]

theorem keysTogether_regroup (pairs : List (κ × α)) : KeysTogether (regroup pairs) := by
  match pairs with
  | [] =>
    intro x y z hsub
    exact absurd hsub (by simp [regroup, firsts])
  | x :: pairs =>
    rw [regroup_cons]
    refine keysTogether_append (k := x.1) ?_ ?_ (keysTogether_regroup _)
    · intro y hy
      rcases List.mem_cons.mp hy with rfl | hy
      · rfl
      · simpa using (List.mem_filter.mp hy).2
    · intro y hy
      obtain ⟨k, -, hk⟩ := List.mem_flatMap.mp hy
      simpa using (List.mem_filter.mp (List.mem_of_mem_filter hk)).2
termination_by pairs.length
decreasing_by exact Nat.lt_succ_of_le (List.length_filter_le _ _)

theorem regroup_of_keysTogether {pairs : List (κ × α)} (h : KeysTogether pairs) :
    regroup pairs = pairs := by
  match pairs with
  | [] => rfl
  | x :: pairs =>
    have hrest : regroup (pairs.filter (·.1 ≠ x.1)) = pairs.filter (·.1 ≠ x.1) :=
      regroup_of_keysTogether (h.of_sublist (List.filter_sublist.trans (List.sublist_cons_self x _)))
    rw [regroup_cons, hrest, List.cons_append, filter_append_filter_ne]
    intro y z hyz hz
    exact h x y z (hyz.cons_cons x) hz.symm
termination_by pairs.length
decreasing_by exact Nat.lt_succ_of_le (List.length_filter_le _ _)

theorem regroup_eq_self_iff {pairs : List (κ × α)} :
    regroup pairs = pairs ↔ KeysTogether pairs :=
  ⟨fun h => h ▸ keysTogether_regroup pairs, regroup_of_keysTogether⟩

theorem firsts_map_firsts {β : Type} [DecidableEq β] (f : β → κ) (l : List β) :
    firsts ((firsts l).map f) = firsts (l.map f) := by
  induction l using List.reverseRecOn with
  | nil => rfl
  | append_singleton l x ih =>
    have hmem : f x ∈ (firsts l).map f ↔ f x ∈ l.map f := by simp
    rw [firsts_concat, List.map_append, List.map_singleton, firsts_concat]
    by_cases hx : x ∈ l
    · rw [if_pos hx, if_pos (List.mem_map_of_mem hx), ih]
    · rw [if_neg hx, List.map_append, List.map_singleton, firsts_concat, ih]
      simp only [hmem]

end Regroup

theorem firsts_inputs_keptPairs (dedup : Bool) (edges : List Edge) :
    firsts ((keptPairs dedup edges).map Prod.fst) = firsts (edges.map (·.input)) := by
  have hinputs : (edges.map Edge.pair).map Prod.fst = edges.map (·.input) := by
    rw [List.map_map]
    rfl
  rw [← hinputs]
  cases dedup with
  | false => rfl
  | true => exact firsts_map_firsts Prod.fst (edges.map Edge.pair)

theorem pairs_edges_ofEdges (dedup : Bool) (edges : List Edge) :
    (Graph.ofEdges dedup edges).edges.map Edge.pair = regroup (keptPairs dedup edges) := by
  rw [Graph.edges, Graph.ofEdges, OrderedMap.tabulate, List.flatMap_map, List.map_flatMap,
    regroup, firsts_inputs_keptPairs]
  apply List.flatMap_congr
  intro input _
  dsimp only
  rw [outputs_eq_keptPairs, List.map_map, List.map_map]
  refine (List.map_congr_left fun pair hpair => ?_).trans (List.map_id _)
  have hinput : pair.1 = input := by simpa using (List.mem_filter.mp hpair).2
  rw [← hinput]
  rfl

namespace Rules

/-- After any history the edges of the graph are those that were recorded, brought together by
their inputs. They stand as they were recorded exactly if no input comes back after another one. -/
theorem edges_after_history (dedup : Bool) (calls : List Call) :
    let kept := keptPairs dedup (accepted calls)
    ∃ g, (Call.finish.step.runFrom (afterCalls dedup calls)).1 = .ok (some g) ∧
      g.edges.map Edge.pair = regroup kept ∧
      (g.edges.map Edge.pair = kept ↔ KeysTogether kept) := by
  intro kept
  have hgraph : (afterCalls dedup calls).draft.graph = Graph.ofEdges dedup (accepted calls) := by
    rw [draft_afterCalls]
    rfl
  have hpairs := pairs_edges_ofEdges dedup (accepted calls)
  refine ⟨Graph.ofEdges dedup (accepted calls), ?_, hpairs, ?_⟩
  · rw [runFrom_finish, hgraph]
  · rw [hpairs]
    exact regroup_eq_self_iff

theorem edges_not_as_recorded :
    ¬ ∀ (dedup : Bool) (calls : List Call) (g : Graph),
      (Call.finish.step.runFrom (afterCalls dedup calls)).1 = .ok (some g) →
        g.edges.map Edge.pair = keptPairs dedup (accepted calls) := by
  intro h
  let calls : List Call :=
    [.add ⟨["a"], ["b"], false⟩, .add ⟨["c"], ["d"], false⟩, .add ⟨["a"], ["e"], false⟩]
  exact absurd (h false calls (afterCalls false calls).draft.graph rfl) (by decide)

end Rules

end Thesaurus
