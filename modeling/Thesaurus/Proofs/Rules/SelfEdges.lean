import Thesaurus.Proofs.Rules.Outcome

/-!
# Edges from a term to itself

With expansion the terms of a group lead to each other, and what tells them apart is their place.
Two terms of one group that have the same tokens are therefore joined by edges from a term to
itself. Main facts: `exists_pairs_of_run` says what a run has read that succeeds, whatever its
normalizer does, and `self_edges_of_expanded` how often each term leads to itself.
-/

set_option autoImplicit false

namespace Thesaurus.Rules

theorem isProper_of_forM_submit {edges : List Edge} {s s' : Session}
    (h : Step.runFrom (edges.forM Step.submit) s = (.ok (), s')) : ∀ e ∈ edges, e.IsProper := by
  induction edges generalizing s with
  | nil => simp
  | cons e edges ih =>
    by_cases hproper : e.IsProper
    · rw [Step.runFrom_forM_cons_ok (Step.runFrom_submit hproper s)] at h
      exact List.forall_mem_cons.mpr ⟨hproper, ih h⟩
    · obtain ⟨cause, hcause⟩ := Draft.exists_error_of_not_isProper hproper s.draft
      rw [Step.runFrom_forM_cons_error (Step.runFrom_submit_error hcause)] at h
      exact absurd (congrArg Prod.fst h) nofun

section Succeeds

variable {p : Parser} {s s' : Session}

theorem isProper_of_relate {ts : List Text} {terms : List Term}
    (hterms : ts.mapM p.normalizer = .ok terms)
    (h : (p.relate ts).runFrom s = (.ok (), s')) :
    ∀ e ∈ groupEdges p.expand terms, e.IsProper := by
  have hall := runFrom_mapM_normalize p.normalizer ts s
  rw [hterms] at hall
  rw [Parser.relate, relateBy, Parser.ask, Step.runFrom_bind_ok hall] at h
  exact isProper_of_forM_submit h

theorem ne_nil_of_isProper_pairEdges {expand : Bool} {term other : Term}
    (h : ∀ e ∈ pairEdges expand (term, other), e.IsProper) : term ≠ [] ∧ other ≠ [] := by
  cases expand with
  | true => exact h ⟨term, other, true⟩ List.mem_cons_self
  | false =>
    have hother := h ⟨other, term, false⟩ (List.mem_cons_of_mem _ List.mem_cons_self)
    exact ⟨hother.2, hother.1⟩

/-- A group that is taken has two terms with tokens, even if the normalizer gives empty ones. -/
theorem exists_pair_of_takeGroup {group : Text}
    (h : (p.takeGroup group).runFrom s = (.ok (), s')) :
    ∃ pair, resolve p.normalizer group = .ok pair ∧ s' = s.after p group := by
  rw [takeGroup_eq, terms_eq] at h
  cases hpair : termPair group with
  | none =>
    rw [hpair] at h
    exact absurd (congrArg Prod.fst h) nofun
  | some texts =>
    obtain ⟨first, second⟩ := texts
    rw [hpair] at h
    dsimp only at h
    have hmap := mapM_pair p.normalizer first second
    cases hterms : [first, second].mapM p.normalizer with
    | error cause =>
      rw [runFrom_relate_error hterms] at h
      exact absurd (congrArg Prod.fst h) nofun
    | ok terms =>
      rw [hterms] at hmap
      cases hfirst : p.normalizer first with
      | error cause =>
        rw [hfirst] at hmap
        exact absurd hmap nofun
      | ok term =>
        cases hsecond : p.normalizer second with
        | error cause =>
          rw [hfirst, hsecond] at hmap
          exact absurd hmap nofun
        | ok other =>
          rw [hfirst, hsecond] at hmap
          obtain rfl : terms = [term, other] := Except.ok.inj hmap
          have hresolve : resolve p.normalizer group = .ok (term, other) :=
            resolve_eq_ok_iff.mpr ⟨first, second, hpair, hfirst, hsecond⟩
          have hasked : asked p.normalizer group = [first, second] :=
            asked_of_resolve hresolve hpair
          have hproper := isProper_of_relate hterms h
          rw [groupEdges_pair] at hproper
          obtain ⟨hterm, hother⟩ := ne_nil_of_isProper_pairEdges hproper
          have hne : ∀ t ∈ [term, other], t ≠ [] := by simpa using ⟨hterm, hother⟩
          rw [runFrom_relate hterms hne, groupEdges_pair] at h
          refine ⟨(term, other), hresolve, ?_⟩
          rw [Session.after, edgesOf, hresolve, hasked]
          exact (congrArg Prod.snd h).symm

theorem exists_pairs_of_forM_takeGroup {all : List Text}
    (h : Step.runFrom (all.forM p.takeGroup) s = (.ok (), s')) :
    ∃ pairs : List (Term × Term), all.map (resolve p.normalizer) = pairs.map .ok ∧
      s' = all.foldl (Session.after p) s := by
  induction all generalizing s with
  | nil => exact ⟨[], rfl, (congrArg Prod.snd h).symm⟩
  | cons group all ih =>
    cases hgroup : (p.takeGroup group).runFrom s with
    | mk outcome middle =>
      cases outcome with
      | error cause =>
        rw [Step.runFrom_forM_cons_error hgroup] at h
        exact absurd (congrArg Prod.fst h) nofun
      | ok _ =>
        rw [Step.runFrom_forM_cons_ok hgroup] at h
        obtain ⟨pair, hpair, rfl⟩ := exists_pair_of_takeGroup hgroup
        obtain ⟨pairs, hpairs, hafter⟩ := ih h
        refine ⟨pair :: pairs, ?_, hafter⟩
        rw [List.map_cons, hpair, hpairs, List.map_cons]

theorem exists_pairs_of_run {source : Source} {g : Graph} (h : p.run source = .ok g) :
    ∃ pairs : List (Term × Term),
      (source.lines.flatMap groups).map (resolve p.normalizer) = pairs.map .ok ∧
      g = Graph.ofEdges p.dedup (pairs.flatMap (pairEdges p.expand)) := by
  rw [run_eq_forM] at h
  cases hgroups : Step.runFrom ((source.lines.flatMap groups).forM p.takeGroup) p.start with
  | mk outcome after =>
    rw [hgroups] at h
    cases outcome with
    | error cause => exact absurd h nofun
    | ok _ =>
      obtain ⟨pairs, hpairs, rfl⟩ := exists_pairs_of_forM_takeGroup hgroups
      refine ⟨pairs, hpairs, ?_⟩
      cases hfailure : source.failure with
      | some reason =>
        rw [hfailure] at h
        exact absurd h nofun
      | none =>
        rw [hfailure] at h
        rw [← Except.ok.inj h, draft_foldl_after, flatMap_edgesOf hpairs, Parser.start,
          ← Draft.ofEdges_nil, Draft.foldl_put_ofEdges, List.nil_append]
        rfl

end Succeeds

theorem map_pair_pairEdges (pairs : List (Term × Term)) :
    (pairs.flatMap (pairEdges true)).map Edge.pair =
      pairs.flatMap fun pair => [pair, pair.swap] := by
  rw [List.map_flatMap]
  rfl

/-- A pair counts twice towards the edges from a term to itself, or not at all. -/
theorem count_diagonal (pairs : List (Term × Term)) (term : Term) :
    (pairs.flatMap fun pair => [pair, pair.swap]).count (term, term) =
      2 * pairs.count (term, term) := by
  induction pairs with
  | nil => rfl
  | cons pair pairs ih =>
    have hswap : pair.swap = (term, term) ↔ pair = (term, term) :=
      Prod.swap_inj (q := (term, term))
    rw [List.flatMap_cons, List.count_append, ih, List.count_cons]
    by_cases h : pair = (term, term)
    · simp [h]
      omega
    · simp [h, hswap]

/-- With expansion a term leads to itself twice for every group that has it in both places, or once
if repeated edges are dropped, and no term does if no group has the same tokens twice. -/
theorem self_edges_of_expanded {p : Parser} (hexpand : p.expand = true) {source : Source}
    {g : Graph} (h : p.run source = .ok g) :
    ∃ pairs : List (Term × Term),
      (source.lines.flatMap groups).map (resolve p.normalizer) = pairs.map .ok ∧
      (∀ term, (g.outputs term).count term =
        if p.dedup then min 1 (pairs.count (term, term)) else 2 * pairs.count (term, term)) ∧
      ((∀ term, term ∉ g.outputs term) ↔ ∀ pair ∈ pairs, pair.1 ≠ pair.2) := by
  obtain ⟨pairs, hpairs, rfl⟩ := exists_pairs_of_run h
  rw [hexpand]
  have hcount (term : Term) :
      ((Graph.ofEdges p.dedup (pairs.flatMap (pairEdges true))).outputs term).count term =
        if p.dedup then min 1 (pairs.count (term, term)) else 2 * pairs.count (term, term) := by
    rw [count_outputs_ofEdges, keptPairs, map_pair_pairEdges]
    cases p.dedup with
    | false => exact count_diagonal pairs term
    | true =>
      have hmem : (term, term) ∈ (pairs.flatMap fun pair => [pair, pair.swap]) ↔
          0 < pairs.count (term, term) := by
        rw [← List.count_pos_iff, count_diagonal]
        omega
      rw [if_pos rfl, if_pos rfl, (nodup_firsts _).count]
      simp only [mem_firsts, hmem]
      split_ifs <;> omega
  refine ⟨pairs, hpairs, hcount, ?_⟩
  have hself (term : Term) :
      term ∉ (Graph.ofEdges p.dedup (pairs.flatMap (pairEdges true))).outputs term ↔
        (term, term) ∉ pairs := by
    rw [← List.count_eq_zero, ← List.count_eq_zero, hcount]
    split_ifs <;> omega
  simp only [hself]
  constructor
  · rintro hnone ⟨term, other⟩ hpair heq
    obtain rfl : term = other := heq
    exact hnone term hpair
  · intro hapart term hterm
    exact hapart (term, term) hterm rfl

theorem self_edges_of_expanded_spellings :
    let p : Parser := { expand := true, dedup := false }
    let city : Term := ["new", "york"]
    let short : Term := ["ny"]
    let edges : List Edge :=
      [⟨city, city, true⟩, ⟨city, city, true⟩, ⟨short, city, true⟩, ⟨city, short, true⟩]
    let g := Graph.ofEdges false edges
    p.run (.text "New\\ york , new  YORK|ny, NEW York") = .ok g ∧
      (g.outputs city).count city = 2 ∧ short ∉ g.outputs short := by
  intro p city short edges g
  have hrun : p.run (.text "New\\ york , new  YORK|ny, NEW York") = .ok g := by decide +kernel
  obtain ⟨pairs, hpairs, hcount, -⟩ := self_edges_of_expanded rfl hrun
  have hresolved : pairs.map Except.ok =
      ([(city, city), (short, city)] : List (Term × Term)).map (Except.ok (ε := RuleError)) :=
    hpairs.symm.trans (by decide +kernel)
  have hterms := List.map_injective_iff.mpr (fun _ _ => Except.ok.inj) hresolved
  rw [hterms] at hcount
  refine ⟨hrun, (hcount city).trans (by decide), ?_⟩
  exact List.count_eq_zero.mp ((hcount short).trans (by decide))

/-- Two spellings of one term in a group are enough. -/
theorem self_edges_despite_expansion :
    ¬ ∀ (normalizer : Normalizer) (dedup : Bool) (source : Source) (g : Graph),
      ({ expand := true, dedup, normalizer } : Parser).run source = .ok g →
        ∀ term, g.contains term = true → term ∉ g.outputs term := by
  intro h
  let a : Term := ["a"]
  let g := Graph.ofEdges true [⟨a, a, true⟩, ⟨a, a, true⟩]
  have hrun : Parser.run { expand := true } (.text "a, A") = .ok g := by decide +kernel
  exact h (Analyzer.normalizer {}) true (.text "a, A") g hrun a (by decide) (by decide)

end Thesaurus.Rules
