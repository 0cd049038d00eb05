import Mathlib.Data.Multiset.Bind
import Thesaurus.Proofs.Graph.Queries
import Thesaurus.Proofs.Rules.FirstFault

/-!
# The shape of a parser's graph

Whatever a parser is given, and whatever of it fails, it submits the edges of whole groups. With
expansion they are symmetric, and without it every output leads to itself. Main facts: `whole_step`
for one use of a parser, `exists_groups_of_uses` for the draft behind any uses and
`graph_after_uses` for its graph.
-/

set_option autoImplicit false

namespace Thesaurus.Rules

/-- One use of a parser: a source that is taken, or terms that are related. -/
inductive Use where
  | take (source : Source)
  | relate (terms : List Text)
deriving DecidableEq

def Use.step (expand : Bool) (ask : Text → Step Term) : Use → Step Unit
  | .take source => takeBy expand ask source
  | .relate terms => relateBy expand ask terms

/-- The session that uses of a new parser leave behind, those that fail included. -/
def afterUses (expand dedup : Bool) (ask : Text → Step Term) (uses : List Use) : Session :=
  uses.foldl (fun s use => ((use.step expand ask).runFrom s).2) { draft := { dedup } }

section Pairs

theorem product_map_swap_perm {α : Type} (l : List α) :
    ((l.product l).map Prod.swap).Perm (l.product l) := by
  have hswap := Multiset.map_swap_product (l : Multiset α) (l : Multiset α)
  rw [Multiset.coe_product, Multiset.map_coe] at hswap
  exact Multiset.coe_eq_coe.mp hswap

def apart (places : (Term × Nat) × (Term × Nat)) : Bool := places.2.2 != places.1.2

theorem apart_comp_swap : apart ∘ Prod.swap = apart := by
  funext places
  exact bne_comm

/-- With expansion the edges of a group join the terms at every two different places. -/
theorem map_pair_groupEdges (terms : List Term) :
    (groupEdges true terms).map Edge.pair =
      ((terms.zipIdx.product terms.zipIdx).filter apart).map fun places =>
        (places.1.1, places.2.1) := by
  rw [groupEdges.eq_def, if_pos rfl, List.map_flatMap, List.product, List.filter_flatMap,
    List.map_flatMap]
  apply List.flatMap_congr
  intro place _
  rw [List.filter_map, List.map_map, List.map_map]
  rfl

theorem swap_groupEdges (terms : List Term) :
    (((groupEdges true terms).map Edge.pair).map Prod.swap).Perm
      ((groupEdges true terms).map Edge.pair) := by
  let places := terms.zipIdx.product terms.zipIdx
  have hswap : ((places.filter apart).map Prod.swap).Perm (places.filter apart) := by
    have hfilter := (product_map_swap_perm terms.zipIdx).filter apart
    rwa [List.filter_map, apart_comp_swap] at hfilter
  have hmap := hswap.map fun place => (place.1.1, place.2.1)
  rw [List.map_map] at hmap
  rw [map_pair_groupEdges, List.map_map]
  exact hmap

theorem swap_flatMap_groupEdges (all : List (List Term)) :
    (((all.flatMap (groupEdges true)).map Edge.pair).map Prod.swap).Perm
      ((all.flatMap (groupEdges true)).map Edge.pair) := by
  rw [List.map_flatMap, List.map_flatMap]
  exact List.Perm.flatMap_left all fun terms _ => swap_groupEdges terms

theorem count_swap_of_perm {pairs : List (Term × Term)} (h : (pairs.map Prod.swap).Perm pairs)
    (input output : Term) : pairs.count (input, output) = pairs.count (output, input) := by
  have hcount : (pairs.map Prod.swap).count (Prod.swap (output, input)) =
      pairs.count (output, input) :=
    List.count_map_of_injective pairs Prod.swap Prod.swap_injective _
  rw [← hcount]
  exact (h.count_eq (input, output)).symm

theorem count_keptPairs_swap {dedup : Bool} {edges : List Edge}
    (h : ((edges.map Edge.pair).map Prod.swap).Perm (edges.map Edge.pair)) (input output : Term) :
    (keptPairs dedup edges).count (input, output) =
      (keptPairs dedup edges).count (output, input) := by
  have hcount := count_swap_of_perm h input output
  cases dedup with
  | false => exact hcount
  | true =>
    have hmem : (input, output) ∈ edges.map Edge.pair ↔ (output, input) ∈ edges.map Edge.pair := by
      rw [← List.count_pos_iff, ← List.count_pos_iff, hcount]
    have hnodup := nodup_firsts (edges.map Edge.pair)
    rw [keptPairs, if_pos rfl, hnodup.count, hnodup.count]
    simp only [mem_firsts, hmem]

end Pairs

theorem keepsInput_of_mem_groupEdges {expand : Bool} {terms : List Term} {e : Edge}
    (h : e ∈ groupEdges expand terms) : e.keepsInput = expand := by
  rw [groupEdges.eq_def] at h
  cases expand with
  | true =>
    rw [if_pos rfl] at h
    obtain ⟨place, -, hplace⟩ := List.mem_flatMap.mp h
    obtain ⟨other, -, rfl⟩ := List.mem_map.mp hplace
    rfl
  | false =>
    rw [if_neg Bool.false_ne_true] at h
    cases terms with
    | nil => simp at h
    | cons first rest =>
      obtain ⟨input, -, rfl⟩ := List.mem_map.mp h
      rfl

/-- Without expansion the first term of a group, to which all lead, leads to itself. -/
theorem self_mem_groupEdges {terms : List Term} {e : Edge} (h : e ∈ groupEdges false terms) :
    (⟨e.output, e.output, false⟩ : Edge) ∈ groupEdges false terms := by
  rw [groupEdges.eq_def, if_neg Bool.false_ne_true] at h ⊢
  cases terms with
  | nil => simp at h
  | cons first rest =>
    obtain ⟨input, -, rfl⟩ := List.mem_map.mp h
    exact List.mem_map_of_mem List.mem_cons_self

theorem mem_outputs_graph {dedup : Bool} {edges : List Edge} {input output : Term} :
    output ∈ (Graph.ofEdges dedup edges).outputs input ↔
      (input, output) ∈ edges.map Edge.pair := by
  rw [outputs_ofEdges, mem_outputs_ofEdges, mem_outputsOf]

theorem contains_of_mem_outputs {dedup : Bool} {edges : List Edge} {input output : Term}
    (h : output ∈ (Graph.ofEdges dedup edges).outputs input) :
    (Graph.ofEdges dedup edges).contains input = true := by
  obtain ⟨e, he, hpair⟩ := List.mem_map.mp (mem_outputs_graph.mp h)
  exact contains_ofEdges.mpr (List.mem_map.mpr ⟨e, he, congrArg Prod.fst hpair⟩)

/-- The graph of groups whose terms are given. -/
def groupsGraph (dedup expand : Bool) (all : List (List Term)) : Graph :=
  Graph.ofEdges dedup (all.flatMap (groupEdges expand))

section Groups

variable {dedup expand : Bool} {all : List (List Term)}

theorem count_outputs_swap (dedup : Bool) (all : List (List Term)) (term other : Term) :
    ((groupsGraph dedup true all).outputs term).count other =
      ((groupsGraph dedup true all).outputs other).count term := by
  rw [groupsGraph, count_outputs_ofEdges, count_outputs_ofEdges,
    count_keptPairs_swap (swap_flatMap_groupEdges all)]

theorem contains_output {term output : Term}
    (h : output ∈ (groupsGraph dedup true all).outputs term) :
    (groupsGraph dedup true all).contains output = true := by
  have hback : term ∈ (groupsGraph dedup true all).outputs output := by
    rw [← List.count_pos_iff, ← count_outputs_swap]
    exact List.count_pos_iff.mpr h
  exact contains_of_mem_outputs hback

theorem output_leads_to_itself {term output : Term}
    (h : output ∈ (groupsGraph dedup false all).outputs term) :
    output ∈ (groupsGraph dedup false all).outputs output := by
  obtain ⟨e, he, hpair⟩ := List.mem_map.mp (mem_outputs_graph.mp h)
  obtain ⟨terms, hterms, hgroup⟩ := List.mem_flatMap.mp he
  have hself := self_mem_groupEdges hgroup
  have houtput : e.output = output := congrArg Prod.snd hpair
  rw [houtput] at hself
  apply mem_outputs_graph.mpr
  exact List.mem_map.mpr ⟨_, List.mem_flatMap.mpr ⟨terms, hterms, hself⟩, rfl⟩

theorem keepsInput_groupsGraph {input : Term} {rule : Rule}
    (h : (groupsGraph dedup expand all).rules.get? input = some rule) :
    rule.keepsInput = expand := by
  have hkeeps : ∀ e ∈ all.flatMap (groupEdges expand), e.keepsInput = expand := by
    intro e he
    obtain ⟨terms, -, hterms⟩ := List.mem_flatMap.mp he
    exact keepsInput_of_mem_groupEdges hterms
  rw [groupsGraph, get?_ofEdges] at h
  split_ifs at h with hinput
  obtain ⟨e, he, heq⟩ := List.mem_map.mp hinput
  rw [← Option.some.inj h, Rule.ofEdges]
  cases expand with
  | true =>
    apply List.any_eq_true.mpr
    exact ⟨e, List.mem_filter.mpr ⟨he, by simpa using heq⟩, hkeeps e he⟩
  | false =>
    apply List.any_eq_false.mpr
    intro e' he'
    simp [hkeeps e' (List.mem_of_mem_filter he')]

end Groups

section Uses

variable {expand dedup : Bool} {α β : Type}

/-- Asks a normalizer that may answer by all that it was asked before. -/
def consult (answer : Array Text → Normalizer) (t : Text) : Step Term := do
  let asked := (← get).normalized
  Step.normalize (answer asked) t

theorem consult_eq_ask (p : Parser) : consult (fun _ => p.normalizer) = p.ask := rfl

theorem runFrom_mapM_consult {answer : Array Text → Normalizer}
    (hne : ∀ asked, (answer asked).NeverEmpty) (texts : List Text) (s : Session) :
    ∃ outcome after, Step.runFrom (texts.mapM (consult answer)) s = (outcome, after) ∧
      after.draft = s.draft ∧ ∀ terms, outcome = .ok terms → ∀ term ∈ terms, term ≠ [] := by
  induction texts generalizing s with
  | nil =>
    refine ⟨.ok [], s, rfl, rfl, ?_⟩
    intro terms hterms
    rw [← Except.ok.inj hterms]
    simp
  | cons t texts ih =>
    have hhead : (consult answer t).runFrom s = _ :=
      Step.runFrom_normalize (answer s.normalized) t s
    rw [List.mapM_cons]
    cases ht : answer s.normalized t with
    | error cause =>
      rw [ht] at hhead
      exact ⟨_, _, Step.runFrom_bind_error hhead _, rfl, nofun⟩
    | ok term =>
      rw [ht] at hhead
      rw [Step.runFrom_bind_ok hhead]
      obtain ⟨outcome, after, hrun, hdraft, hterms⟩ :=
        ih { s with normalized := s.normalized.push t }
      cases outcome with
      | error cause => exact ⟨_, _, Step.runFrom_bind_error hrun _, hdraft, nofun⟩
      | ok rest =>
        refine ⟨_, _, Step.runFrom_bind_ok hrun _, hdraft, ?_⟩
        intro terms heq
        rw [← Except.ok.inj heq]
        exact List.forall_mem_cons.mpr ⟨hne _ t term ht, hterms rest rfl⟩

/-- Whether a step submits the edges of whole groups, wherever it fails. -/
def Whole (expand : Bool) (step : Step α) : Prop :=
  ∀ s, ∃ all : List (List Term), (step.runFrom s).2.draft =
    (all.flatMap (groupEdges expand)).foldl Draft.put s.draft

theorem whole_of_draft_eq {step : Step α} (h : ∀ s, (step.runFrom s).2.draft = s.draft) :
    Whole expand step := fun s => ⟨[], h s⟩

theorem Whole.bind {first : Step α} {next : α → Step β} (hfirst : Whole expand first)
    (hnext : ∀ a, Whole expand (next a)) : Whole expand (first >>= next) := by
  intro s
  obtain ⟨all, hall⟩ := hfirst s
  cases hrun : first.runFrom s with
  | mk outcome middle =>
    rw [hrun] at hall
    cases outcome with
    | error cause => exact ⟨all, by rw [Step.runFrom_bind_error hrun]; exact hall⟩
    | ok a =>
      obtain ⟨more, hmore⟩ := hnext a middle
      refine ⟨all ++ more, ?_⟩
      rw [Step.runFrom_bind_ok hrun, hmore, hall, List.flatMap_append, List.foldl_append]

theorem whole_forM {f : α → Step Unit} (h : ∀ x, Whole expand (f x)) (xs : List α) :
    Whole expand (xs.forM f) := by
  induction xs with
  | nil => exact whole_of_draft_eq fun _ => rfl
  | cons x xs ih => exact (h x).bind fun _ => ih

section Consult

variable {answer : Array Text → Normalizer} (hne : ∀ asked, (answer asked).NeverEmpty)

include hne

theorem whole_relateBy (texts : List Text) : Whole expand (relateBy expand (consult answer) texts) := by
  intro s
  obtain ⟨outcome, after, hrun, hdraft, hterms⟩ := runFrom_mapM_consult hne texts s
  rw [relateBy]
  cases outcome with
  | error cause =>
    refine ⟨[], ?_⟩
    rw [Step.runFrom_bind_error hrun]
    exact hdraft
  | ok terms =>
    have hproper : ∀ e ∈ groupEdges expand terms, e.IsProper := fun e he =>
      isProper_of_mem_groupEdges (hterms terms rfl) he
    refine ⟨[terms], ?_⟩
    rw [Step.runFrom_bind_ok hrun, Step.runFrom_forM_submit hproper, Session.draft_foldl_put,
      hdraft, List.flatMap_singleton]

theorem whole_takeGroupBy (group : Text) :
    Whole expand (takeGroupBy expand (consult answer) group) := by
  rw [takeGroupBy]
  cases terms group with
  | ok terms => exact whole_relateBy hne terms
  | error cause => exact whole_of_draft_eq fun _ => rfl

theorem whole_step (use : Use) : Whole expand (use.step expand (consult answer)) := by
  cases use with
  | relate terms => exact whole_relateBy hne terms
  | take source =>
    rw [Use.step, takeBy, takeLinesBy_eq_forM]
    refine (whole_forM (whole_takeGroupBy hne) _).bind fun _ => ?_
    cases source.failure <;> exact whole_of_draft_eq fun _ => rfl

theorem exists_groups_of_uses (uses : List Use) :
    ∃ all : List (List Term), (afterUses expand dedup (consult answer) uses).draft =
      Draft.ofEdges dedup (all.flatMap (groupEdges expand)) := by
  induction uses using List.reverseRecOn with
  | nil => exact ⟨[], (Draft.ofEdges_nil dedup).symm⟩
  | append_singleton uses use ih =>
    -- A use that fails is no exception: the groups that it took before stand behind all others.
    obtain ⟨all, hall⟩ := ih
    obtain ⟨more, hmore⟩ := whole_step hne use (afterUses expand dedup (consult answer) uses)
    refine ⟨all ++ more, ?_⟩
    rw [hall, Draft.foldl_put_ofEdges] at hmore
    rw [afterUses, List.foldl_append, ← afterUses, List.foldl_cons, List.foldl_nil, hmore,
      List.flatMap_append]

end Consult

end Uses

/-- After any uses of a parser, with those among them that fail, and whatever its normalizer answers,
its graph has the shape of its mode. With expansion a term is an output of another as often as the
other is of it, so that every output is an input, and all inputs are kept. Without it every output
leads to itself as well, and no input is kept. -/
theorem graph_after_uses (expand dedup : Bool) (answer : Array Text → Normalizer)
    (hne : ∀ asked, (answer asked).NeverEmpty) (uses : List Use) :
    ∃ g, (Step.graph.runFrom (afterUses expand dedup (consult answer) uses)).1 = .ok g ∧
      (expand = true →
        (∀ term other, (g.outputs term).count other = (g.outputs other).count term) ∧
        (∀ term, ∀ output ∈ g.outputs term, g.contains output = true) ∧
        ∀ input rule, g.rules.get? input = some rule → rule.keepsInput = true) ∧
      (expand = false →
        (∀ term, ∀ output ∈ g.outputs term,
          g.contains output = true ∧ output ∈ g.outputs output) ∧
        ∀ input rule, g.rules.get? input = some rule → rule.keepsInput = false) := by
  obtain ⟨all, hdraft⟩ := exists_groups_of_uses hne uses
  have hgraph : (Step.graph.runFrom (afterUses expand dedup (consult answer) uses)).1 =
      .ok (groupsGraph dedup expand all) :=
    congrArg (fun d : Draft => Except.ok d.graph) hdraft
  refine ⟨groupsGraph dedup expand all, hgraph, ?_, ?_⟩
  · rintro rfl
    refine ⟨count_outputs_swap dedup all, ?_, ?_⟩
    · intro term output houtput
      exact contains_output houtput
    · intro input rule hrule
      exact keepsInput_groupsGraph hrule
  · rintro rfl
    refine ⟨?_, ?_⟩
    · intro term output houtput
      have hself := output_leads_to_itself houtput
      exact ⟨contains_of_mem_outputs hself, hself⟩
    · intro input rule hrule
      exact keepsInput_groupsGraph hrule

theorem graph_after_uses_that_fail :
    let answer (asked : Array Text) : Normalizer := fun t =>
      if t.isEmpty then .error ⟨t, "no word"⟩ else .ok [if asked.contains t then "again" else t]
    let p : Parser := { expand := false }
    let uses : List Use :=
      [.take (.text "a,a|c,a|d"), .relate ["x", "y", "X"], .relate ["z", ""]]
    let a : Term := ["a"]
    let again : Term := ["again"]
    let x : Term := ["x"]
    (∃ g, (Step.graph.runFrom (afterUses true false (consult answer) uses)).1 = .ok g ∧
      (g.outputs a).count again = 1 ∧ (g.outputs again).count a = 1 ∧ g.contains ["z"] = false) ∧
    ∃ g, (Step.graph.runFrom (afterUses p.expand p.dedup p.ask uses)).1 = .ok g ∧
      g.outputs ["y"] = [x] ∧ x ∈ g.outputs x := by
  intro answer p uses a again x
  constructor
  · have hne (asked : Array Text) : (answer asked).NeverEmpty := by
      intro t term hterm
      dsimp only [answer] at hterm
      split at hterm
      · exact absurd hterm nofun
      · rw [← Except.ok.inj hterm]
        exact List.cons_ne_nil _ _
    obtain ⟨g, hg, hexpand, -⟩ := graph_after_uses true false answer hne uses
    have hanswers : (Step.graph.runFrom (afterUses true false (consult answer) uses)).1.map
        (fun g => ((g.outputs again).count a, g.contains ["z"])) = .ok (1, false) := by
      decide +kernel
    rw [hg] at hanswers
    obtain ⟨hcount, hcontains⟩ := Prod.mk.inj (Except.ok.inj hanswers)
    exact ⟨g, hg, ((hexpand rfl).1 a again).trans hcount, hcount, hcontains⟩
  · have hne (_ : Array Text) : p.normalizer.NeverEmpty := Analyzer.neverEmpty_normalizer {}
    obtain ⟨g, hg, -, hplain⟩ := graph_after_uses p.expand p.dedup (fun _ => p.normalizer) hne uses
    rw [consult_eq_ask] at hg
    have houtputs : (Step.graph.runFrom (afterUses p.expand p.dedup p.ask uses)).1.map
        (·.outputs ["y"]) = .ok [x] := by
      decide +kernel
    rw [hg] at houtputs
    have hy : g.outputs ["y"] = [x] := Except.ok.inj houtputs
    have hx : x ∈ g.outputs ["y"] := by
      rw [hy]
      exact List.mem_singleton_self x
    exact ⟨g, hg, hy, ((hplain rfl).1 _ x hx).2⟩

end Thesaurus.Rules
