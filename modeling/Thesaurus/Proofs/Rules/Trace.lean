import Mathlib.Data.List.FinRange
import Mathlib.Data.List.ProdSigma
import Thesaurus.Proofs.Rules.Outcome

/-!
# What relating terms does

The texts of a group go to the normalizer one after the other, and only when all have a term do the
edges go to the draft. Either can break off, the first at a text that is refused and the second at
an empty term. Main facts: `groupEdges_eq_map` gives the edges by the places that they join,
`runFrom_forM_submit_fault` says where submitting breaks off, and `relate_traced` puts both together
for any number of terms.
-/

set_option autoImplicit false

namespace Thesaurus.Rules

/-- The places among `n` terms that edges join, in the order of the edges. Without expansion every
place is joined with the first; with it every place with all others, row by row. -/
def edgePlaces (expand : Bool) (n : Nat) : List (Fin n × Fin n) :=
  if expand then
    ((List.finRange n).product (List.finRange n)).filter fun places => places.1 != places.2
  else (List.finRange n).map fun i => (i, ⟨0, i.pos⟩)

/-- The edge between the terms at two places. -/
def edgeAt (expand : Bool) (terms : List Term) (places : Fin terms.length × Fin terms.length) :
    Edge :=
  ⟨terms.get places.1, terms.get places.2, expand⟩

theorem zipIdx_eq_map_finRange {α : Type} (l : List α) :
    l.zipIdx = (List.finRange l.length).map fun i => (l.get i, i.val) := by
  apply List.ext_getElem <;> simp

theorem groupEdges_eq_map (expand : Bool) (terms : List Term) :
    groupEdges expand terms = (edgePlaces expand terms.length).map (edgeAt expand terms) := by
  rw [groupEdges.eq_def, edgePlaces]
  cases expand with
  | false =>
    rw [if_neg Bool.false_ne_true, if_neg Bool.false_ne_true, List.map_map]
    cases terms with
    | nil => rfl
    | cons first rest =>
      let toFirst (input : Term) : Edge := ⟨input, first, false⟩
      have hall := congrArg (List.map toFirst) (List.map_get_finRange (first :: rest)).symm
      rw [List.map_map] at hall
      exact hall
  | true =>
    rw [if_pos rfl, if_pos rfl, List.product, List.filter_flatMap, List.map_flatMap,
      zipIdx_eq_map_finRange, List.flatMap_map]
    apply List.flatMap_congr
    intro i _
    dsimp only
    rw [List.filter_map, List.map_map, List.filter_map, List.map_map]
    congr 1
    apply List.filter_congr
    intro j _
    rw [Function.comp_apply, Function.comp_apply, bne_comm, Bool.eq_iff_iff]
    simp [Fin.ext_iff]

/-- Row by row is in lexicographic order. -/
theorem edgePlaces_pairwise (n : Nat) :
    (edgePlaces true n).Pairwise (Prod.Lex (· < ·) (· < ·)) := by
  have hall : ((List.finRange n).product (List.finRange n)).Pairwise
      (Prod.Lex (· < ·) (· < ·)) := by
    rw [List.product, List.pairwise_flatMap]
    constructor
    · intro i _
      rw [List.pairwise_map]
      exact (List.pairwise_lt_finRange n).imp fun h => Prod.Lex.right i h
    · refine (List.pairwise_lt_finRange n).imp fun {i k} h => ?_
      simpa using fun j l => Prod.Lex.left j l h
  exact hall.filter _

theorem length_edgePlaces (expand : Bool) (n : Nat) :
    (edgePlaces expand n).length = if expand then n * (n - 1) else n := by
  cases expand with
  | false => simp [edgePlaces]
  | true =>
    have hrow (i : Fin n) : ((List.finRange n).filter (i != ·)).length = n - 1 := by
      have herase := (List.nodup_finRange n).erase_eq_filter i
      have hlength := List.length_erase_of_mem (List.mem_finRange i)
      rw [herase, List.length_finRange] at hlength
      rw [← hlength]
      congr 2
      exact funext fun j => bne_comm
    rw [edgePlaces, if_pos rfl, if_pos rfl, List.product, List.filter_flatMap, List.length_flatMap]
    simp [List.filter_map, Function.comp_def, hrow]

theorem consulted_of_fault {normalizer : Normalizer} {before : List Text} {t : Text}
    {cause : TermError} (hbefore : ∀ u ∈ before, ∃ term, normalizer u = .ok term)
    (ht : normalizer t = .error cause) (rest : List Text) :
    consulted normalizer (before ++ t :: rest) = before ++ [t] := by
  induction before with
  | nil => rw [List.nil_append, consulted, ht]; rfl
  | cons u before ih =>
    obtain ⟨⟨term, hterm⟩, hbefore⟩ := List.forall_mem_cons.mp hbefore
    rw [List.cons_append, consulted, hterm]
    exact congrArg (u :: ·) (ih hbefore)

/-- What is said of an edge with an empty term: the input counts first. -/
def refusal (e : Edge) : EdgeError := if e.input = [] then .emptyInput else .emptyOutput

theorem add_of_not_isProper {e : Edge} (h : ¬ e.IsProper) (d : Draft) :
    d.add e = .error (refusal e) := by
  rw [refusal]
  split_ifs with hinput
  · exact Draft.add_emptyInput hinput d
  · have houtput : e.output = [] := by
      by_contra hne
      exact h ⟨hinput, hne⟩
    exact Draft.add_emptyOutput hinput houtput d

/-- What a run did to a session: the texts that it gave to the normalizer, the edges that it
submitted and those among them that the draft took. -/
structure Session.Grows (s after : Session) (texts : List Text) (submitted taken : List Edge) :
    Prop where
  normalized : after.normalized.toList = s.normalized.toList ++ texts
  submitted : after.submitted.toList = s.submitted.toList ++ submitted
  draft : s.draft.addAll taken = .ok after.draft

theorem grows_foldl_put {edges : List Edge} (h : ∀ e ∈ edges, e.IsProper) (texts : List Text)
    (s : Session) : s.Grows (edges.foldl Session.put (s.consult texts)) texts edges edges where
  normalized := by rw [Session.normalized_foldl_put, Session.consult, Array.toList_appendList]
  submitted := Session.submitted_foldl_put edges _
  draft := by rw [Session.draft_foldl_put, Draft.addAll_of_proper h]; rfl

/-- Submitting breaks off at the first edge with an empty term; the edges before it stay. -/
theorem runFrom_forM_submit_fault {before : List Edge} {e : Edge}
    (hbefore : ∀ e' ∈ before, e'.IsProper) (he : ¬ e.IsProper) (rest : List Edge) (s : Session) :
    ((before ++ e :: rest).forM Step.submit).runFrom s =
      (.error (.edge (refusal e)),
        { before.foldl Session.put s with
          submitted := (before.foldl Session.put s).submitted.push e }) := by
  rw [Step.runFrom_forM_append_ok (Step.runFrom_forM_submit hbefore s)]
  exact Step.runFrom_forM_cons_error (Step.runFrom_submit_error (add_of_not_isProper he _)) rest

theorem exists_first_fault {edges : List Edge} (h : ¬ ∀ e ∈ edges, e.IsProper) :
    ∃ before e rest, edges = before ++ e :: rest ∧ (∀ e' ∈ before, e'.IsProper) ∧
      ¬ e.IsProper := by
  cases hfind : edges.find? (!decide ·.IsProper) with
  | none =>
    rw [List.find?_eq_none] at hfind
    exact absurd (by simpa using hfind) h
  | some e =>
    obtain ⟨he, before, rest, rfl, hbefore⟩ := List.find?_eq_some_iff_append.mp hfind
    exact ⟨before, e, rest, rfl, by simpa using hbefore, by simpa using he⟩

/-- Relating any number of texts gives each to the normalizer, in order, up to and including the
first that is refused; then no edge is submitted and the draft is as it was. If none is refused the
edges between their terms are submitted in order: from each place to the first, or with expansion
from each place to all others, in lexicographic order. They end at the first with an empty term,
whose input counts before its output, and the draft takes those before it. -/
theorem relate_traced (p : Parser) (texts : List Text) (s : Session) :
    (∃ before t rest cause after, texts = before ++ t :: rest ∧
      (∀ u ∈ before, ∃ term, p.normalizer u = .ok term) ∧ p.normalizer t = .error cause ∧
      (p.relate texts).runFrom s = (.error (.rule (.term cause)), after) ∧
      s.Grows after (before ++ [t]) [] []) ∨
    ∃ terms : List Term, texts.map p.normalizer = terms.map .ok ∧
      let places := edgePlaces p.expand terms.length
      let edges := places.map (edgeAt p.expand terms)
      edges.length = (if p.expand then texts.length * (texts.length - 1) else texts.length) ∧
      (p.expand = true → places.Pairwise (Prod.Lex (· < ·) (· < ·))) ∧
      (((∀ e ∈ edges, e.IsProper) ∧
        ∃ after, (p.relate texts).runFrom s = (.ok (), after) ∧ s.Grows after texts edges edges) ∨
      ∃ before e rest after, edges = before ++ e :: rest ∧ (∀ e' ∈ before, e'.IsProper) ∧
        (e.input = [] ∨ e.output = []) ∧
        (p.relate texts).runFrom s = (.error (.edge (refusal e)), after) ∧
        s.Grows after texts (before ++ [e]) before) := by
  have hall := runFrom_mapM_normalize p.normalizer texts s
  cases hterms : texts.mapM p.normalizer with
  | error cause =>
    left
    obtain ⟨before, t, rest, rfl, hbefore, ht⟩ := exists_fault_of_mapM hterms
    refine ⟨before, t, rest, cause, _, rfl, hbefore, ht, runFrom_relate_error hterms s, ?_⟩
    have hnone : ∀ e ∈ ([] : List Edge), e.IsProper := by simp
    rw [consulted_of_fault hbefore ht]
    exact grows_foldl_put hnone (before ++ [t]) s
  | ok terms =>
    right
    rw [hterms, consulted_of_ok hterms] at hall
    have hmap := map_eq_of_mapM hterms
    have hlength : terms.length = texts.length := by simpa using (congrArg List.length hmap).symm
    refine ⟨terms, hmap, ?_, ?_, ?_⟩
    · rw [List.length_map, length_edgePlaces, hlength]
    · intro hexpand
      rw [hexpand]
      exact edgePlaces_pairwise terms.length
    · rw [Parser.relate, relateBy, Parser.ask, Step.runFrom_bind_ok hall, groupEdges_eq_map]
      by_cases hproper : ∀ e ∈ (edgePlaces p.expand terms.length).map (edgeAt p.expand terms),
          e.IsProper
      · left
        exact ⟨hproper, _, Step.runFrom_forM_submit hproper _, grows_foldl_put hproper texts s⟩
      · right
        obtain ⟨before, e, rest, hedges, hbefore, he⟩ := exists_first_fault hproper
        rw [hedges]
        refine ⟨before, e, rest, _, rfl, hbefore, ?_, runFrom_forM_submit_fault hbefore he rest _, ?_⟩
        · by_contra hempty
          exact he (not_or.mp hempty)
        · obtain ⟨hnormalized, hsubmitted, hdraft⟩ := grows_foldl_put hbefore texts s
          refine ⟨hnormalized, ?_, hdraft⟩
          rw [Array.toList_push, hsubmitted, List.append_assoc]

/-- An empty term among others ends the edges midway, where it first comes as an output. -/
example :
    let p : Parser := { expand := true, normalizer := .characters }
    let x := (p.relate ["a", "b", "", "a"]).runFrom p.start
    x.1 = .error (.edge .emptyOutput) ∧
      x.2.normalized.toList = (["a", "b", "", "a"] : List Text) ∧
      x.2.submitted.toList = [⟨[['a']], [['b']], true⟩, ⟨[['a']], [], true⟩] ∧
      x.2.draft.recorded = 1 := by
  decide

end Thesaurus.Rules
