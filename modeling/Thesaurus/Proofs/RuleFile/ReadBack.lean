import Thesaurus.Proofs.RuleFile.Load
import Thesaurus.Proofs.Rules.Rendering

/-!
# Reading a document back

Whatever way a document is rendered, parsing gives its terms to the normalizer in order and records
the edges of its pairs. Main facts: `flatMap_groups_of_supplies` says that it makes no difference
how a rendering is delivered, and `take_rendered` what becomes of it, as a source of its own and in
a rule file.
-/

set_option autoImplicit false

namespace Thesaurus.RuleFile

open Rules Text

/-- No line of a text begins with the comment mark. -/
def Uncommented (mark : Option Text) (t : Text) : Prop :=
  ∀ m ∈ mark, m ≠ [] → ∀ line ∈ lines t, ¬ m <+: line.trim

/-- The sources that deliver a text: itself, or those of its lines that hold rules. -/
inductive Supplies (t : Text) : Source → Prop
  | text : Supplies t (.text t)
  | content {mark : Option Text} (h : Uncommented mark t) :
      Supplies t (.items (contentLines mark t) none)

theorem isContent_of_uncommented {mark : Option Text} {t line : Text} (h : Uncommented mark t)
    (hline : line ∈ lines t) : isContent mark line = !line.trim.isEmpty := by
  match mark, h with
  | none, _ => simp [isContent]
  | some [], _ => simp [isContent]
  | some (c :: m), h =>
    have hnot : ¬ (c :: m) <+: line.trim := h (c :: m) rfl (by simp) line hline
    have hprefix : (c :: m).isPrefixOf line.trim = false := by
      rwa [← Bool.not_eq_true, List.isPrefixOf_iff_prefix]
    simp [isContent, hprefix]

/-- A line of blanks is a group without two terms. -/
theorem groups_of_blanks {line : Text} (hne : line ≠ []) (h : ∀ c ∈ line, isBlank c = true) :
    groups line = [line] ∧ termPair line = none := by
  obtain ⟨l, hreads, hno, -⟩ := (spells_padding h).exists_reading
  have hl : glyphs line = l := hreads.glyphs_eq
  have hglyphs : l ≠ [] := by
    rintro rfl
    exact hne hreads.written_eq.symm
  constructor
  · rw [groups_eq, hl, groupRuns, runs_eq_singleton hglyphs fun g hg => (hno g hg).2,
      List.map_singleton, hreads.written_eq]
  · rw [termPair_eq, hl, termRuns, runs_eq_singleton hglyphs fun g hg => (hno g hg).1]

theorem groups_of_blank {line : Text} (h : ∀ c ∈ line, isBlank c = true)
    (hpairs : none ∉ (groups line).map termPair) : groups line = [] := by
  by_cases hne : line = []
  · rw [hne]
    rfl
  · obtain ⟨hgroups, hnone⟩ := groups_of_blanks hne h
    exact absurd (by simp [hgroups, hnone]) hpairs

/-- Every source that delivers a rendering delivers its groups and does not fail. -/
theorem flatMap_groups_of_supplies {doc : Document} {t : Text} (h : Renders doc t)
    {source : Source} (hsource : Supplies t source) :
    source.lines.flatMap groups = (lines t).flatMap groups ∧ source.failure = none := by
  cases hsource with
  | text => exact ⟨rfl, rfl⟩
  | @content mark hmark =>
    have hcontent : contentLines mark t = (lines t).filter (!·.trim.isEmpty) :=
      List.filter_congr fun line hline => isContent_of_uncommented hmark hline
    refine ⟨?_, rfl⟩
    rw [lines_contentLines, hcontent]
    apply flatMap_filter
    intro line hline hempty
    have hblank : ∀ c ∈ line, isBlank c = true := trim_eq_nil_iff.mp (by simpa using hempty)
    -- A blank line that is not empty would be a group at fault, and a rendering has none.
    apply groups_of_blank hblank
    intro hnone
    have hmem : none ∈ ((lines t).flatMap groups).map termPair := by
      rw [List.map_flatMap]
      exact List.mem_flatMap.mpr ⟨line, hline, hnone⟩
    rw [map_termPair_of_renders h] at hmem
    simp at hmem

section Named

variable {p : Parser} {name : Text → Term}
  (hname : ∀ u, p.normalizer u = .ok (name u) ∧ name u ≠ [])

include hname

theorem neverEmpty_of_named : p.normalizer.NeverEmpty := by
  intro u term hu
  rw [(hname u).1] at hu
  rw [← Except.ok.inj hu]
  exact (hname u).2

theorem resolve_of_named {group : Text} {pair : Text × Text} (h : termPair group = some pair) :
    resolve p.normalizer group = .ok (name pair.1, name pair.2) :=
  resolve_eq_ok_iff.mpr ⟨pair.1, pair.2, h, (hname pair.1).1, (hname pair.2).1⟩

/-- What becomes of a source whose groups all have two terms. -/
theorem take_pairs {source : Source} (hfailure : source.failure = none)
    {pairs : List (Text × Text)}
    (hpairs : (source.lines.flatMap groups).map termPair = pairs.map some) :
    let edges := pairs.flatMap fun pair => pairEdges p.expand (name pair.1, name pair.2)
    ∃ after, (p.take source).runFrom p.start = (.ok (), after) ∧
      after.normalized.toList = pairs.flatMap (fun pair => [pair.1, pair.2]) ∧
      after.submitted.toList = edges ∧
      after.draft = Draft.ofEdges p.dedup edges ∧
      p.run source = .ok (Graph.ofEdges p.dedup edges) := by
  intro edges
  have hall : ∀ g ∈ source.lines.flatMap groups, ∃ pair, resolve p.normalizer g = .ok pair := by
    intro g hg
    have hmem : termPair g ∈ pairs.map some := hpairs ▸ List.mem_map_of_mem hg
    obtain ⟨pair, -, hpair⟩ := List.mem_map.mp hmem
    exact ⟨_, resolve_of_named hname hpair.symm⟩
  have hasked : (source.lines.flatMap groups).flatMap (asked p.normalizer) =
      pairs.flatMap fun pair => [pair.1, pair.2] := by
    refine flatMap_eq_of_map_eq (fun group pair hpair => ?_) hpairs
    exact asked_of_resolve (resolve_of_named hname hpair) hpair
  have hedges : (source.lines.flatMap groups).flatMap (edgesOf p) = edges := by
    refine flatMap_eq_of_map_eq (fun group pair hpair => ?_) hpairs
    rw [edgesOf, resolve_of_named hname hpair]
  obtain ⟨after, hrun, hdraft, hnormalized, hsubmitted⟩ :=
    runFrom_take (neverEmpty_of_named hname) hall p.start
  rw [hfailure] at hrun
  rw [hedges] at hdraft hsubmitted
  rw [hasked] at hnormalized
  have hofEdges : after.draft = Draft.ofEdges p.dedup edges := by
    rw [hdraft, Parser.start, ← Draft.ofEdges_nil, Draft.foldl_put_ofEdges, List.nil_append]
  refine ⟨after, hrun, hnormalized, hsubmitted, hofEdges, ?_⟩
  rw [Parser.run, Parser.graph, Step.runFrom_bind_ok hrun]
  exact congrArg (fun d => Except.ok d.graph) hofEdges

end Named

/-- A rendered document is read back as the document. Whatever delivers it, a parser whose
normalizer has tokens for every text succeeds, gives the normalizer the terms of the document in
order, submits the edges of its pairs, and has their graph; and so does the loading of a rule file
that holds it. -/
theorem take_rendered {doc : Document} {t : Text} (h : Renders doc t) {p : Parser}
    {name : Text → Term} (hname : ∀ u, p.normalizer u = .ok (name u) ∧ name u ≠ []) :
    let pairs := doc.flatten.map Pair.texts
    let edges := pairs.flatMap fun pair => pairEdges p.expand (name pair.1, name pair.2)
    (∀ source, Supplies t source →
      ∃ after, (p.take source).runFrom p.start = (.ok (), after) ∧
        after.normalized.toList = pairs.flatMap (fun pair => [pair.1, pair.2]) ∧
        after.submitted.toList = edges ∧
        after.draft = Draft.ofEdges p.dedup edges ∧
        p.run source = .ok (Graph.ofEdges p.dedup edges)) ∧
    ∀ tree path mark, (readText tree (.ofText path)).outcome.1 = .ok t → Uncommented mark t →
      (load tree path p mark).outcome.1 = .ok (Graph.ofEdges p.dedup edges) := by
  intro pairs edges
  have hpairs {source : Source} (hsource : Supplies t source) :
      (source.lines.flatMap groups).map termPair = pairs.map some := by
    rw [(flatMap_groups_of_supplies h hsource).1, map_termPair_of_renders h, List.map_map]
    rfl
  constructor
  · intro source hsource
    exact take_pairs hname (flatMap_groups_of_supplies h hsource).2 (hpairs hsource)
  · intro tree path mark hread hmark
    obtain ⟨-, -, -, -, -, hrun⟩ := take_pairs hname rfl (hpairs (.content hmark))
    rw [outcome_load hread, hrun]
    rfl

theorem take_rendered_delimiters :
    let tag : Phrase :=
      ⟨['#', 'a'], by decide, by rintro _ ⟨⟩; decide, by rintro _ ⟨⟩; decide, by decide⟩
    let marks : Phrase :=
      ⟨['|', ','], by decide, by rintro _ ⟨⟩; decide, by rintro _ ⟨⟩; decide, by decide⟩
    let slash : Phrase :=
      ⟨['\\'], by decide, by rintro _ ⟨⟩; decide, by rintro _ ⟨⟩; decide, by decide⟩
    let t : Text := "|\\#a ,,\\|\\,,\r\n\n\\\\,#\\a"
    let p : Parser := { expand := true, normalizer := .whole }
    let edges : List Edge :=
      [⟨["#a"], ["|,"], true⟩, ⟨["|,"], ["#a"], true⟩, ⟨["\\"], ["#a"], true⟩,
        ⟨["#a"], ["\\"], true⟩]
    let tree : FileTree :=
      { workingDirectory := [], files := ⟨[(["rules"], Utf8.encode t)], by decide⟩ }
    Renders [[(tag, marks)], [(slash, tag)]] t ∧
    (∃ after, (p.take (.text t)).runFrom p.start = (.ok (), after) ∧
      after.normalized.toList = (["#a", "|,", "\\", "#a"] : List Text)) ∧
    p.run (.items (contentLines (some "#") t) none) = .ok (Graph.ofEdges true edges) ∧
    (load tree "rules" p (some "#")).outcome.1 = .ok (Graph.ofEdges true edges) := by
  intro tag marks slash t p edges tree
  have htag : RendersTerm tag ([] ++ ['\\', '#', 'a'] ++ [' ']) :=
    .padded (by decide) (.escaped '#' (.plain (by decide) .nil)) (by decide)
  have hmarks : RendersTerm marks ([] ++ ['\\', '|', '\\', ','] ++ []) :=
    .padded (by decide) (.escaped '|' (.escaped ',' .nil)) (by decide)
  have hslash : RendersTerm slash ([] ++ ['\\', '\\'] ++ []) :=
    .padded (by decide) (.escaped '\\' .nil) (by decide)
  have htag' : RendersTerm tag ([] ++ ['#', '\\', 'a'] ++ []) :=
    .padded (by decide) (.plain (by decide) (.escaped 'a' .nil)) (by decide)
  have hfirst : RendersLine [(tag, marks)] _ := .last 1 (.terms 0 1 1 htag hmarks)
  have hsecond : RendersLine [(slash, tag)] _ := .last 0 (.terms 0 0 0 hslash htag')
  have ht : Renders [[(tag, marks)], [(slash, tag)]] t :=
    .cons hfirst .pair (.empty (.single (c := '\n') (by decide)) (.last hsecond))
  have hname (u : Text) : p.normalizer u = .ok [u] ∧ [u] ≠ [] := ⟨rfl, by simp⟩
  have hmark : Uncommented (some "#") t := by
    intro m hm _
    rw [← Option.some.inj hm]
    decide +kernel
  obtain ⟨hsource, hload⟩ := take_rendered ht hname
  obtain ⟨after, hrun, hasked, -⟩ := hsource (.text t) .text
  obtain ⟨-, -, -, -, -, hgraph⟩ := hsource _ (.content hmark)
  refine ⟨ht, ⟨after, hrun, hasked⟩, hgraph, ?_⟩
  exact hload tree "rules" (some "#") (by decide +kernel) hmark

end Thesaurus.RuleFile
