import Thesaurus.Proofs.Rules.Outcome
import Thesaurus.Proofs.Rules.Rendering
import Thesaurus.Proofs.Term.Analysis

/-!
# The grammar of rules

With the analyzer a text has a graph just if each of its lines is in the grammar, and a text that
has none is rejected for a group that is not a pair or for a term without a word. Main facts:
`exists_resolve_iff` for one group, `run_text_iff_inGrammar` for a text.
-/

set_option autoImplicit false

namespace Thesaurus.Rules

open Text

/-- Without its escapes a part is not all blank. -/
def HasWord (part : List Glyph) : Prop := ∃ c ∈ chars part, isBlank c = false

def IsPair (piece : List Glyph) : Prop :=
  ∃ first second, termRuns piece = [first, second] ∧ HasWord first ∧ HasWord second

/-- What stands on a line between plain bars are pairs. Empty stretches do not count. -/
def InGrammar (line : Text) : Prop := ∀ piece ∈ groupRuns (glyphs line), IsPair piece

section Written

variable {piece : List Glyph} (h : Settled piece)

include h

theorem termPair_written {l m : List Glyph} (hruns : termRuns piece = [l, m]) :
    termPair (written piece) = some ((chars l).trim, (chars m).trim) := by
  rw [termPair_eq, glyphs_written h, hruns]

theorem termPair_written_of_length (hlength : (termRuns piece).length ≠ 2) :
    termPair (written piece) = none := by
  rw [termPair_eq, glyphs_written h]
  rcases hruns : termRuns piece with _ | ⟨l, _ | ⟨m, _ | ⟨n, rest⟩⟩⟩
  · rfl
  · rfl
  · exact absurd (congrArg List.length hruns) hlength
  · rfl

end Written

section Analyzer

variable {a : Analyzer}

theorem hasWord_iff {part : List Glyph} :
    HasWord part ↔ ∃ term, a.normalizer (chars part).trim = .ok term := by
  have hblank := not_congr (forall_isBlank_trim (t := chars part))
  simp only [not_forall, exists_prop, Bool.not_eq_true] at hblank
  rw [Analyzer.exists_normalizer_iff, hblank, HasWord]

/-- Of a term that is refused nothing was left. -/
theorem cause_of_part {part : List Glyph} {cause : TermError}
    (h : a.normalizer (chars part).trim = .error cause) :
    cause = ⟨[], "analyzed to a zero-length token"⟩ := by
  obtain ⟨rfl, hblank⟩ := Analyzer.normalizer_eq_error h
  rw [trim_eq_nil_iff.mpr (forall_isBlank_trim.mp hblank)]

theorem exists_resolve_iff {piece : List Glyph} (h : Settled piece) :
    (∃ pair, resolve a.normalizer (written piece) = .ok pair) ↔ IsPair piece := by
  constructor
  · rintro ⟨⟨term, other⟩, hpair⟩
    obtain ⟨first, second, hboth, hfirst, hsecond⟩ := resolve_eq_ok_iff.mp hpair
    have hlength : (termRuns piece).length = 2 := by
      by_contra hne
      rw [termPair_written_of_length h hne] at hboth
      cases hboth
    obtain ⟨l, m, hruns⟩ := List.length_eq_two.mp hlength
    rw [termPair_written h hruns] at hboth
    obtain ⟨rfl, rfl⟩ := Prod.mk.inj (Option.some.inj hboth)
    exact ⟨l, m, hruns, hasWord_iff.mpr ⟨term, hfirst⟩, hasWord_iff.mpr ⟨other, hsecond⟩⟩
  · rintro ⟨l, m, hruns, hl, hm⟩
    obtain ⟨term, hterm⟩ := hasWord_iff.mp hl
    obtain ⟨other, hother⟩ := hasWord_iff.mp hm
    exact ⟨(term, other), resolve_eq_ok_iff.mpr ⟨_, _, termPair_written h hruns, hterm, hother⟩⟩

/-- A group that is not a pair is rejected as such, or for the empty text that is left of a term. -/
theorem cause_of_resolve {piece : List Glyph} (h : Settled piece) {cause : RuleError}
    (hcause : resolve a.normalizer (written piece) = .error cause) :
    (termRuns piece).length ≠ 2 ∧ cause = .notPair (written piece) ∨
      cause = .term ⟨[], "analyzed to a zero-length token"⟩ := by
  rw [resolve] at hcause
  by_cases hlength : (termRuns piece).length = 2
  · right
    obtain ⟨l, m, hruns⟩ := List.length_eq_two.mp hlength
    rw [termPair_written h hruns] at hcause
    dsimp only at hcause
    cases hl : a.normalizer (chars l).trim with
    | error e =>
      rw [hl] at hcause
      rw [← Except.error.inj hcause, cause_of_part hl]
    | ok term =>
      rw [hl] at hcause
      cases hm : a.normalizer (chars m).trim with
      | error e =>
        rw [hm] at hcause
        rw [← Except.error.inj hcause, cause_of_part hm]
      | ok other =>
        rw [hm] at hcause
        cases hcause
  · left
    rw [termPair_written_of_length h hlength] at hcause
    exact ⟨hlength, (Except.error.inj hcause).symm⟩

theorem usable_iff {line : Text} : Usable a.normalizer line ↔ InGrammar line := by
  rw [Usable, InGrammar, groups_eq, List.forall_mem_map]
  exact forall₂_congr fun piece hpiece => exists_resolve_iff (settled_of_mem_groupRuns hpiece)

end Analyzer

/-- Exactly the texts whose lines are all in the grammar have a graph, whatever the switches are.
The others are rejected for one of their groups, never for an edge. -/
theorem run_text_iff_inGrammar (a : Analyzer) (expand dedup : Bool) (t : Text) :
    let outcome := ({ expand, dedup, normalizer := a.normalizer } : Parser).run (.text t)
    ((∃ g, outcome = .ok g) ↔ ∀ line ∈ lines t, InGrammar line) ∧
    ∀ cause, outcome = .error cause →
      (∃ line ∈ lines t, ∃ piece ∈ groupRuns (glyphs line),
        (termRuns piece).length ≠ 2 ∧ cause = .rule (.notPair (written piece))) ∨
      cause = .rule (.term ⟨[], "analyzed to a zero-length token"⟩) := by
  intro outcome
  have hne : a.normalizer.NeverEmpty := a.neverEmpty_normalizer
  have hrun : outcome = (verdict a.normalizer (.text t)).map fun pairs =>
      Graph.ofEdges dedup (pairs.flatMap (pairEdges expand)) :=
    run_eq (p := { expand, dedup, normalizer := a.normalizer }) hne (.text t)
  constructor
  · rw [exists_run_iff hne rfl]
    exact forall₂_congr fun line _ => usable_iff
  · intro cause hcause
    have hverdict : verdict a.normalizer (.text t) = .error cause := by
      rw [hrun] at hcause
      cases hpairs : verdict a.normalizer (.text t) with
      | ok pairs =>
        rw [hpairs] at hcause
        exact absurd hcause nofun
      | error cause' =>
        rw [hpairs] at hcause
        exact congrArg _ (Except.error.inj hcause)
    obtain ⟨group, hgroup, e, he, rfl⟩ := exists_group_of_verdict rfl hverdict
    obtain ⟨line, hline, hgroup⟩ := List.mem_flatMap.mp hgroup
    rw [groups_eq] at hgroup
    obtain ⟨piece, hpiece, rfl⟩ := List.mem_map.mp hgroup
    obtain ⟨hlength, rfl⟩ | rfl := cause_of_resolve (settled_of_mem_groupRuns hpiece) he
    · exact .inl ⟨line, hline, piece, hpiece, hlength, rfl⟩
    · exact .inr rfl

end Thesaurus.Rules
