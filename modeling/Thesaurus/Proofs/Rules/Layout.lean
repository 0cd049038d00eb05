import Thesaurus.Proofs.Rules.Joined
import Thesaurus.Proofs.Rules.Trace
import Thesaurus.Proofs.Text.Delimiter
import Thesaurus.Proofs.Text.LineEnds

/-!
# Layouts of the same rules

What a parser does with a source depends on the lines that it delivers, and but for the events on
their groups. A text with plain line ends gives the same lines as a text, as a stream and line by
line (`take_same_lines`). A group is read alone as it is read in its line, since what is split is
not split again, so that every group can stand on a line of its own (`split_again`).
-/

set_option autoImplicit false

namespace Thesaurus.Rules

open Text

section Take

variable {expand : Bool} {ask : Text → Step Term}

theorem takeBy_congr {source other : Source} (hlines : source.lines = other.lines)
    (hfailure : source.failure = other.failure) :
    takeBy expand ask source = takeBy expand ask other := by
  rw [takeBy, takeBy, hlines, hfailure]

/-- Texts with the same groups have the same effect. -/
theorem sameEffect_of_groups_eq {t u : Text}
    (h : (lines t).flatMap groups = (lines u).flatMap groups) (s : Session) :
    SameEffect ((takeBy expand ask (.text t)).runFrom s)
      ((takeBy expand ask (.text u)).runFrom s) := by
  have ht : SameEffect ((takeBy expand ask (.text t)).runFrom s) _ := sameEffect_take_text t s
  rw [h] at ht
  exact ht.trans (sameEffect_take_text u s).symm

end Take

/-- A text whose line ends are those of files delivers the same lines whether it is given as a text,
as a stream or as its lines with their ends, so that taking it is the same in every respect. -/
theorem take_same_lines {t : Text} (h : PlainBreaks t) :
    (linesWithEnds t).flatten = t ∧
    Source.lines (.stream t) = Source.lines (.text t) ∧
    Source.lines (.items (linesWithEnds t) none) = Source.lines (.text t) ∧
    ∀ (expand : Bool) (ask : Text → Step Term),
      takeBy expand ask (.stream t) = takeBy expand ask (.text t) ∧
      takeBy expand ask (.items (linesWithEnds t) none) = takeBy expand ask (.text t) := by
  have hstream : Source.lines (.stream t) = Source.lines (.text t) := streamLines_eq_lines h
  have hitems : Source.lines (.items (linesWithEnds t) none) = Source.lines (.text t) :=
    map_dropLineEnd_linesWithEnds h
  refine ⟨flatten_linesWithEnds t, hstream, hitems, fun expand ask => ⟨?_, ?_⟩⟩
  · exact takeBy_congr hstream rfl
  · exact takeBy_congr hitems rfl

theorem take_same_lines_joint_breaks :
    let t : Text := "a, b\r\n\r\n\nc\\|, d\n|e, f"
    PlainBreaks t ∧ linesWithEnds t = ["a, b\r\n", "\r\n", "\n", "c\\|, d\n", "|e, f"] ∧
      Source.lines (.stream t) = ["a, b", "", "", "c\\|, d", "|e, f"] := by
  intro t
  have h : PlainBreaks t := by decide
  obtain ⟨-, hstream, -⟩ := take_same_lines h
  exact ⟨h, by decide, hstream.trans (by decide)⟩

theorem mem_groups {line group : Text} (h : group ∈ groups line) :
    group ≠ [] ∧ group <:+: line ∧ groups group = [group] := by
  have hdelimiter : groupDelimiter ≠ [] := List.cons_ne_nil _ _
  obtain ⟨hne, hwithin, -⟩ := of_mem_splitAt hdelimiter h
  exact ⟨hne, hwithin, splitAt_of_mem_splitAt hdelimiter h⟩

theorem oneLine_of_mem_groups {t group : Text} (h : group ∈ (lines t).flatMap groups) :
    group ≠ [] ∧ OneLine group := by
  obtain ⟨line, hline, hgroup⟩ := List.mem_flatMap.mp h
  obtain ⟨hne, hwithin, -⟩ := mem_groups hgroup
  exact ⟨hne, fun c hc => oneLine_of_mem_lines hline c (hwithin.subset hc)⟩

/-- Groups that are lines are the groups of those lines. -/
theorem flatMap_groups_of_mem {t : Text} {all : List Text}
    (h : ∀ group ∈ all, group ∈ (lines t).flatMap groups) : all.flatMap groups = all := by
  have hgroups : ∀ group ∈ all, groups group = [group] := by
    intro group hgroup
    obtain ⟨line, -, hline⟩ := List.mem_flatMap.mp (h group hgroup)
    exact (mem_groups hline).2.2
  rw [List.flatMap_congr hgroups]
  simp

/-- Terms that are related fail by a text that is refused or by an edge, never by their number. -/
theorem ne_notPair_of_relate (p : Parser) (texts : List Text) (s : Session) (group : Text) :
    ((p.relate texts).runFrom s).1 ≠ .error (.rule (.notPair group)) := by
  have hall := runFrom_mapM_normalize p.normalizer texts s
  cases hterms : texts.mapM p.normalizer with
  | error cause =>
    rw [runFrom_relate_error hterms]
    rintro ⟨⟩
  | ok terms =>
    rw [hterms] at hall
    rw [Parser.relate, relateBy, Parser.ask, Step.runFrom_bind_ok hall]
    by_cases hproper : ∀ e ∈ groupEdges p.expand terms, e.IsProper
    · rw [Step.runFrom_forM_submit hproper]
      rintro ⟨⟩
    · obtain ⟨before, e, rest, hedges, hbefore, he⟩ := exists_first_fault hproper
      rw [hedges, runFrom_forM_submit_fault hbefore he]
      rintro ⟨⟩

/-- A group that is named in an error is one of those that were taken, and has not two terms. -/
theorem mem_of_notPair {p : Parser} {all : List Text} {group : Text} {s : Session}
    (h : (Step.runFrom (all.forM p.takeGroup) s).1 = .error (.rule (.notPair group))) :
    group ∈ all ∧ terms group = .error (.notPair group) := by
  induction all generalizing s with
  | nil => exact absurd h nofun
  | cons first rest ih =>
    cases hrun : (p.takeGroup first).runFrom s with
    | mk outcome after =>
      cases outcome with
      | ok _ =>
        rw [Step.runFrom_forM_cons_ok hrun] at h
        obtain ⟨hmem, hgroup⟩ := ih h
        exact ⟨List.mem_cons_of_mem first hmem, hgroup⟩
      | error cause =>
        rw [Step.runFrom_forM_cons_error hrun] at h
        obtain rfl : cause = .rule (.notPair group) := Except.error.inj h
        rw [takeGroup_eq, terms_eq] at hrun
        rw [terms_eq]
        cases hpair : termPair first with
        | some pair =>
          rw [hpair] at hrun
          exact absurd (congrArg Prod.fst hrun) (ne_notPair_of_relate p _ s group)
        | none =>
          rw [hpair] at hrun
          have hcause := Except.error.inj (congrArg Prod.fst hrun)
          obtain rfl : first = group := by simpa using hcause
          rw [hpair]
          exact ⟨List.mem_cons_self, rfl⟩

theorem outcome_take_of_notPair {group : Text} (hlines : lines group = [group])
    (hgroups : groups group = [group]) (hterms : terms group = .error (.notPair group)) (p : Parser)
    (s : Session) : ((p.take (.text group)).runFrom s).1 = .error (.rule (.notPair group)) := by
  have htake : SameEffect ((p.take (.text group)).runFrom s)
      (Step.runFrom (((lines group).flatMap groups).forM p.takeGroup) s) :=
    sameEffect_take_text group s
  have hgroup : (p.takeGroup group).runFrom s = (.error (.rule (.notPair group)), s) := by
    rw [takeGroup_eq, hterms]
    rfl
  rw [htake.outcome, hlines, List.flatMap_singleton, hgroups, Step.runFrom_forM_cons_error hgroup]

/-- The segments of a text, for a delimiter of any length, are not empty, are not split again and
are the segments of their join. So the groups of a text can be laid out on lines of their own in any
way, with the same effect, and a group that is rejected for the number of its terms is rejected in
the same words when it is all that is taken. -/
theorem split_again {d : Text} (hd : d ≠ []) (t source : Text) :
    let all := (lines source).flatMap groups
    (∃ segments, t.split d = .ok segments ∧
      (∀ segment ∈ segments, segment ≠ [] ∧ segment.split d = .ok [segment]) ∧
      (join d segments).split d = .ok segments) ∧
    lines (join ['\n'] all) = all ∧
    (∀ u, lines u = all → ∀ (expand : Bool) (ask : Text → Step Term) (s : Session),
      SameEffect ((takeBy expand ask (.text u)).runFrom s)
        ((takeBy expand ask (.text source)).runFrom s)) ∧
    ∀ (p : Parser) (s : Session) (group : Text),
      ((p.take (.text source)).runFrom s).1 = .error (.rule (.notPair group)) →
      ∀ (q : Parser) (s' : Session),
        ((q.take (.text group)).runFrom s').1 = .error (.rule (.notPair group)) := by
  intro all
  have hsplit (u : Text) : u.split d = .ok (u.splitAt d) := if_neg (by simpa using hd)
  refine ⟨⟨t.splitAt d, hsplit t, ?_, ?_⟩, ?_, ?_, ?_⟩
  · intro segment hsegment
    rw [hsplit, splitAt_of_mem_splitAt hd hsegment]
    exact ⟨(of_mem_splitAt hd hsegment).1, rfl⟩
  · rw [hsplit, splitAt_join hd]
  · exact lines_join fun group hgroup => oneLine_of_mem_groups hgroup
  · intro u hu expand ask s
    apply sameEffect_of_groups_eq
    rw [hu, flatMap_groups_of_mem fun group hgroup => hgroup]
  · intro p s group h q s'
    have htake : SameEffect ((p.take (.text source)).runFrom s)
        (Step.runFrom (((lines source).flatMap groups).forM p.takeGroup) s) :=
      sameEffect_take_text source s
    obtain ⟨hmem, hterms⟩ := mem_of_notPair (htake.outcome.symm.trans h)
    obtain ⟨hne, hline⟩ := oneLine_of_mem_groups hmem
    obtain ⟨line, -, hgroup⟩ := List.mem_flatMap.mp hmem
    exact outcome_take_of_notPair (lines_of_oneLine hne hline) (mem_groups hgroup).2.2 hterms q s'

theorem split_again_overlapping :
    let p : Parser := { normalizer := .whole }
    let d : Text := "\\,\\"
    let source : Text := "|c, d||e\r|f, g"
    let laidOut : Text := "c, d\ne\r\nf, g\n"
    d ≠ [] ∧ split "a\\,\\,\\b\\" d = .ok ["a", ",\\b\\"] ∧
      split ",\\b\\" d = .ok [",\\b\\"] ∧
      lines laidOut = (lines source).flatMap groups ∧
      SameEffect ((p.take (.text laidOut)).runFrom {}) ((p.take (.text source)).runFrom {}) ∧
      ((p.take (.text source)).runFrom {}).1 = .error (.rule (.notPair "e")) ∧
      ((p.take (.text "e")).runFrom {}).1 = .error (.rule (.notPair "e")) := by
  intro p d source laidOut
  have hd : d ≠ [] := by decide +kernel
  obtain ⟨⟨segments, hsplit, hsegments, -⟩, -, hlayout, hrejected⟩ :=
    split_again hd "a\\,\\,\\b\\" source
  have hparts : split "a\\,\\,\\b\\" d = .ok ["a", ",\\b\\"] := by
    decide +kernel
  obtain rfl : segments = ["a", ",\\b\\"] := Except.ok.inj (hsplit.symm.trans hparts)
  have hlaidOut : lines laidOut = (lines source).flatMap groups := by decide +kernel
  have hsource : ((p.take (.text source)).runFrom {}).1 = .error (.rule (.notPair "e")) := by
    decide +kernel
  refine ⟨hd, hsplit, (hsegments _ (by simp)).2, hlaidOut, ?_, hsource, ?_⟩
  · exact hlayout laidOut hlaidOut p.expand p.ask {}
  · exact hrejected p {} "e" hsource p {}

end Thesaurus.Rules
