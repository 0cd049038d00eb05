import Thesaurus.Proofs.RuleFile.ReadBack

/-!
# Rule files and rule texts

Of a rule file the lines that hold rules are taken, of a rule text all lines. Main facts:
`run_join_contentLines` gives a text that is taken as a file is, and `load_agrees_with_run` says
where a file and its own text part.
-/

set_option autoImplicit false

namespace Thesaurus.RuleFile

open Rules Text

/-- Something on a line is not blank, and the line without its padding does not begin with the
comment mark. An empty mark marks nothing. -/
def HoldsRule (mark : Option Text) (line : Text) : Prop :=
  (∃ c ∈ line, isBlank c = false) ∧ ∀ m ∈ mark, m ≠ [] → ¬ m <+: line.trim

/-- A line that only seems to be empty. -/
def IsBlankLine (line : Text) : Prop := line ≠ [] ∧ ∀ c ∈ line, isBlank c = true

instance (line : Text) : Decidable (IsBlankLine line) :=
  haveI : Decidable (∀ c ∈ line, isBlank c = true) := List.decidableBAll _ line
  inferInstanceAs (Decidable (_ ∧ _))

theorem isContent_iff {mark : Option Text} {line : Text} :
    isContent mark line = true ↔ HoldsRule mark line := by
  have hblank : line.trim ≠ [] ↔ ∃ c ∈ line, isBlank c = false := by
    rw [ne_eq, trim_eq_nil_iff]
    simp
  rw [isContent.eq_def, HoldsRule, ← hblank]
  match mark with
  | none => simp
  | some [] => simp
  | some (c :: m) => simp [← List.isPrefixOf_iff_prefix]

instance (mark : Option Text) : DecidablePred (HoldsRule mark) :=
  fun _ => decidable_of_iff _ isContent_iff

theorem contentLines_eq (mark : Option Text) (t : Text) :
    contentLines mark t = (lines t).filter (HoldsRule mark) := by
  refine List.filter_congr fun line _ => ?_
  rw [Bool.eq_iff_iff, isContent_iff, decide_eq_true_iff]

theorem run_congr {p : Parser} {source source' : Source}
    (hgroups : source.lines.flatMap groups = source'.lines.flatMap groups)
    (hfailure : source.failure = source'.failure) : p.run source = p.run source' := by
  rw [run_eq_forM, run_eq_forM, hgroups, hfailure]

/-- The lines of a text that hold rules, joined to a text again, are taken as the file is. -/
theorem run_join_contentLines (p : Parser) (mark : Option Text) (t : Text) :
    p.run (.text (join ['\n'] (contentLines mark t))) =
      p.run (.items (contentLines mark t) none) := by
  have hlines : lines (join ['\n'] (contentLines mark t)) = contentLines mark t := by
    refine lines_join fun line hline => ⟨?_, oneLine_of_mem_lines (List.mem_of_mem_filter hline)⟩
    rintro rfl
    have hholds := isContent_iff.mp (List.mem_filter.mp hline).2
    simp [HoldsRule] at hholds
  refine run_congr ?_ rfl
  rw [lines_contentLines]
  exact congrArg _ hlines

/-- The groups of lines do not change with the lines that hold no rule, unless one of these is a
line of blanks. -/
theorem flatMap_groups_filter {ls : List Text} (h : ∀ line ∈ ls, ¬ IsBlankLine line) :
    (ls.filter (HoldsRule none)).flatMap groups = ls.flatMap groups := by
  apply flatMap_filter
  intro line hline hskipped
  have hblank : ∀ c ∈ line, isBlank c = true := by simpa [HoldsRule] using hskipped
  have hnil : line = [] := by
    by_contra hne
    exact h line hline ⟨hne, hblank⟩
  rw [hnil]
  rfl

/-- What stops a parser stops it whatever comes behind. -/
theorem run_append_error {p : Parser} {source source' : Source} {rest : List Text}
    {cause : ParseError} (hfailure : source.failure = none)
    (hgroups : source'.lines.flatMap groups = source.lines.flatMap groups ++ rest)
    (h : p.run source = .error cause) : p.run source' = .error cause := by
  rw [run_eq_forM, hfailure] at h
  rw [run_eq_forM, hgroups]
  cases hrun : Step.runFrom ((source.lines.flatMap groups).forM p.takeGroup) p.start with
  | mk outcome after =>
    rw [hrun] at h
    cases outcome with
    | ok _ => exact absurd h nofun
    | error cause' =>
      rw [Step.runFrom_forM_append_error hrun]
      exact h

theorem run_append_notPair {p : Parser} {source source' : Source} {group : Text}
    {rest : List Text} {g : Graph} (hpair : termPair group = none)
    (hgroups : source'.lines.flatMap groups = source.lines.flatMap groups ++ group :: rest)
    (h : p.run source = .ok g) : p.run source' = .error (.rule (.notPair group)) := by
  rw [run_eq_forM] at h
  rw [run_eq_forM, hgroups]
  cases hrun : Step.runFrom ((source.lines.flatMap groups).forM p.takeGroup) p.start with
  | mk outcome after =>
    rw [hrun] at h
    cases outcome with
    | error cause => exact absurd h nofun
    | ok _ =>
      have hgroup : (p.takeGroup group).runFrom after =
          (.error (.rule (.notPair group)), after) := by
        rw [takeGroup_eq, terms_eq, hpair]
        rfl
      rw [Step.runFrom_forM_append_ok hrun, Step.runFrom_forM_cons_error hgroup]

/-- The parser fails on none of some lines of a rule file without comments. -/
def GetsThrough (p : Parser) (ls : List Text) : Prop :=
  ∃ g, p.run (.items (ls.filter (HoldsRule none)) none) = .ok g

section Before

variable {p : Parser} {t w : Text} {before behind : List Text}
  (hlines : lines t = before ++ w :: behind) (hblank : ∀ line ∈ before, ¬ IsBlankLine line)

include hlines hblank

theorem groups_before :
    (Source.items (before.filter (HoldsRule none)) none).lines.flatMap groups =
      before.flatMap groups := by
  have hone : ∀ line ∈ before.filter (HoldsRule none), OneLine line := by
    intro line hline
    have hmem : line ∈ lines t := hlines ▸ List.mem_append_left _ (List.mem_of_mem_filter hline)
    exact oneLine_of_mem_lines hmem
  rw [lines_items hone, flatMap_groups_filter hblank]

theorem run_text_of_getsThrough (hw : IsBlankLine w) (h : GetsThrough p before) :
    p.run (.text t) = .error (.rule (.notPair w)) := by
  obtain ⟨hgroups, hnone⟩ := groups_of_blanks hw.1 hw.2
  obtain ⟨g, hg⟩ := h
  have hall : (lines t).flatMap groups =
      before.flatMap groups ++ w :: behind.flatMap groups := by
    rw [hlines, List.flatMap_append, List.flatMap_cons, hgroups, List.singleton_append]
  rw [← groups_before hlines hblank] at hall
  exact run_append_notPair hnone hall hg

/-- A file and its text part only behind what is taken of both. -/
theorem run_text_of_not_getsThrough (h : ¬ GetsThrough p before) :
    p.run (.items (contentLines none t) none) = p.run (.text t) := by
  cases hrun : p.run (.items (before.filter (HoldsRule none)) none) with
  | ok g => exact absurd ⟨g, hrun⟩ h
  | error cause =>
    have hall : (lines t).flatMap groups =
        before.flatMap groups ++ (w :: behind).flatMap groups := by
      rw [hlines, List.flatMap_append]
    have hcontent : (Source.items (contentLines none t) none).lines.flatMap groups =
        before.flatMap groups ++ ((w :: behind).filter (HoldsRule none)).flatMap groups := by
      rw [lines_contentLines, contentLines_eq, hlines, List.filter_append, List.flatMap_append,
        flatMap_groups_filter hblank]
    rw [← groups_before hlines hblank] at hall hcontent
    have htext : p.run (.text t) = .error cause := run_append_error rfl hall hrun
    rw [htext, run_append_error rfl hcontent hrun]

end Before

theorem run_text_of_no_blankLine {t : Text} (h : ∀ line ∈ lines t, ¬ IsBlankLine line)
    (p : Parser) : p.run (.items (contentLines none t) none) = p.run (.text t) := by
  refine run_congr ?_ rfl
  rw [lines_contentLines, contentLines_eq, flatMap_groups_filter h]
  rfl

/-- The first line of blanks, if there is one. -/
theorem exists_first_blankLine (ls : List Text) :
    (∀ line ∈ ls, ¬ IsBlankLine line) ∨
      ∃ before w behind, ls = before ++ w :: behind ∧ IsBlankLine w ∧
        ∀ line ∈ before, ¬ IsBlankLine line := by
  cases hfind : ls.find? (IsBlankLine ·) with
  | none =>
    left
    simpa using hfind
  | some w =>
    right
    obtain ⟨hw, before, behind, hls, hbefore⟩ := List.find?_eq_some_iff_append.mp hfind
    exact ⟨before, w, behind, hls, by simpa using hw, by simpa using hbefore⟩

/-- A rule file has the outcome of a rule text: of its lines that hold rules, as they are. Of the
whole text of a file without comments the outcome is the same as well, except where a line of
blanks comes before any line that stops the parser; then the first of them is rejected. -/
theorem load_agrees_with_run {tree : FileTree} {path t : Text}
    (hfile : tree.read (.ofText path) = .ok (Utf8.encode t)) (hmark : t.head? ≠ some '\ufeff')
    (p : Parser) :
    (∀ mark, (load tree path p mark).outcome.1 =
      (p.run (.text (join ['\n'] ((lines t).filter (HoldsRule mark))))).mapError .parse) ∧
    (∀ before w behind, lines t = before ++ w :: behind → IsBlankLine w →
      (∀ line ∈ before, ¬ IsBlankLine line) → GetsThrough p before →
      p.run (.text t) = .error (.rule (.notPair w))) ∧
    ((∀ before w behind, lines t = before ++ w :: behind → IsBlankLine w →
        ¬ GetsThrough p before) →
      (p.run (.text t)).mapError .parse = (load tree path p none).outcome.1) := by
  have hread : (readText tree (.ofText path)).outcome.1 = .ok t :=
    outcome_readText hfile (decode_encode hmark)
  refine ⟨?_, ?_, ?_⟩
  · intro mark
    rw [outcome_load hread, ← run_join_contentLines, contentLines_eq]
  · intro before w behind hlines hw hblank
    exact run_text_of_getsThrough hlines hblank hw
  · intro hstops
    rw [outcome_load hread]
    obtain hnone | ⟨before, w, behind, hlines, hw, hblank⟩ := exists_first_blankLine (lines t)
    · rw [run_text_of_no_blankLine hnone]
    · rw [run_text_of_not_getsThrough hlines hblank (hstops before w behind hlines hw)]

theorem load_agrees_with_run_blanks :
    let t : Text := "a, b\\\r\n\n \t\n#x\n\u00a0y, z"
    let u : Text := "a\n "
    let p : Parser := {}
    let tree : FileTree :=
      { workingDirectory := []
        files := ⟨[(["rules"], Utf8.encode t), (["other"], Utf8.encode u)], by decide⟩ }
    (load tree "rules" p (some "#")).outcome.1 =
      (p.run (.text "a, b\\\n\u00a0y, z")).mapError .parse ∧
    p.run (.text t) = .error (.rule (.notPair " \t")) ∧
    (load tree "rules" p none).outcome.1 = .error (.parse (.rule (.notPair "#x"))) ∧
    (p.run (.text u)).mapError .parse = (load tree "other" p none).outcome.1 := by
  intro t u p tree
  have hfirst : tree.read (.ofText "rules") = .ok (Utf8.encode t) := by decide +kernel
  have hsecond : tree.read (.ofText "other") = .ok (Utf8.encode u) := by decide +kernel
  obtain ⟨hload, hblank, -⟩ := load_agrees_with_run hfirst (by decide) p
  obtain ⟨-, -, hsame⟩ := load_agrees_with_run hsecond (by decide) p
  have hcontent : (lines t).filter (HoldsRule (some "#")) =
      (["a, b\\", "\u00a0y, z"] : List Text) := by
    decide +kernel
  have hgets : GetsThrough p ["a, b\\", []] :=
    ⟨Graph.ofEdges true [⟨["a"], ["a"], false⟩, ⟨["b\\"], ["a"], false⟩], by decide +kernel⟩
  refine ⟨?_, ?_, ?_, ?_⟩
  · rw [hload, hcontent]
    rfl
  · exact hblank ["a, b\\", []] " \t" ["#x", "\u00a0y, z"] (by decide) (by decide) (by decide) hgets
  · have hrun : p.run (.text (join ['\n'] ((lines t).filter (HoldsRule none)))) =
        .error (.rule (.notPair "#x")) := by decide +kernel
    rw [hload, hrun]
    rfl
  · apply hsame
    rintro before w behind hlines hw ⟨g, hg⟩
    have hboth : before ++ w :: behind = (["a", " "] : List Text) := hlines.symm.trans (by decide)
    rcases before with _ | ⟨line, before⟩
    · obtain ⟨rfl, -⟩ := List.cons.inj hboth
      exact absurd hw (by decide)
    · obtain ⟨rfl, -⟩ := List.cons.inj hboth
      have hlength := congrArg List.length hboth
      simp only [List.length_append, List.length_cons, List.length_nil] at hlength
      obtain rfl : before = [] := List.length_eq_zero_iff.mp (by omega)
      have hfails : p.run (.items ((["a"] : List Text).filter (HoldsRule none)) none) =
          .error (.rule (.notPair "a")) := by decide +kernel
      rw [hfails] at hg
      exact absurd hg nofun

end Thesaurus.RuleFile
