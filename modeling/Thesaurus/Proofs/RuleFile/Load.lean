import Thesaurus.Proofs.Encoding.Utf8
import Thesaurus.Proofs.Rules.Outcome
import Thesaurus.Proofs.Text.Lines
import Thesaurus.RuleFile

/-!
# Loading a rule file

Loading has the outcome of a parser on the lines that hold rules. Main facts: `outcome_readText`
for the text of a file and `outcome_load` for its graph.
-/

set_option autoImplicit false

namespace Thesaurus

theorem FileTree.exists?_of_read {tree : FileTree} {p : Path} {bytes : Bytes}
    (h : tree.read p = .ok bytes) : tree.exists? p = .ok true := by
  cases hplace : tree.locate p with
  | error cause =>
    rw [FileTree.read, hplace] at h
    exact absurd h nofun
  | ok place =>
    cases hentry : tree.entry place with
    | file content => simp [FileTree.exists?, hplace, hentry]
    | directory => simp [FileTree.exists?, hplace, hentry]
    | nothing =>
      have hmissing : tree.read p = .error .missing := by
        simp only [FileTree.read, hplace, hentry, bind, Except.bind]
        rfl
      rw [h] at hmissing
      exact absurd hmissing nofun

namespace RuleFile

open Rules Text

theorem decode_encode {t : Text} (h : t.head? ≠ some '\ufeff') :
    decode (Utf8.encode t) = some (t, false) := by
  rw [decode, Utf8.marked?_encode, Utf8.dropMark_encode h, Utf8.decode?_encode]

/-- A file that is there is read without a word unless characters had to be replaced. -/
theorem readText_outcome {tree : FileTree} {path : Path} {bytes : Bytes} {t : Text}
    {replaced : Bool} (hread : tree.read path = .ok bytes)
    (hdecode : decode bytes = some (t, replaced)) :
    (readText tree path).outcome =
      (.ok t, if replaced then [.charactersReplaced path.text] else []) := by
  rw [readText, FileTree.exists?_of_read hread, hread]
  simp only [hdecode]
  cases replaced <;> rfl

theorem outcome_readText {tree : FileTree} {path : Path} {bytes : Bytes} {t : Text}
    {replaced : Bool} (hread : tree.read path = .ok bytes)
    (hdecode : decode bytes = some (t, replaced)) : (readText tree path).outcome.1 = .ok t := by
  rw [readText_outcome hread hdecode]

theorem run_parsing {α : Type} (step : Step α) (s : Session) (events : Array Event) :
    (parsing step s).run.run events =
      ((step.runFrom s).1.mapError .parse, events ++ (step.runFrom s).2.events) := by
  rw [parsing]
  cases h : step.runFrom s with
  | mk outcome after => cases outcome <;> rfl

theorem outcome_load_error {tree : FileTree} {path : Text} {p : Parser} {mark : Option Text}
    {cause : ReadError} (hread : (readText tree (.ofText path)).outcome.1 = .error cause) :
    (load tree path p mark).outcome.1 = .error (.read cause) := by
  have htext := run_adapt (Prod.ext hread rfl) LoadError.read
  rw [load, Reporting.outcome, run_bind_error htext]

theorem outcome_load {tree : FileTree} {path t : Text} {p : Parser} {mark : Option Text}
    (hread : (readText tree (.ofText path)).outcome.1 = .ok t) :
    (load tree path p mark).outcome.1 =
      (p.run (.items (contentLines mark t) none)).mapError .parse := by
  have htext := run_adapt (Prod.ext hread rfl) LoadError.read
  have hparse := run_parsing (p.graph (.items (contentLines mark t) none)) p.start
    (readText tree (.ofText path)).outcome.2.toArray
  rw [load, Reporting.outcome, run_bind_ok htext]
  rw [Parser.run]
  cases hgraph : ((p.graph (.items (contentLines mark t) none)).runFrom p.start).1 with
  | error cause =>
    rw [hgraph] at hparse
    rw [run_bind_error hparse]
    rfl
  | ok g =>
    rw [hgraph] at hparse
    rw [run_bind_ok hparse]
    rfl

/-- A parser that fails has read the file before, and what both reported stands. -/
theorem load_of_failure {tree : FileTree} {path t : Text} {p : Parser} {said : List Event}
    {cause : ParseError} {after : Rules.Session}
    (hread : (readText tree (.ofText path)).outcome = (.ok t, said))
    (hgraph : (p.graph (.items (contentLines defaultCommentMark t) none)).runFrom p.start =
      (.error cause, after)) :
    (load tree path p).outcome = (.error (.parse cause), said ++ after.events.toList) := by
  have htext := run_adapt hread LoadError.read
  have hparse := run_parsing (p.graph (.items (contentLines defaultCommentMark t) none)) p.start
    said.toArray
  rw [hgraph] at hparse
  rw [load, Reporting.outcome, run_bind_ok htext, run_bind_error hparse]
  exact congrArg _ Array.toList_append

theorem lines_items {ls : List Text} (h : ∀ line ∈ ls, OneLine line) (failure : Option Text) :
    (Source.items ls failure).lines = ls := by
  refine (List.map_congr_left fun line hline => ?_).trans (List.map_id _)
  exact dropLineEnd_of_oneLine (h line hline)

theorem lines_contentLines (mark : Option Text) (t : Text) :
    (Source.items (contentLines mark t) none).lines = contentLines mark t :=
  lines_items (fun _ hline => oneLine_of_mem_lines (List.mem_of_mem_filter hline)) none

end RuleFile

end Thesaurus
