import Thesaurus.Proofs.CommandLine.Frame
import Thesaurus.Proofs.Rules.Rejected

/-!
# Commands on rules that are rejected

A command that reads its rule file and finds the rules rejected ends with the reason. Two of the
commands log that the file is faulty as the last thing they do, the third one says nothing of it.
Main fact: `run_rejected`.
-/

set_option autoImplicit false

namespace Thesaurus

open Rules RuleFile

theorem Event.atLeast_append (least : Level) (front back : List Event) :
    atLeast least (front ++ back) = atLeast least front ++ atLeast least back :=
  List.filter_append ..

namespace CommandLine

variable {c : Console}

theorem Console.log_log (c : Console) (front back : List Event) :
    (c.log front).log back = c.log (front ++ back) := by
  simp only [Console.log, Event.atLeast_append, List.flatMap_append, List.append_assoc,
    Console.mk.injEq, and_true]
  cases c.logFile with
  | none => rfl
  | some path =>
    dsimp only
    rw [Utf8.encode, Utf8.encode, Utf8.encode, List.flatMap_append]
    exact c.files.getD_append_append path _ _

section Logging

variable {α ε : Type} {activity : Reporting ε α} {halt : ε → Session α} {events : List Event}

theorem run_logging_ok {a : α} (h : activity.outcome = (.ok a, events)) :
    (Session.logging activity halt).run.run c = (.ok a, c.log events) := by
  rw [Session.logging, h]
  rfl

theorem run_logging_error {e : ε} (h : activity.outcome = (.error e, events)) :
    (Session.logging activity halt).run.run c = (halt e).run.run (c.log events) := by
  rw [Session.logging, h]
  rfl

end Logging

namespace Job

/-- The rule file of a job is read, possibly with characters replaced, and its rules are rejected. -/
def Rejects (files : FileTree) (j : Job) (replaced : Bool) (e : RuleError) : Prop :=
  ∃ bytes t, files.read j.input = .ok bytes ∧ decode bytes = some (t, replaced) ∧
    j.parser.run (source t) = .error (.rule e)

/-- What there is to say of the bytes of a rule file. -/
def damage (j : Job) (replaced : Bool) : List Event :=
  if replaced then [.charactersReplaced j.input.text] else []

/-- What a command has to say of rules that are rejected. -/
def complaints (j : Job) (e : RuleError) : Command → List Event
  | .parse | .validate => [.rulesFaulty j.input.text e.message]
  | .stats => []

variable {files : FileTree} {j : Job} {replaced : Bool} {e : RuleError}

theorem Rejects.exists_run (h : j.Rejects files replaced e) :
    ∃ t after, (readText files j.input).outcome = (.ok t, j.damage replaced) ∧ after.OnlyDebug ∧
      (j.parser.graph (source t)).runFrom j.parser.start = (.error (.rule e), after) := by
  obtain ⟨bytes, t, hread, hdecode, hrun⟩ := h
  obtain ⟨after, hdebug, -, hgraph⟩ := exists_rejected (Analyzer.neverEmpty_normalizer _) hrun
  exact ⟨t, after, readText_outcome hread hdecode, hdebug, hgraph⟩

theorem run_graph_rejected (hplain : j.input.Plain) {t : Text} {said : List Event}
    {after : Rules.Session} (hread : (readText c.files j.input).outcome = (.ok t, said))
    (hgraph : (j.parser.graph (source t)).runFrom j.parser.start = (.error (.rule e), after)) :
    j.graph.run.run c = (.error (.message (rejection e)),
      c.log (said ++ after.events.toList ++ [.rulesFaulty j.input.text e.message])) := by
  rw [← Path.ofText_text hplain] at hread
  have hload := load_of_failure hread hgraph
  have hfiles : (get : Session Console).run.run c = (.ok c, c) := rfl
  rw [← Console.log_log, Job.graph, run_bind_ok hfiles]
  dsimp only
  rw [run_logging_error hload]
  rfl

theorem run_stats_rejected {t : Text} {said : List Event} {after : Rules.Session}
    (hread : (readText c.files j.input).outcome = (.ok t, said))
    (hgraph : (j.parser.graph (source t)).runFrom j.parser.start = (.error (.rule e), after)) :
    j.stats.run.run c =
      (.error (.message (rejection e)), c.log (said ++ after.events.toList)) := by
  have hparse : (parsing (j.parser.graph (source t)) j.parser.start).outcome =
      (.error (.parse (.rule e)), after.events.toList) := by
    rw [Reporting.outcome, run_parsing, hgraph]
    exact congrArg _ (congrArg Array.toList (Array.empty_append))
  have hfiles : (get : Session Console).run.run c = (.ok c, c) := rfl
  rw [← Console.log_log, stats, run_bind_ok hfiles, run_bind_ok (run_logging_ok hread)]
  apply run_bind_error
  rw [← source, run_logging_error hparse]
  rfl

/-- Of all that a job logs before it ends with the rejection of its rules, the damage to the rule
file and the complaint of the command are the warnings. -/
theorem run_rejected (hplain : j.input.Plain) (h : j.Rejects c.files replaced e)
    (command : Command) :
    ∃ events, (j.run command).run.run c = (.error (.message (rejection e)), c.log events) ∧
      Event.atLeast .warning events = j.damage replaced ++ j.complaints e command := by
  obtain ⟨t, after, hread, hdebug, hgraph⟩ := h.exists_run
  have hdamage : Event.atLeast .warning (j.damage replaced) = j.damage replaced := by
    cases replaced <;> rfl
  have hfront : Event.atLeast .warning (j.damage replaced ++ after.events.toList) =
      j.damage replaced := by
    rw [Event.atLeast_append, hdamage, hdebug.atLeast, List.append_nil]
  have hcomplaint : Event.atLeast .warning (j.damage replaced ++ after.events.toList ++
      [.rulesFaulty j.input.text e.message]) =
      j.damage replaced ++ [.rulesFaulty j.input.text e.message] := by
    rw [Event.atLeast_append, hfront]
    rfl
  have hrun := run_graph_rejected hplain hread hgraph
  cases command with
  | parse => exact ⟨_, run_bind_error hrun _, hcomplaint⟩
  | validate => exact ⟨_, run_bind_error hrun _, hcomplaint⟩
  | stats => exact ⟨_, run_stats_rejected hread hgraph, hfront.trans (List.append_nil _).symm⟩

theorem suffix_of_complaints {command : Command} {event : Event}
    (h : event ∈ j.complaints e command) : e.message <:+ event.text := by
  cases command with
  | parse | validate =>
    rw [List.mem_singleton.mp h]
    exact List.suffix_append _ _
  | stats => exact absurd h List.not_mem_nil

end Job

/-- Whatever is asked for, warnings are logged. -/
theorem least_of_openLog {invocation : Invocation} {opened : Console}
    (h : (openLog invocation).run.run c = (.ok (), opened)) :
    opened.least.rank ≤ Level.warning.rank := by
  have hleast (n : Nat) : (leastLevel n).rank ≤ Level.warning.rank := by
    match n with
    | 0 | 1 => decide
    | _ + 2 => exact (by decide : Level.debug.rank ≤ Level.warning.rank)
  have hopened : opened = ((openLog invocation).run.run c).2 := by rw [h]
  rw [hopened, run_openLog]
  dsimp only
  split
  · exact hleast _
  · split <;> exact hleast _

end CommandLine

end Thesaurus
