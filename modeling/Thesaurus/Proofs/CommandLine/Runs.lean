import Thesaurus.CommandLine.Run
import Thesaurus.Proofs.Rules.Steps

/-!
# Runs of commands

A part of a run ends with an outcome and prints a text; unless there is a log file, nothing else of
a run is seen but what is logged to standard error. Main facts: `ends_graph` for what every command
does first, and `ends_run` for a whole run, which leaves the commands themselves to be looked at.
-/

set_option autoImplicit false

namespace Thesaurus.CommandLine

/-- A console after a part of a run that has printed a text. -/
structure Console.Printed (before after : Console) (t : Text) : Prop where
  files : after.files = before.files
  logFile : after.logFile = none
  stdout : after.stdout = before.stdout ++ t

/-- A part of a run, begun without a log file, ends with an outcome and has printed a text. -/
def Ends {α : Type} (part : Session α) (c : Console) (outcome : Except Halt α) (t : Text) : Prop :=
  c.logFile = none → ∃ after, part.run.run c = (outcome, after) ∧ c.Printed after t

variable {α β ε : Type} {c : Console} {t u : Text}

theorem ends_pure (a : α) : Ends (pure a) c (.ok a) [] :=
  fun hlog => ⟨c, rfl, rfl, hlog, (List.append_nil _).symm⟩

theorem ends_throw (cause : Halt) : Ends (throw cause : Session α) c (.error cause) [] :=
  fun hlog => ⟨c, rfl, rfl, hlog, (List.append_nil _).symm⟩

theorem Ends.bind {first : Session α} {next : α → Session β} {a : α} {outcome : Except Halt β}
    (hfirst : Ends first c (.ok a) t)
    (hnext : ∀ after, c.Printed after t → Ends (next a) after outcome u) :
    Ends (first >>= next) c outcome (t ++ u) := by
  intro hlog
  obtain ⟨middle, hrun, hmiddle⟩ := hfirst hlog
  obtain ⟨after, hrun', hafter⟩ := hnext middle hmiddle hmiddle.logFile
  refine ⟨after, ?_, ?_, hafter.logFile, ?_⟩
  · rw [Rules.run_bind_ok hrun, hrun']
  · rw [hafter.files, hmiddle.files]
  · rw [hafter.stdout, hmiddle.stdout, List.append_assoc]

theorem Ends.bind_error {first : Session α} {cause : Halt} (hfirst : Ends first c (.error cause) t)
    (next : α → Session β) : Ends (first >>= next) c (.error cause) t := by
  intro hlog
  obtain ⟨after, hrun, hafter⟩ := hfirst hlog
  exact ⟨after, Rules.run_bind_error hrun next, hafter⟩

theorem ends_get_bind {next : Console → Session α} {outcome : Except Halt α}
    (h : Ends (next c) c outcome t) : Ends (get >>= next) c outcome t := h

theorem ends_print (line : Text) : Ends (Session.print line) c (.ok ()) (line ++ "\n") :=
  fun hlog => ⟨c.printLine line, rfl, rfl, hlog, List.append_assoc _ _ _⟩

theorem ends_log (events : List Event) : Ends (Session.log events) c (.ok ()) [] := by
  intro hlog
  refine ⟨c.log events, rfl, ?_, hlog, (List.append_nil _).symm⟩
  rw [Console.log, hlog]

theorem ends_logging {activity : Reporting ε α} {halt : ε → Session α} {cause : ε → Halt}
    (hhalt : ∀ e after, Ends (halt e) after (.error (cause e)) []) :
    Ends (Session.logging activity halt) c (activity.outcome.1.mapError cause) [] := by
  rw [Session.logging]
  cases houtcome : activity.outcome with
  | mk outcome events =>
    refine Ends.bind (ends_log events) fun after _ => ?_
    cases outcome with
    | ok a => exact ends_pure a
    | error e => exact hhalt e after

namespace Job

/-- How a run ends that cannot load its rule file. -/
def haltOf : LoadError → Halt
  | .read cause => .failure (.read cause)
  | .parse (.rule e) => .message (rejection e)
  | .parse cause => .failure (.parse cause)

/-- The graph of the rule file of a job in some files, or how its run ends. -/
def graphIn (files : FileTree) (j : Job) : Except Halt Graph :=
  (RuleFile.load files j.input.text j.parser).outcome.1.mapError haltOf

theorem ends_graph (j : Job) : Ends j.graph c (j.graphIn c.files) [] := by
  apply ends_get_bind
  apply ends_logging
  intro e after
  cases e with
  | read cause => exact ends_throw _
  | parse cause =>
    cases cause with
    | rule e => exact Ends.bind (ends_log _) fun _ _ => ends_throw _
    | edge cause => exact ends_throw _
    | source reason => exact ends_throw _

theorem ends_validate (j : Job) (g : Graph) (h : j.graphIn c.files = .ok g) :
    Ends j.validate c (.ok ()) ("Rules '" ++ j.input.text ++ "' OK" ++ "\n") := by
  have hgraph : Ends j.graph c (.ok g) [] := h ▸ j.ends_graph
  exact hgraph.bind fun _ _ => ends_print _

theorem ends_parse (j : Job) (hout : j.output = none) {g : Graph}
    (h : j.graphIn c.files = .ok g) : Ends j.parse c (.ok ()) (g.catalog.exportText ++ "\n") := by
  have hgraph : Ends j.graph c (.ok g) [] := h ▸ j.ends_graph
  refine hgraph.bind fun after _ => ?_
  rw [hout]
  exact ends_print _

theorem ends_parse_error (j : Job) {cause : Halt} (h : j.graphIn c.files = .error cause) :
    Ends j.parse c (.error cause) [] := by
  have hgraph : Ends j.graph c (.error cause) [] := h ▸ j.ends_graph
  exact hgraph.bind_error _

theorem ends_validate_error (j : Job) {cause : Halt} (h : j.graphIn c.files = .error cause) :
    Ends j.validate c (.error cause) [] := by
  have hgraph : Ends j.graph c (.error cause) [] := h ▸ j.ends_graph
  exact hgraph.bind_error _

end Job

theorem ends_forM {events : List Event} {f : Event → Session Unit}
    (hf : ∀ e c, Ends (f e) c (.ok ()) []) : Ends (events.forM f) c (.ok ()) [] := by
  induction events generalizing c with
  | nil => exact ends_pure ()
  | cons e events ih => exact Ends.bind (hf e c) fun after _ => ih

theorem ends_readSettings (env : Environment) (configFile : Text) :
    Ends (readSettings env configFile) c
      ((Settings.load c.files env (.ofText configFile)).outcome.1.mapError (.failure ∘ .settings))
      [] := by
  apply ends_get_bind
  cases (Settings.load c.files env (.ofText configFile)).outcome with
  | mk outcome events =>
    refine Ends.bind (ends_forM fun e c hlog => ?_) fun after _ => ?_
    · exact ⟨_, rfl, rfl, hlog, (List.append_nil _).symm⟩
    · cases outcome with
      | ok settings => exact ends_pure settings
      | error cause => exact ends_throw _

theorem ends_openLog {invocation : Invocation} (h : invocation.logFile = none) :
    Ends (openLog invocation) c (.ok ()) [] := by
  intro hlog
  rw [openLog, h]
  exact ⟨_, rfl, rfl, hlog, (List.append_nil _).symm⟩

theorem ends_run {files : FileTree} {env : Environment} {words : List Text} {configFile : Text}
    {settings : Settings} {invocation : Invocation} {job : Job} {outcome : Except Halt Unit}
    (hsettings : (Settings.load files env (.ofText configFile)).outcome.1 = .ok settings)
    (hwords : readInvocation words = .ok invocation) (hlog : invocation.logFile = none)
    (hjob : invocation.options.job? settings = some job)
    (hrun : ∀ c : Console, c.files = files → Ends (job.run invocation.command) c outcome t) :
    ∃ after, run files env words configFile = (outcome, after) ∧ after.files = files ∧
      after.stdout = t := by
  have hread : Ends (readSettings env configFile) { files } _ [] := ends_readSettings env configFile
  rw [hsettings] at hread
  have hends : Ends (session env words configFile) { files } outcome t := by
    rw [session]
    refine hread.bind fun middle hmiddle => ?_
    rw [hwords]
    dsimp only
    rw [hjob]
    refine (ends_openLog hlog).bind fun opened hopened => ?_
    exact hrun opened (by rw [hopened.files, hmiddle.files])
  obtain ⟨after, hafter, hprinted⟩ := hends rfl
  exact ⟨after, hafter, hprinted.files, hprinted.stdout⟩

end Thesaurus.CommandLine
