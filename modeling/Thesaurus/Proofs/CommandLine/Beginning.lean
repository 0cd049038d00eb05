import Thesaurus.Proofs.CommandLine.Runs

/-!
# How a run begins

A run reads its settings and its words before it does anything else. Until then nothing was printed
and no file was changed; only what there is to say of the settings stands on standard error. Main
fact: `run_eq`, behind which only a job is left to be carried out.
-/

set_option autoImplicit false

namespace Thesaurus.CommandLine

/-- What events say before logging is set up, each on a line of its own. -/
def spoken (events : List Event) : Text :=
  (Event.atLeast .warning events).flatMap fun e => e.text ++ ['\n']

/-- The console behind the settings. -/
def consoleAtStart (files : FileTree) (env : Environment) (configFile : Text) : Console :=
  { files, stderr := spoken (Settings.load files env (.ofText configFile)).outcome.2 }

theorem run_forM_stderr (events : List Event) (c : Console) :
    (events.forM fun e => (modify fun c => { c with stderr := c.stderr ++ e.text ++ "\n" } :
      Session Unit)).run.run c =
      (.ok (), { c with stderr := c.stderr ++ events.flatMap fun e => e.text ++ ['\n'] }) := by
  induction events generalizing c with
  | nil => exact congrArg (fun t => (_, { c with stderr := t })) (List.append_nil _).symm
  | cons e events ih =>
    have hassoc : c.stderr ++ (e.text ++ ['\n'] ++ events.flatMap fun e => e.text ++ ['\n']) =
        c.stderr ++ e.text ++ ['\n'] ++ events.flatMap fun e => e.text ++ ['\n'] := by
      simp only [List.append_assoc]
    rw [List.flatMap_cons, hassoc]
    exact ih { c with stderr := c.stderr ++ e.text ++ "\n" }

theorem run_readSettings (files : FileTree) (env : Environment) (configFile : Text) :
    (readSettings env configFile).run.run { files } =
      ((Settings.load files env (.ofText configFile)).outcome.1.mapError (.failure ∘ .settings),
        consoleAtStart files env configFile) := by
  have hfiles : (get : Session Console).run.run { files } = (.ok { files }, { files }) := rfl
  refine (Rules.run_bind_ok hfiles _).trans ?_
  dsimp only
  rw [consoleAtStart]
  obtain ⟨result, events⟩ := (Settings.load files env (.ofText configFile)).outcome
  refine (Rules.run_bind_ok (run_forM_stderr (Event.atLeast .warning events) _) _).trans ?_
  cases result <;> rfl

/-- A run that knows its settings and its words carries out a job; else it ends. -/
theorem run_eq (files : FileTree) (env : Environment) (words : List Text) (configFile : Text) :
    run files env words configFile =
      match (Settings.load files env (.ofText configFile)).outcome.1, readInvocation words with
      | .error cause, _ => (.error (.failure (.settings cause)), consoleAtStart files env configFile)
      | .ok _, .error cause => (.error (.refused cause), consoleAtStart files env configFile)
      | .ok settings, .ok invocation =>
        match invocation.options.job? settings with
        | none => (.error (.message noRules), consoleAtStart files env configFile)
        | some job =>
          (openLog invocation >>= fun _ => job.run invocation.command).run.run
            (consoleAtStart files env configFile) := by
  have hread := run_readSettings files env configFile
  rw [run, session]
  cases hsettings : (Settings.load files env (.ofText configFile)).outcome.1 with
  | error cause =>
    rw [hsettings] at hread
    exact Rules.run_bind_error hread _
  | ok settings =>
    rw [hsettings] at hread
    rw [Rules.run_bind_ok hread]
    cases readInvocation words with
    | error cause => rfl
    | ok invocation =>
      dsimp only
      cases invocation.options.job? settings <;> rfl

end Thesaurus.CommandLine
