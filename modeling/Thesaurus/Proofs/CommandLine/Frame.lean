import Thesaurus.Proofs.CommandLine.Beginning
import Thesaurus.Proofs.CommandLine.Commands
import Thesaurus.Proofs.CommandLine.Parts
import Thesaurus.Proofs.Files.Tree

/-!
# What a run writes

A run writes to its log file, and a graph that was asked for to a file of its own, as the last thing
it does but to log it. `Keeps` says of a part of a run what it leaves as it was, and the parts that
only log and print leave all other files alone. Main fact: `run_writes`.
-/

set_option autoImplicit false

namespace Thesaurus.CommandLine

section Keeps

variable {α β ε : Type} {holds : Console → Prop}

/-- What held of the console holds of it after a part of a run, whether or not this succeeds. -/
def Keeps (holds : Console → Prop) (part : Session α) : Prop :=
  ∀ c, holds c → holds (part.run.run c).2

theorem keeps_pure (a : α) : Keeps holds (pure a : Session α) := fun _ h => h

theorem keeps_throw (cause : Halt) : Keeps holds (throw cause : Session α) := fun _ h => h

theorem keeps_get_bind {next : Console → Session α} (h : ∀ c, Keeps holds (next c)) :
    Keeps holds (get >>= next) := fun c => h c c

theorem Keeps.bind {first : Session α} {next : α → Session β} (hfirst : Keeps holds first)
    (hnext : ∀ a, Keeps holds (next a)) : Keeps holds (first >>= next) := by
  intro c h
  have hmiddle := hfirst c h
  cases hrun : first.run.run c with
  | mk outcome middle =>
    rw [hrun] at hmiddle
    cases outcome with
    | error cause =>
      rw [Rules.run_bind_error hrun]
      exact hmiddle
    | ok a =>
      rw [Rules.run_bind_ok hrun]
      exact hnext a middle hmiddle

section Log

variable (hlog : ∀ events c, holds c → holds (c.log events))

include hlog

theorem keeps_log (events : List Event) : Keeps holds (Session.log events) := hlog events

theorem keeps_logging {activity : Reporting ε α} {halt : ε → Session α}
    (hhalt : ∀ e, Keeps holds (halt e)) : Keeps holds (Session.logging activity halt) := by
  rw [Session.logging]
  cases activity.outcome with
  | mk outcome events =>
    refine (keeps_log hlog events).bind fun _ => ?_
    cases outcome with
    | ok a => exact keeps_pure a
    | error e => exact hhalt e

theorem keeps_graph (j : Job) : Keeps holds j.graph := by
  refine keeps_get_bind fun c => keeps_logging hlog ?_
  rintro (cause | (cause | cause | cause))
  · exact keeps_throw _
  · exact (keeps_log hlog _).bind fun _ => keeps_throw _
  · exact keeps_throw _
  · exact keeps_throw _

variable (hprint : ∀ line, Keeps holds (Session.print line))

include hprint

theorem keeps_validate (j : Job) : Keeps holds j.validate :=
  (keeps_graph hlog j).bind fun _ => hprint _

theorem keeps_stats (j : Job) : Keeps holds j.stats := by
  refine keeps_get_bind fun c => (keeps_logging hlog fun _ => keeps_throw _).bind fun t => ?_
  refine (keeps_logging hlog ?_).bind fun g => ?_
  · rintro (cause | (cause | cause | cause)) <;> exact keeps_throw _
  · exact (hprint _).bind fun _ => (hprint _).bind fun _ =>
      (hprint _).bind fun _ => hprint _

theorem keeps_parse {j : Job} (h : j.output = none) : Keeps holds j.parse := by
  refine (keeps_graph hlog j).bind fun g => ?_
  rw [h]
  exact hprint _

end Log

end Keeps

section Log

/-- Where the log of an invocation is written to. -/
def Invocation.logPath? (files : FileTree) (invocation : Invocation) : Option Path :=
  invocation.logFile.map fun t => (Path.ofText t).settled files.workingDirectory

/-- The places that are written to on behalf of the log. -/
def Invocation.logPlaces (files : FileTree) (invocation : Invocation) : List (List Text) :=
  ((invocation.logPath? files).bind fun path => (files.locate path).toOption).toList

/-- Since its files were those of an earlier tree, a console only wrote to the log. -/
structure Console.OnlyLogged (before : FileTree) (log : List (List Text)) (c : Console) : Prop where
  files : before.SameBut c.files log
  logFile : ∀ path, c.logFile = some path → ∃ place ∈ log, c.files.locate path = .ok place

variable {before : FileTree} {log : List (List Text)}

theorem files_log (events : List Event) (c : Console) : (c.log events).files = c.files ∨
    ∃ path bytes, c.logFile = some path ∧ c.files.append path bytes = .ok (c.log events).files := by
  rw [Console.log]
  dsimp only
  cases c.logFile with
  | none => exact .inl rfl
  | some path =>
    dsimp only
    cases hwrite : c.files.append path _ with
    | error cause => exact .inl rfl
    | ok files => exact .inr ⟨path, _, rfl, hwrite⟩

theorem locate_log {c : Console} {path : Path} {place : List Text}
    (h : c.files.locate path = .ok place) (events : List Event) :
    (c.log events).files.locate path = .ok place := by
  obtain hfiles | ⟨_, _, -, hwrite⟩ := files_log events c
  · rw [hfiles, h]
  · exact FileTree.locate_of_update hwrite h

theorem onlyLogged_log (events : List Event) (c : Console) (h : c.OnlyLogged before log) :
    (c.log events).OnlyLogged before log where
  files := by
    obtain hfiles | ⟨path, _, hpath, hwrite⟩ := files_log events c
    · exact hfiles ▸ h.files
    · obtain ⟨place, hmem, hplace⟩ := h.logFile path hpath
      exact h.files.trans (FileTree.sameBut_of_update hwrite hplace hmem)
  logFile := fun path hpath => by
    obtain ⟨place, hmem, hplace⟩ := h.logFile path hpath
    exact ⟨place, hmem, locate_log hplace events⟩

theorem keeps_onlyLogged_print (line : Text) :
    Keeps (Console.OnlyLogged before log) (Session.print line) :=
  fun _ h => ⟨h.files, h.logFile⟩

theorem run_openLog (invocation : Invocation) (c : Console) :
    (openLog invocation).run.run c =
      let least := leastLevel invocation.verbosity
      match invocation.logPath? c.files with
      | none => (.ok (), { c with least })
      | some path =>
        match c.files.append path [] with
        | .error cause => (.error (.failure (.file cause)), { c with least })
        | .ok files => (.ok (), { c with least, files, logFile := some path }) := by
  have hlevel : (modify fun c => { c with least := leastLevel invocation.verbosity } :
      Session Unit).run.run c = (.ok (), { c with least := leastLevel invocation.verbosity }) := rfl
  rw [openLog, Rules.run_bind_ok hlevel, Invocation.logPath?]
  cases invocation.logFile with
  | none => rfl
  | some t =>
    have hget (c : Console) : (get : Session Console).run.run c = (.ok c, c) := rfl
    dsimp only [Option.map_some]
    refine (Rules.run_bind_ok (hget _) _).trans ?_
    dsimp only
    cases c.files.append ((Path.ofText t).settled c.files.workingDirectory) [] <;> rfl

theorem stdout_openLog (invocation : Invocation) (c : Console) :
    ((openLog invocation).run.run c).2.stdout = c.stdout := by
  rw [run_openLog]
  dsimp only
  split
  · rfl
  · split <;> rfl

theorem onlyLogged_openLog {c : Console} (hlog : c.logFile = none) (invocation : Invocation) :
    ((openLog invocation).run.run c).2.OnlyLogged c.files (invocation.logPlaces c.files) := by
  have hunlogged : ∀ path, c.logFile = some path →
      ∃ place ∈ invocation.logPlaces c.files, c.files.locate path = .ok place :=
    fun path hpath => absurd (hlog.symm.trans hpath) nofun
  rw [run_openLog]
  dsimp only
  split
  · exact ⟨.refl _ _, hunlogged⟩
  · next path hpath =>
    split
    · exact ⟨.refl _ _, hunlogged⟩
    · next files hwrite =>
      obtain ⟨place, hplace, -⟩ := FileTree.update_eq_ok hwrite
      have hmem : place ∈ invocation.logPlaces c.files := by
        rw [Invocation.logPlaces, hpath, Option.bind_some, hplace]
        exact List.mem_singleton_self place
      refine ⟨FileTree.sameBut_of_update hwrite hplace hmem, fun path' hpath' => ⟨place, hmem, ?_⟩⟩
      rw [← Option.some.inj hpath']
      exact FileTree.locate_of_update hwrite hplace

end Log

section Jobs

variable {j : Job} {c : Console} {path : Path}

theorem run_parse_print (h : j.output = none) (c : Console) :
    j.parse.run.run c =
      match j.graph.run.run c with
      | (.error cause, after) => (.error cause, after)
      | (.ok g, after) => (.ok (), after.printLine g.catalog.exportText) := by
  cases hgraph : j.graph.run.run c with
  | mk outcome after =>
    cases outcome with
    | error cause => exact Rules.run_bind_error hgraph _
    | ok g =>
      refine (Rules.run_bind_ok hgraph _).trans ?_
      rw [h]
      rfl

/-- A graph is written when it is there and has a place; after that only the log is. -/
theorem run_parse_save (h : j.output = some path) (c : Console) :
    j.parse.run.run c =
      match j.graph.run.run c with
      | (.error cause, after) => (.error cause, after)
      | (.ok g, after) =>
        match g.save after.files path with
        | .error cause => (.error (.failure (.file cause)), after)
        | .ok files => (.ok (), { after with files }.log [.graphWritten path.text]) := by
  cases hgraph : j.graph.run.run c with
  | mk outcome after =>
    cases outcome with
    | error cause => exact Rules.run_bind_error hgraph _
    | ok g =>
      refine (Rules.run_bind_ok hgraph _).trans ?_
      rw [h]
      dsimp only
      change (match g.save after.files path with
        | .error cause => Session.fail (.file cause)
        | .ok files => do
          modify fun c => { c with files }
          Session.log [.graphWritten path.text] : Session Unit).run.run after = _
      cases g.save after.files path <;> rfl

variable {before : FileTree} {log : List (List Text)} (h : c.OnlyLogged before log)

include h

theorem onlyLogged_run {command : Command} (hout : command = .parse → j.output = none) :
    ((j.run command).run.run c).2.OnlyLogged before log := by
  cases command with
  | parse => exact keeps_parse onlyLogged_log keeps_onlyLogged_print (hout rfl) c h
  | validate => exact keeps_validate onlyLogged_log keeps_onlyLogged_print j c h
  | stats => exact keeps_stats onlyLogged_log keeps_onlyLogged_print j c h

theorem onlyLogged_parse_of_error (hout : j.output = some path)
    (herror : (j.parse.run.run c).1 ≠ .ok ()) : (j.parse.run.run c).2.OnlyLogged before log := by
  have hgraph := keeps_graph onlyLogged_log j c h
  rw [run_parse_save hout] at herror ⊢
  split
  · next hrun =>
    rw [hrun] at hgraph
    exact hgraph
  · next g after hrun =>
    rw [hrun] at hgraph herror
    dsimp only at herror
    cases hsave : g.save after.files path with
    | error cause => exact hgraph
    | ok files =>
      rw [hsave] at herror
      exact absurd rfl herror

/-- What is saved is what is printed when no output is given. -/
theorem saved_of_parse (hout : j.output = some path) (hok : (j.parse.run.run c).1 = .ok ()) :
    ∃ place t, (j.parse.run.run c).2.files.locate path = .ok place ∧
      before.SameBut (j.parse.run.run c).2.files (place :: log) ∧
      (place ∉ log → (j.parse.run.run c).2.files.files.get? place = some (Utf8.encode t)) ∧
      (({ j with output := none } : Job).parse.run.run c).1 = .ok () ∧
      (({ j with output := none } : Job).parse.run.run c).2.stdout = c.stdout ++ t ++ "\n" := by
  have hgraph := keeps_graph onlyLogged_log j c h
  have hstdout : Keeps (fun after => after.stdout = c.stdout) j.graph :=
    keeps_graph (fun _ _ => id) j
  replace hstdout := hstdout c rfl
  have hplain := run_parse_print (j := { j with output := none }) rfl c
  have hsame : ({ j with output := none } : Job).graph = j.graph := rfl
  rw [hsame] at hplain
  rw [hplain]
  rw [run_parse_save hout] at hok ⊢
  cases hrun : j.graph.run.run c with
  | mk outcome after =>
    rw [hrun] at hgraph hstdout hok
    cases outcome with
    | error cause => exact absurd hok nofun
    | ok g =>
      dsimp only at hok ⊢
      cases hsave : g.save after.files path with
      | error cause =>
        rw [hsave] at hok
        exact absurd hok nofun
      | ok files =>
        have hwrite : after.files.write path (Utf8.encode g.catalog.exportText) = .ok files := hsave
        obtain ⟨place, hplace, -⟩ := FileTree.update_eq_ok hwrite
        have hsaved : ({ after with files } : Console).OnlyLogged files log :=
          ⟨.refl _ _, fun path' hpath' => by
            obtain ⟨logged, hmem, hlogged⟩ := hgraph.logFile path' hpath'
            exact ⟨logged, hmem, FileTree.locate_of_update hwrite hlogged⟩⟩
        -- The log is written once more behind the graph, but not to its place.
        have hlogged := (onlyLogged_log [.graphWritten path.text] _ hsaved).files
        refine ⟨place, g.catalog.exportText, ?_, ?_, fun hother => ?_, rfl, ?_⟩
        · exact locate_log (c := { after with files })
            (FileTree.locate_of_update hwrite hplace) _
        · have hmore : log ⊆ place :: log := List.subset_cons_self _ _
          exact (hgraph.files.mono hmore).trans
            ((FileTree.sameBut_of_update hwrite hplace List.mem_cons_self).trans
              (hlogged.mono hmore))
        · exact (hlogged.files place hother).trans (FileTree.get?_of_write hwrite hplace)
        · exact congrArg (· ++ g.catalog.exportText ++ "\n") hstdout

end Jobs

section Run

/-- The places that a run may write its log to. -/
def logPlaces (files : FileTree) (words : List Text) : List (List Text) :=
  match readInvocation words with
  | .error _ => []
  | .ok invocation => invocation.logPlaces files

theorem job?_without_output {o : CommandOptions} {settings : Settings} {job : Job}
    (h : o.job? settings = some job) : ({ o with output := none } : CommandOptions).job? settings =
      some { job with output := none } := by
  rw [CommandOptions.job?] at h ⊢
  split at h
  · cases h
  · next input hinput =>
    rw [← Option.some.inj h, hinput]
    rfl

variable {files : FileTree} {env : Environment} {words : List Text} {configFile : Text}
  {invocation : Invocation}

theorem run_of_job {settings : Settings} {job : Job} {c : Console}
    (hsettings : (Settings.load files env (.ofText configFile)).outcome.1 = .ok settings)
    (hwords : readInvocation words = .ok invocation)
    (hjob : invocation.options.job? settings = some job)
    (hlog : (openLog invocation).run.run (consoleAtStart files env configFile) = (.ok (), c)) :
    run files env words configFile = (job.run invocation.command).run.run c := by
  rw [run_eq, hsettings, hwords]
  dsimp only
  rw [hjob]
  exact Rules.run_bind_ok hlog _

/-- A run that gets to its command carries out a job on a console that has only opened its log. -/
theorem run_cases (files : FileTree) (env : Environment) (words : List Text) (configFile : Text) :
    (∃ cause after, run files env words configFile = (.error cause, after) ∧
      files.SameBut after.files (logPlaces files words)) ∨
    ∃ settings invocation job c,
      (Settings.load files env (.ofText configFile)).outcome.1 = .ok settings ∧
      readInvocation words = .ok invocation ∧ invocation.options.job? settings = some job ∧
      (openLog invocation).run.run (consoleAtStart files env configFile) = (.ok (), c) ∧
      c.OnlyLogged files (logPlaces files words) ∧ c.stdout = [] ∧
      run files env words configFile = (job.run invocation.command).run.run c := by
  rw [run_eq, logPlaces]
  cases (Settings.load files env (.ofText configFile)).outcome.1 with
  | error cause => exact .inl ⟨_, _, rfl, .refl _ _⟩
  | ok settings =>
    cases readInvocation words with
    | error cause => exact .inl ⟨_, _, rfl, .refl _ _⟩
    | ok invocation =>
      dsimp only
      cases hjob : invocation.options.job? settings with
      | none => exact .inl ⟨_, _, rfl, .refl _ _⟩
      | some job =>
        have hopen := onlyLogged_openLog (c := consoleAtStart files env configFile) rfl invocation
        have hstdout := stdout_openLog invocation (consoleAtStart files env configFile)
        dsimp only
        cases hlog : (openLog invocation).run.run (consoleAtStart files env configFile) with
        | mk outcome c =>
          rw [hlog] at hopen hstdout
          cases outcome with
          | error cause => exact .inl ⟨cause, c, Rules.run_bind_error hlog _, hopen.files⟩
          | ok _ =>
            exact .inr ⟨settings, invocation, job, c, rfl, rfl, hjob, hlog, hopen, hstdout,
              Rules.run_bind_ok hlog _⟩

/-- A run that does not end well has changed no file but its log, and neither has one that was not
to write a graph. A graph that was to be written is there when the run ends well: unless the log
goes to the same place, the file holds what the same words without an output have printed, but for
the newline at the end. -/
theorem run_writes (files : FileTree) (env : Environment) (words : List Text) (configFile : Text) :
    let outcome := (run files env words configFile).1
    let after := (run files env words configFile).2.files
    let log := logPlaces files words
    (outcome ≠ .ok () → files.SameBut after log) ∧
    (∀ invocation, readInvocation words = .ok invocation →
      invocation.command ≠ .parse ∨ invocation.options.output = none → files.SameBut after log) ∧
    (outcome = .ok () → ∃ invocation, readInvocation words = .ok invocation ∧
      ∀ t, invocation.command = .parse → invocation.options.output = some t →
        ∃ place content front, after.locate (.ofText t) = .ok place ∧
          files.SameBut after (place :: log) ∧
          (place ∉ log → after.files.get? place = some (Utf8.encode content)) ∧
          words = front ++ Command.parse.name :: behindCommand words ∧
          let plain := front ++ Command.parse.name :: withoutOutput (behindCommand words)
          readInvocation plain =
            .ok { invocation with options := { invocation.options with output := none } } ∧
          (run files env plain configFile).1 = .ok () ∧
          (run files env plain configFile).2.stdout = content ++ "\n") := by
  intro outcome after log
  obtain ⟨cause, after', hrun, hsame⟩ | ⟨settings, invocation, job, c, hsettings, hwords, hjob,
    hlog, hopen, hstdout, hrun⟩ := run_cases files env words configFile
  · have hfiles : files.SameBut after log := by
      rw [show after = after'.files from congrArg (·.2.files) hrun]
      exact hsame
    refine ⟨fun _ => hfiles, fun _ _ _ => hfiles, fun hok => ?_⟩
    exact absurd ((congrArg Prod.fst hrun).symm.trans hok) nofun
  · have houtcome : outcome = ((job.run invocation.command).run.run c).1 := congrArg Prod.fst hrun
    have hafter : after = ((job.run invocation.command).run.run c).2.files :=
      congrArg (·.2.files) hrun
    have hout := output_of_job? hjob
    -- Only a graph that is saved is written elsewhere than to the log.
    have hquiet (hcommand : invocation.command = .parse → job.output = none) :
        files.SameBut after log := by
      rw [hafter]
      exact (onlyLogged_run hopen hcommand).files
    refine ⟨fun herror => ?_, fun invocation' hwords' hother => hquiet fun hparse => ?_,
      fun hok => ⟨invocation, hwords, fun t hparse ht => ?_⟩⟩
    · by_cases hcommand : invocation.command = .parse → job.output = none
      · exact hquiet hcommand
      · obtain ⟨hparse, hsome⟩ := Classical.not_imp.mp hcommand
        obtain ⟨path, hpath⟩ := Option.ne_none_iff_exists'.mp hsome
        rw [houtcome, hparse] at herror
        rw [hafter, hparse]
        exact (onlyLogged_parse_of_error hopen hpath herror).files
    · obtain rfl := Except.ok.inj (hwords.symm.trans hwords')
      rw [hout, hother.resolve_left (not_not_intro hparse)]
      rfl
    · rw [ht] at hout
      have hparsed : after = (job.parse.run.run c).2.files := by
        rw [hafter, hparse]
        rfl
      rw [houtcome, hparse] at hok
      rw [hparsed]
      obtain ⟨place, content, hplace, hsame, hcontent, hplain, hprinted⟩ :=
        saved_of_parse hopen hout hok
      obtain ⟨front, hfront, hplainWords⟩ := readInvocation_withoutOutput hwords hparse
      refine ⟨place, content, front, hplace, hsame, hcontent, hfront, hplainWords, ?_⟩
      rw [run_of_job hsettings hplainWords (job?_without_output hjob) hlog]
      rw [hparse]
      refine ⟨hplain, hprinted.trans ?_⟩
      rw [hstdout]
      rfl

theorem run_writes_over_input :
    let files : FileTree :=
      { workingDirectory := []
        files := ⟨[(["rules"], Utf8.encode "NY, new york"), (["broken"], Utf8.encode "NY")],
          by decide⟩ }
    let front : List Text := ["--log-f", "log", "-vv"]
    let args : List Text := ["--out=rules", "--no-exp", "rules"]
    let plain : List Text := ["--no-exp", "rules"]
    let broken : List Text := ["broken", "--output", "rules"]
    let line (args : List Text) := front ++ Command.parse.name :: args
    ((run files ∅ (line args)).1 = .ok () ∧ ∃ content,
      (run files ∅ (line args)).2.files.files.get? ["rules"] = some (Utf8.encode content) ∧
      (run files ∅ (line plain)).2.stdout = content ++ "\n" ∧
      files.SameBut (run files ∅ (line args)).2.files [["rules"], ["log"]]) ∧
    (run files ∅ (line broken)).1 ≠ .ok () ∧
      files.SameBut (run files ∅ (line broken)).2.files [["log"]] := by
  intro files front args plain broken line
  have hok : (run files ∅ (line args)).1 = .ok () := by decide +kernel
  have herror : (run files ∅ (line broken)).1 ≠ .ok () := by decide +kernel
  have hlog : logPlaces files (line args) = [["log".toList]] := by decide +kernel
  have hquiet : logPlaces files (line broken) = [["log".toList]] := by decide +kernel
  have hplace : (run files ∅ (line args)).2.files.locate (.ofText "rules") =
      .ok ["rules".toList] := by decide +kernel
  have hbehind : behindCommand (line args) = args := by decide +kernel
  have hplain : withoutOutput args = plain := by decide +kernel
  obtain ⟨invocation, hwords, hsaved⟩ := (run_writes files ∅ (line args) Settings.fileName).2.2 hok
  have hinvocation : readInvocation (line args) = .ok
      { verbosity := 2, logFile := some "log", command := .parse
        options := { input := some "rules", output := some "rules", expand := some false } } := by
    decide +kernel
  obtain rfl := Except.ok.inj (hinvocation.symm.trans hwords)
  obtain ⟨place, content, front', hplace', hsame, hcontent, hfront, -, -, hprinted⟩ :=
    hsaved "rules" rfl rfl
  rw [hplace] at hplace'
  obtain rfl := Except.ok.inj hplace'
  rw [hbehind] at hfront hprinted
  have hline : front ++ Command.parse.name :: plain = line plain := rfl
  rw [← List.append_cancel_right hfront, hplain, hline] at hprinted
  rw [hlog] at hsame hcontent
  have hbroken := (run_writes files ∅ (line broken) Settings.fileName).1 herror
  rw [hquiet] at hbroken
  exact ⟨⟨hok, content, hcontent (by decide), hprinted, hsame⟩, herror, hbroken⟩

end Run

end Thesaurus.CommandLine
