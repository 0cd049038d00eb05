import Thesaurus.Proofs.CommandLine.Invocation
import Thesaurus.Proofs.CommandLine.Runs
import Thesaurus.Proofs.Files.Path
import Thesaurus.Proofs.Graph.Export
import Thesaurus.Proofs.RuleFile.Content

/-!
# The commands side by side

Two of the commands load a graph, the third reads the rule file, counts and parses by itself. They
fail alike, and what is counted can be found in the file and in the graph that is printed. Main
facts: `outcome_run` for all commands at once, `ends_stats` for the counts, `commands_agree`.
-/

set_option autoImplicit false

namespace Thesaurus

open Text

namespace Settings

theorem exists_ruleFileFrom {tree : FileTree} {env : Environment} {path : Path}
    {settings : Settings} (h : (load tree env path).outcome.1 = .ok settings) :
    ∃ fromEnv fromFile, settings.ruleFile = ruleFileFrom path fromEnv fromFile := by
  have hrun : (load tree env path).run.run #[] =
      (.ok settings, ((load tree env path).run.run #[]).2) := Prod.ext h rfl
  rw [load] at hrun
  obtain ⟨_, _, -, hrun⟩ := Rules.exists_of_run_bind_ok hrun
  obtain ⟨fromFile, _, -, hrun⟩ := Rules.exists_of_run_bind_ok hrun
  obtain ⟨_, _, -, hrun⟩ := Rules.exists_of_run_bind_ok hrun
  obtain ⟨_, _, -, hrun⟩ := Rules.exists_of_run_bind_ok hrun
  obtain ⟨_, _, -, hrun⟩ := Rules.exists_of_run_bind_ok hrun
  have hsettings := Except.ok.inj (congrArg Prod.fst hrun)
  exact ⟨_, fromFile, (congrArg Settings.ruleFile hsettings).symm⟩

theorem plain_ruleFile {tree : FileTree} {env : Environment} {configFile : Text}
    {settings : Settings} {p : Path}
    (h : (load tree env (.ofText configFile)).outcome.1 = .ok settings)
    (hp : settings.ruleFile = some p) : p.Plain := by
  obtain ⟨fromEnv, fromFile, hfrom⟩ := exists_ruleFileFrom h
  rw [hp, ruleFileFrom] at hfrom
  split at hfrom
  · rw [Option.some.inj hfrom]
    exact Path.plain_ofText _
  · rw [Option.some.inj hfrom]
    exact (Path.plain_ofText _).parent.under (Path.plain_ofText _)
  · exact absurd hfrom nofun

end Settings

namespace CommandLine

open Rules RuleFile

theorem plain_input {files : FileTree} {env : Environment} {configFile : Text}
    {settings : Settings}
    (hsettings : (Settings.load files env (.ofText configFile)).outcome.1 = .ok settings)
    {o : CommandOptions} {job : Job} (hjob : o.job? settings = some job) : job.input.Plain := by
  rw [CommandOptions.job?] at hjob
  cases hinput : o.input with
  | some t =>
    rw [hinput] at hjob
    rw [← Option.some.inj hjob]
    exact Path.plain_ofText t
  | none =>
    rw [hinput, Option.map_none, Option.none_or] at hjob
    cases hrules : settings.ruleFile with
    | none =>
      rw [hrules] at hjob
      exact absurd hjob nofun
    | some p =>
      rw [hrules] at hjob
      rw [← Option.some.inj hjob]
      exact Settings.plain_ruleFile hsettings hrules

theorem output_of_job? {o : CommandOptions} {settings : Settings} {job : Job}
    (h : o.job? settings = some job) : job.output = o.output.map Path.ofText := by
  rw [CommandOptions.job?] at h
  split at h
  · exact absurd h nofun
  · rw [← Option.some.inj h]

/-- What is printed of a rule file that was counted. -/
def report (lines groups inputs edges : Nat) : Text :=
  "Lines: " ++ ofNat lines ++ "\n" ++ ("Groups: " ++ ofNat groups ++ "\n" ++
    ("Inputs: " ++ ofNat inputs ++ "\n" ++ ("Edges: " ++ ofNat edges ++ "\n")))

namespace Job

variable {files : FileTree} {j : Job} {c : Console} {t : Text} {g : Graph}

/-- The lines of a rule file that are parsed. -/
def source (t : Text) : Source := .items (contentLines defaultCommentMark t) none

theorem graphIn_of_text (hplain : j.input.Plain)
    (h : (readText files j.input).outcome.1 = .ok t) :
    j.graphIn files = ((j.parser.run (source t)).mapError .parse).mapError haltOf := by
  rw [← Path.ofText_text hplain] at h
  rw [graphIn, outcome_load h, source]

theorem graphIn_of_no_text (hplain : j.input.Plain) {cause : ReadError}
    (h : (readText files j.input).outcome.1 = .error cause) :
    j.graphIn files = .error (.failure (.read cause)) := by
  rw [← Path.ofText_text hplain] at h
  rw [graphIn, outcome_load_error h]
  rfl

theorem ends_read (j : Job) :
    Ends (Session.logging (readText c.files j.input) fun cause => Session.fail (.read cause)) c
      ((readText c.files j.input).outcome.1.mapError (.failure ∘ .read)) [] :=
  ends_logging fun _ _ => ends_throw _

theorem ends_parsing {p : Parser} {source : Source} {halt : LoadError → Session Graph}
    (hhalt : ∀ e after, Ends (halt e) after (.error (haltOf e)) []) :
    Ends (Session.logging (parsing (p.graph source) p.start) halt) c
      (((p.run source).mapError .parse).mapError haltOf) [] := by
  have hrun : (parsing (p.graph source) p.start).outcome.1 = (p.run source).mapError .parse :=
    congrArg Prod.fst (run_parsing _ _ _)
  rw [← hrun]
  exact ends_logging hhalt

/-- What the commands print of a job that succeeds. -/
def printed (j : Job) (t : Text) (g : Graph) : Command → Text
  | .parse => g.catalog.exportText ++ "\n"
  | .validate => "Rules '" ++ j.input.text ++ "' OK" ++ "\n"
  | .stats =>
    report (contentLines defaultCommentMark t).length
      ((contentLines defaultCommentMark t).flatMap groups).length g.size g.countEdges

section Stats

variable (hplain : j.input.Plain)

include hplain

theorem ends_stats (ht : (readText c.files j.input).outcome.1 = .ok t)
    (h : j.graphIn c.files = .ok g) : Ends j.stats c (.ok ()) (j.printed t g .stats) := by
  have hread : Ends _ c _ [] := ends_read j
  rw [ht] at hread
  rw [graphIn_of_text hplain ht] at h
  apply ends_get_bind
  refine hread.bind fun after _ => ?_
  refine Ends.bind (a := g) (t := []) ?_ fun after _ => ?_
  · rw [← h]
    apply ends_parsing
    rintro (cause | (cause | cause | cause)) after
    all_goals exact ends_throw _
  · exact (ends_print _).bind fun _ _ => (ends_print _).bind fun _ _ =>
      (ends_print _).bind fun _ _ => ends_print _

theorem ends_stats_error {cause : Halt} (h : j.graphIn c.files = .error cause) :
    Ends j.stats c (.error cause) [] := by
  have hread : Ends _ c _ [] := ends_read j
  apply ends_get_bind
  cases ht : (readText c.files j.input).outcome.1 with
  | error cause' =>
    rw [graphIn_of_no_text hplain ht] at h
    rw [ht] at hread
    rw [← Except.error.inj h]
    exact hread.bind_error _
  | ok t =>
    rw [graphIn_of_text hplain ht] at h
    rw [ht] at hread
    refine hread.bind fun after _ => ?_
    refine Ends.bind_error (t := []) ?_ _
    rw [← h]
    apply ends_parsing
    rintro (cause | (cause | cause | cause)) after
    all_goals exact ends_throw _

end Stats

theorem ends_run_ok (hplain : j.input.Plain) (hout : j.output = none)
    (ht : (readText c.files j.input).outcome.1 = .ok t) (h : j.graphIn c.files = .ok g)
    (command : Command) : Ends (j.run command) c (.ok ()) (j.printed t g command) := by
  cases command with
  | parse => exact j.ends_parse hout h
  | validate => exact j.ends_validate g h
  | stats => exact ends_stats hplain ht h

theorem ends_run_error (hplain : j.input.Plain) {cause : Halt}
    (h : j.graphIn c.files = .error cause) (command : Command) :
    Ends (j.run command) c (.error cause) [] := by
  cases command with
  | parse => exact j.ends_parse_error h
  | validate => exact j.ends_validate_error h
  | stats => exact ends_stats_error hplain h

theorem exists_text_of_graphIn (hplain : j.input.Plain) (h : j.graphIn files = .ok g) :
    ∃ t, (readText files j.input).outcome.1 = .ok t ∧ j.parser.run (source t) = .ok g := by
  cases ht : (readText files j.input).outcome.1 with
  | error cause =>
    rw [graphIn_of_no_text hplain ht] at h
    exact absurd h nofun
  | ok t =>
    rw [graphIn_of_text hplain ht] at h
    exact ⟨t, rfl, eq_ok_of_mapError (eq_ok_of_mapError h)⟩

end Job

section Run

variable {files : FileTree} {env : Environment} {words : List Text} {configFile : Text}
  {invocation : Invocation}

/-- How every command ends that is given some options, but no output and no log file. -/
def outcomeOf (files : FileTree) (env : Environment) (configFile : Text) (o : CommandOptions) :
    Except Halt Unit :=
  match (Settings.load files env (.ofText configFile)).outcome.1 with
  | .error cause => .error (.failure (.settings cause))
  | .ok settings =>
    match o.job? settings with
    | none => .error (.message noRules)
    | some job => (job.graphIn files).map fun _ => ()

theorem outcome_of_ends {outcome : Except Halt Unit} {t : Text}
    (h : Ends (session env words configFile) { files } outcome t) :
    (run files env words configFile).1 = outcome := by
  obtain ⟨after, hrun, -⟩ := h rfl
  rw [run, hrun]

variable (hwords : readInvocation words = .ok invocation) (hlog : invocation.logFile = none)
  (hout : invocation.options.output = none)

include hwords hlog hout

theorem run_of_graphIn {settings : Settings} {job : Job} {t : Text} {g : Graph}
    (hsettings : (Settings.load files env (.ofText configFile)).outcome.1 = .ok settings)
    (hjob : invocation.options.job? settings = some job)
    (ht : (readText files job.input).outcome.1 = .ok t) (hgraph : job.graphIn files = .ok g) :
    (run files env words configFile).1 = .ok () ∧
      (run files env words configFile).2.stdout = job.printed t g invocation.command := by
  have hnone : job.output = none := by
    rw [output_of_job? hjob, hout]
    rfl
  obtain ⟨after, hrun, -, hprinted⟩ := ends_run hsettings hwords hlog hjob
    fun c hc => Job.ends_run_ok (plain_input hsettings hjob) hnone (hc ▸ ht) (hc ▸ hgraph) _
  rw [hrun]
  exact ⟨rfl, hprinted⟩

theorem outcome_run :
    (run files env words configFile).1 = outcomeOf files env configFile invocation.options := by
  have hread : Ends (readSettings env configFile) { files } _ [] := ends_readSettings env configFile
  rw [outcomeOf]
  cases hsettings : (Settings.load files env (.ofText configFile)).outcome.1 with
  | error cause =>
    rw [hsettings] at hread
    exact outcome_of_ends (hread.bind_error _)
  | ok settings =>
    rw [hsettings] at hread
    dsimp only
    cases hjob : invocation.options.job? settings with
    | none =>
      refine outcome_of_ends (hread.bind (u := []) fun after _ => ?_)
      rw [hwords]
      dsimp only
      rw [hjob]
      exact ends_throw _
    | some job =>
      have hplain := plain_input hsettings hjob
      dsimp only
      cases hgraph : job.graphIn files with
      | error cause =>
        obtain ⟨after, hrun, -⟩ := ends_run hsettings hwords hlog hjob
          fun c hc => Job.ends_run_error hplain (hc ▸ hgraph) _
        rw [hrun]
        rfl
      | ok g =>
        obtain ⟨t, ht, -⟩ := Job.exists_text_of_graphIn hplain hgraph
        exact (run_of_graphIn hwords hlog hout hsettings hjob ht hgraph).1

end Run

theorem outcomeOf_ne_refused (files : FileTree) (env : Environment) (configFile : Text)
    (o : CommandOptions) (cause : Refusal) :
    outcomeOf files env configFile o ≠ .error (.refused cause) := by
  have hload (e : LoadError) : Job.haltOf e ≠ .refused cause := by
    rcases e with cause | (cause | cause | cause) <;> exact nofun
  rw [outcomeOf]
  cases (Settings.load files env (.ofText configFile)).outcome.1 with
  | error cause => exact nofun
  | ok settings =>
    dsimp only
    cases o.job? settings with
    | none => exact nofun
    | some job =>
      dsimp only
      rw [Job.graphIn]
      cases (load files job.input.text job.parser).outcome.1 with
      | error e => exact fun h => hload e (Except.error.inj h)
      | ok g => exact nofun

theorem exists_job_of_outcomeOf {files : FileTree} {env : Environment} {configFile : Text}
    {o : CommandOptions} (h : outcomeOf files env configFile o = .ok ()) :
    ∃ settings job t g, (Settings.load files env (.ofText configFile)).outcome.1 = .ok settings ∧
      o.job? settings = some job ∧ (readText files job.input).outcome.1 = .ok t ∧
      job.graphIn files = .ok g ∧ job.parser.run (Job.source t) = .ok g := by
  rw [outcomeOf] at h
  cases hsettings : (Settings.load files env (.ofText configFile)).outcome.1 with
  | error cause =>
    rw [hsettings] at h
    exact absurd h nofun
  | ok settings =>
    rw [hsettings] at h
    dsimp only at h
    cases hjob : o.job? settings with
    | none =>
      rw [hjob] at h
      exact absurd h nofun
    | some job =>
      rw [hjob] at h
      dsimp only at h
      cases hgraph : job.graphIn files with
      | error cause =>
        rw [hgraph] at h
        exact absurd h nofun
      | ok g =>
        obtain ⟨t, ht, hrun⟩ := Job.exists_text_of_graphIn (plain_input hsettings hjob) hgraph
        exact ⟨settings, job, t, g, rfl, hjob, ht, hgraph, hrun⟩

/-- Commands that are given the same options, and neither an output nor a log file, end alike, and
never because their words were not understood. If they succeed, the printed graph is read back, and
the counts are those of the lines of the file that hold rules, of their groups, of the inputs and of
the outputs that were printed; every group counts for two of these, unless repeated ones are
dropped. -/
theorem commands_agree {files : FileTree} {env : Environment} {configFile : Text}
    {front args : List Text} {invocation : Invocation} (hfront : ∀ w ∈ front, AsksToLog w)
    (hwords : readInvocation (front ++ Command.parse.name :: args) = .ok invocation)
    (hout : invocation.options.output = none) :
    let outcome (command : Command) := (run files env (front ++ command.name :: args) configFile).1
    let shown (command : Command) :=
      (run files env (front ++ command.name :: args) configFile).2.stdout
    (∀ command, outcome command = outcome .parse) ∧
    (∀ cause, outcome .parse ≠ .error (.refused cause)) ∧
    (outcome .parse = .ok () → ∃ settings job t, ∃ catalog : Catalog,
      (Settings.load files env (.ofText configFile)).outcome.1 = .ok settings ∧
      invocation.options.job? settings = some job ∧
      (readText files job.input).outcome.1 = .ok t ∧
      (∀ limits : Json.Limits, (ofNat catalog.lookahead.natAbs).length ≤ limits.digits →
        4 ≤ limits.depth → Json.readWithin limits (shown .parse) = .ok catalog.json) ∧
      let content := (lines t).filter (HoldsRule defaultCommentMark)
      let edges := catalog.rules.total (·.outputs.length)
      shown .stats = report content.length (content.flatMap groups).length catalog.rules.size edges ∧
      edges ≤ 2 * (content.flatMap groups).length ∧
      (job.dedup = false → edges = 2 * (content.flatMap groups).length)) := by
  intro outcome shown
  have hread (command : Command) := readInvocation_of_parse hfront hwords hout command
  have houtcome (command : Command) :
      outcome command = outcomeOf files env configFile invocation.options :=
    (outcome_run (hread command).1 (hread command).2 hout :)
  refine ⟨fun command => (houtcome command).trans (houtcome .parse).symm, fun cause => ?_, ?_⟩
  · rw [houtcome]
    exact outcomeOf_ne_refused files env configFile _ cause
  · intro hok
    rw [houtcome] at hok
    obtain ⟨settings, job, t, g, hsettings, hjob, ht, hgraph, hrun⟩ := exists_job_of_outcomeOf hok
    have hshown (command : Command) : shown command = job.printed t g command :=
      (run_of_graphIn (hread command).1 (hread command).2 hout hsettings hjob ht hgraph).2
    have hseparable : g.Separable := separable_of_run rfl hrun
    have hcounts := countEdges_of_run (Analyzer.neverEmpty_normalizer _) hrun
    rw [Job.source, lines_contentLines, contentLines_eq,
      ← Graph.total_catalog hseparable] at hcounts
    refine ⟨settings, job, t, g.catalog, hsettings, hjob, ht, fun limits hdigits hdepth => ?_, ?_,
      hcounts⟩
    · rw [hshown]
      exact Graph.read_exportText_newline hseparable hdigits hdepth
    · rw [Graph.size_catalog hseparable, Graph.total_catalog hseparable, ← contentLines_eq]
      exact hshown .stats

theorem commands_agree_repeated_edges :
    let rules : Text := "# towns\nNY, new york\r\n \n ny,NY|\\#a, NY"
    let files : FileTree :=
      { workingDirectory := []
        files := ⟨[(["config.ini"], Utf8.encode "[SYNONYMS]\nrules_path = ./a//rules\n"),
          (["a", "rules"], Utf8.encode rules)], by decide⟩ }
    let front : List Text := ["-vv", "--verb"]
    let args : List Text := ["--no-dedup", "--exp", "--no-expand"]
    let shown (command : Command) := (run files ∅ (front ++ command.name :: args)).2.stdout
    (∀ command : Command, (run files ∅ (front ++ command.name :: args)).1 = .ok ()) ∧
    shown .stats = "Lines: 2\nGroups: 3\nInputs: 3\nEdges: 6\n" ∧ ∃ catalog : Catalog,
      (∀ limits : Json.Limits, (ofNat catalog.lookahead.natAbs).length ≤ limits.digits →
        4 ≤ limits.depth → Json.readWithin limits (shown .parse) = .ok catalog.json) ∧
      shown .stats = report 2 3 catalog.rules.size (catalog.rules.total (·.outputs.length)) ∧
      catalog.rules.total (·.outputs.length) = 6 := by
  intro rules files front args shown
  let invocation : Invocation :=
    { verbosity := 3, logFile := none, command := .parse
      options := { expand := some false, dedup := some false } }
  have hfront : ∀ w ∈ front, AsksToLog w :=
    List.forall_mem_cons.mpr ⟨.letters 1,
      List.forall_mem_singleton.mpr (.name (by decide) (by decide))⟩
  have hwords : readInvocation (front ++ Command.parse.name :: args) = .ok invocation := by
    decide +kernel
  obtain ⟨hsame, -, hcounts⟩ :=
    @commands_agree files ∅ Settings.fileName front args invocation hfront hwords rfl
  have hok : (run files ∅ (front ++ Command.parse.name :: args)).1 = .ok () := by decide +kernel
  obtain ⟨settings, job, t, catalog, hsettings, hjob, ht, hjson, hstats, -, hexact⟩ := hcounts hok
  have hload : (Settings.load files ∅).outcome.1 =
      .ok { ruleFile := some ⟨[], ["a", "rules"]⟩ } := by decide +kernel
  obtain rfl := Except.ok.inj (hload.symm.trans hsettings)
  obtain rfl := Option.some.inj hjob
  have hread : (readText files ⟨[], ["a", "rules"]⟩).outcome.1 = .ok rules := by decide +kernel
  obtain rfl := Except.ok.inj (hread.symm.trans ht)
  have hlines : ((lines rules).filter (HoldsRule defaultCommentMark)).length = 2 := by
    decide +kernel
  have hgroups : (((lines rules).filter (HoldsRule defaultCommentMark)).flatMap groups).length =
      3 := by decide +kernel
  rw [hlines, hgroups] at hstats
  rw [hgroups] at hexact
  exact ⟨fun command => (hsame command).trans hok, by decide +kernel, catalog, hjson, hstats,
    hexact rfl⟩

end CommandLine

end Thesaurus
