import Thesaurus.Proofs.CommandLine.Rejected
import Thesaurus.Proofs.Service.Answers
import Thesaurus.Proofs.Service.Framework

/-!
# Who tells of rejected rules

Rules are rejected in the same words wherever they come from. The service reports every rejection
that it answers. A command ends with it, but not all of the commands have logged it before. Main
facts: `respond_rejected` for the service and `rejection_told` for everything.
-/

set_option autoImplicit false

namespace Thesaurus.Service

open Rules CommandLine

variable {web : Framework} {files : FileTree} {env : Environment} {configFile : Text}
  {settings : Settings} {r : Request}

/-- What is answered beside the reason why rules are rejected. -/
def Endpoint.verdict : Endpoint → List (Text × Json)
  | .validate => [("valid", .bool false)]
  | _ => []

/-- A request asks an endpoint for a judgement, and its rules are rejected. -/
structure Rejects (web : Framework) (settings : Settings) (r : Request) (endpoint : Endpoint)
    (e : RuleError) : Prop where
  route : web.dispatch registrations r.method r.target = .serve endpoint
  judges : endpoint = .parse ∨ endpoint = .validate
  rules : ∃ j t, web.payload r = .ok j ∧ j.member? "rules" = some (.string t) ∧
    (parser j settings).run (.text t) = .error (.rule e)

/-- The service answers a rejection with the reason, and reports it as the last thing. -/
theorem respond_rejected {endpoint : Endpoint} {e : RuleError}
    (hsettings : (Settings.load files env (.ofText configFile)).outcome.1 = .ok settings)
    (h : Rejects web settings r endpoint e) :
    ∃ events, web.respond files env configFile r =
        (web.answer 400 (("error", .string e.message) :: endpoint.verdict), events) ∧
      Event.atLeast .warning events =
        Event.atLeast .warning (Settings.load files env (.ofText configFile)).outcome.2 ++
          [.rulesRejected e.message] := by
  obtain ⟨j, t, hpayload, hrules, hrun⟩ := h.rules
  obtain ⟨after, hdebug, htake, hgraph⟩ := exists_rejected (neverEmpty_payload j settings) hrun
  let said := (Settings.load files env (.ofText configFile)).outcome.2
  have hserve : (web.serve files env configFile r endpoint).outcome =
      (.ok (web.answer 400 (("error", .string e.message) :: endpoint.verdict)),
        said ++ after.events.toList ++ [.rulesRejected e.message]) := by
    rcases h.judges with rfl | rfl
    · rw [Framework.serve, judge_outcome hpayload hrules hsettings, hgraph]
      rfl
    · rw [Framework.serve, judge_outcome hpayload hrules hsettings, htake]
      rfl
  refine ⟨_, respond_of_outcome h.route hserve, ?_⟩
  calc Event.atLeast .warning (.serviceReady root ::
        (said ++ after.events.toList ++ [.rulesRejected e.message]))
    _ = Event.atLeast .warning (said ++ after.events.toList ++ [.rulesRejected e.message]) := rfl
    _ = Event.atLeast .warning said ++ Event.atLeast .warning after.events.toList ++
        [.rulesRejected e.message] := by
      rw [Event.atLeast_append, Event.atLeast_append]
      rfl
    _ = Event.atLeast .warning said ++ [.rulesRejected e.message] := by
      rw [hdebug.atLeast, List.append_nil]

/-- A command whose rules are rejected ends with the reason, a request with them is answered with
it. Until then the only warnings are those on the settings and on damage to the rule file and,
behind them, the complaint, which ends with the reason as well: one in every answer, and one of
each command but the one that counts, which has none. -/
theorem rejection_told {web : Framework} {files : FileTree} {env : Environment} {configFile : Text}
    {settings : Settings}
    (hsettings : (Settings.load files env (.ofText configFile)).outcome.1 = .ok settings) :
    (∀ words invocation job opened replaced e, readInvocation words = .ok invocation →
      invocation.options.job? settings = some job →
      (openLog invocation).run.run (consoleAtStart files env configFile) = (.ok (), opened) →
      job.Rejects opened.files replaced e →
      opened.least.rank ≤ Level.warning.rank ∧
      (∀ event ∈ job.complaints e invocation.command, e.message <:+ event.text) ∧
      ∃ events, run files env words configFile =
          (.error (.message ("invalid synonym rules: " ++ e.message)), opened.log events) ∧
        Event.atLeast .warning events =
          job.damage replaced ++ job.complaints e invocation.command) ∧
    (∀ r endpoint e, Rejects web settings r endpoint e →
      e.message <:+ (Event.rulesRejected e.message).text ∧
      ∃ events, web.respond files env configFile r =
          (web.answer 400 (("error", .string e.message) :: endpoint.verdict), events) ∧
        Event.atLeast .warning events =
          Event.atLeast .warning (Settings.load files env (.ofText configFile)).outcome.2 ++
            [.rulesRejected e.message]) := by
  constructor
  · intro words invocation job opened replaced e hwords hjob hopened hrejects
    have hrun := run_of_job hsettings hwords hjob hopened
    obtain ⟨events, hends, hwarnings⟩ :=
      job.run_rejected (plain_input hsettings hjob) hrejects invocation.command
    exact ⟨least_of_openLog hopened, fun _ hevent => Job.suffix_of_complaints hevent, events,
      hrun.trans hends, hwarnings⟩
  · intro r endpoint e hrejects
    exact ⟨List.suffix_append _ _, respond_rejected hsettings hrejects⟩

theorem rejection_told_of_damaged_file :
    let web := Framework.standard
    let configFile := Settings.fileName
    let files : FileTree :=
      { workingDirectory := []
        files := ⟨[(["config.ini"], Utf8.encode "[SYNONYMS]\nexpand = maybe\n"),
          (["rules"], Utf8.encode "NY, ny\na" ++ [0xff])], by decide⟩ }
    let job : Job :=
      { input := ⟨[], ["rules"]⟩, expand := false, dedup := true, lowercase := true
        output := none }
    let invocation (command : Command) : Invocation :=
      { verbosity := 2, logFile := some "log", command, options := { input := some "rules" } }
    let opened (command : Command) : Console :=
      ((openLog (invocation command)).run.run (consoleAtStart files ∅ configFile)).2
    let post : Request :=
      { method := "post", target := "/api/synonyms/validate", contentType := some "application/json"
        body := Utf8.encode "\x7b\"rules\": \"NY, ny\\na\", \"expand\": true\x7d" }
    (∀ command : Command, ∃ events,
      run files ∅ ["-vv", "--log-f=log", command.name, "rules"] configFile =
        (.error (.message "invalid synonym rules: synonym mapping is invalid for a\ufffd"),
          (opened command).log events) ∧
      Event.atLeast .warning events =
        .charactersReplaced "rules" :: job.complaints (.notPair "a\ufffd") command) ∧
    ∃ events, web.respond files ∅ configFile post =
        (web.answer 400 [("error", .string "synonym mapping is invalid for a"),
          ("valid", .bool false)], events) ∧
      Event.atLeast .warning events =
        [.notBoolean "SYNONYMS.expand" "maybe",
          .rulesRejected "synonym mapping is invalid for a"] := by
  intro web configFile files job invocation opened post
  have hsettings : (Settings.load files ∅ (.ofText configFile)).outcome.1 = .ok {} := by
    decide +kernel
  have hsaid : Event.atLeast .warning (Settings.load files ∅ (.ofText configFile)).outcome.2 =
      [.notBoolean "SYNONYMS.expand" "maybe"] := by decide +kernel
  obtain ⟨hcommands, hservice⟩ := @rejection_told web files ∅ configFile {} hsettings
  constructor
  · intro command
    have hwords : readInvocation ["-vv", "--log-f=log", command.name, "rules"] =
        .ok (invocation command) := by
      cases command <;> decide +kernel
    have hopened : (openLog (invocation command)).run.run (consoleAtStart files ∅ configFile) =
        (.ok (), opened command) := by
      refine Prod.ext ?_ rfl
      cases command <;> decide +kernel
    have hrejects : job.Rejects (opened command).files true (.notPair "a\ufffd") := by
      refine ⟨Utf8.encode "NY, ny\na" ++ [0xff], "NY, ny\na\ufffd", ?_, by decide +kernel,
        by decide +kernel⟩
      cases command <;> decide +kernel
    obtain ⟨-, -, events, hrun, hwarnings⟩ :=
      hcommands _ (invocation command) job _ _ _ hwords rfl hopened hrejects
    exact ⟨events, hrun, hwarnings⟩
  · have hrejects : Rejects web {} post .validate (.notPair "a") :=
      { route := by decide +kernel
        judges := .inr rfl
        rules := ⟨.object [("rules", .string "NY, ny\na"), ("expand", .bool true)], "NY, ny\na",
          rfl, rfl, by decide +kernel⟩ }
    obtain ⟨-, events, hanswer, hwarnings⟩ := hservice post .validate _ hrejects
    rw [hsaid] at hwarnings
    exact ⟨events, hanswer, hwarnings⟩

/-- Counting rules that are rejected ends with the reason, but nothing is logged, where checking them
logs a warning. -/
theorem rejection_not_told_by_stats :
    let files : FileTree :=
      { workingDirectory := []
        files := ⟨[(["rules.txt"], Utf8.encode "a")], List.nodup_singleton _⟩ }
    let reason : Text := "synonym mapping is invalid for a"
    (run files ∅ ["stats", "rules.txt"]).1 =
      .error (.message ("invalid synonym rules: " ++ reason)) ∧
    (run files ∅ ["stats", "rules.txt"]).2.stderr = [] ∧
    (run files ∅ ["validate", "rules.txt"]).1 =
      .error (.message ("invalid synonym rules: " ++ reason)) ∧
    (run files ∅ ["validate", "rules.txt"]).2.stderr =
      "WARNING: Synonymregeln rules.txt fehlerhaft: " ++ reason ++ "\n" := by
  decide +kernel

end Thesaurus.Service
