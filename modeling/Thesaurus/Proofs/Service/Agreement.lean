import Thesaurus.Proofs.CommandLine.Invocation
import Thesaurus.Proofs.CommandLine.Runs
import Thesaurus.Proofs.Files.Path
import Thesaurus.Proofs.RuleFile.Load
import Thesaurus.Proofs.Service.Answers
import Thesaurus.Proofs.Service.Framework

/-!
# Posted rules and rule files

The service takes every line of a posted text for a rule, a rule file may hold lines that are
skipped. Main facts: `validates_iff` and `reportsOk_iff` say what each of them asks of the lines of
a text, and `posted_agrees_with_loaded` that they agree as far as no line is skipped.
-/

set_option autoImplicit false

namespace Thesaurus.Service

open Rules CommandLine Text

def Validates (web : Framework) (files : FileTree) (env : Environment) (configFile : Text)
    (r : Request) : Prop :=
  (web.respond files env configFile r).1 = web.answer 200 [("valid", .bool true)]

def Prints (files : FileTree) (env : Environment) (configFile : Text) (words : List Text)
    (t : Text) : Prop :=
  (run files env words configFile).1 = .ok () ∧ (run files env words configFile).2.stdout = t

def ReportsOk (files : FileTree) (env : Environment) (configFile path : Text) : Prop :=
  Prints files env configFile ["validate", path]
    ("Rules '" ++ (Path.ofText path).text ++ "' OK" ++ "\n")

/-- What a command is to do that is given a rule file and nothing else. -/
def fileJob (settings : Settings) (path : Text) : Job where
  input := .ofText path
  expand := settings.expand
  dedup := settings.dedup
  lowercase := settings.lowercase
  output := none

theorem verdict_contentLines {mark : Option Text} {t : Text} (normalizer : Normalizer)
    (h : ∀ line ∈ lines t, isContent mark line = false → line = []) :
    verdict normalizer (.items (contentLines mark t) none) = verdict normalizer (.text t) := by
  have hgroups : (contentLines mark t).flatMap groups = (lines t).flatMap groups := by
    apply flatMap_filter
    intro line hline hskipped
    -- An empty line has no groups, so that it makes no difference whether it is skipped.
    rw [h line hline hskipped]
    rfl
  rw [verdict, verdict, RuleFile.lines_contentLines, hgroups]
  rfl

section Files

variable {web : Framework} {files : FileTree} {env : Environment} {configFile : Text}
  {settings : Settings} {path t : Text}
  (hsettings : (Settings.load files env (.ofText configFile)).outcome.1 = .ok settings)

include hsettings

theorem validates_iff {r : Request} (h : Posts web r .validate t) :
    Validates web files env configFile r ↔
      ∀ line ∈ lines t, Usable (settingsParser settings).normalizer line := by
  have hlines : (∃ pairs, verdict (settingsParser settings).normalizer (.text t) = .ok pairs) ↔
      ∀ line ∈ lines t, Usable (settingsParser settings).normalizer line :=
    exists_verdict_iff rfl
  rw [Validates, respond_validate hsettings h]
  refine Iff.trans ?_ hlines
  cases verdict (settingsParser settings).normalizer (.text t) with
  | ok pairs => exact ⟨fun _ => ⟨pairs, rfl⟩, fun _ => rfl⟩
  | error cause =>
    constructor
    · intro hanswer
      have hstatus : 400 = 200 := congrArg Response.status hanswer
      exact absurd hstatus (by decide)
    · rintro ⟨pairs, hpairs⟩
      exact absurd hpairs nofun

theorem run_fileJob {name : Text} {command : Command}
    (hname : Command.ofName? name = some command) (hpath : path.head? ≠ some '-')
    {outcome : Except Halt Unit} {printed : Text}
    (h : ∀ c : Console, c.files = files →
      Ends ((fileJob settings path).run command) c outcome printed) :
    (run files env [name, path] configFile).1 = outcome ∧
      (run files env [name, path] configFile).2.stdout = printed := by
  obtain ⟨after, hrun, -, hprinted⟩ :=
    ends_run hsettings (readInvocation_operand hname hpath) rfl rfl h
  rw [hrun]
  exact ⟨rfl, hprinted⟩

variable (hmark : t.head? ≠ some '\ufeff')
  (hfile : files.read (.ofText path) = .ok (Utf8.encode t)) (hpath : path.head? ≠ some '-')

include hmark hfile

omit hsettings in
theorem graphIn_fileJob (settings : Settings) :
    (fileJob settings path).graphIn files =
      ((settingsParser settings).run
        (.items (contentLines defaultCommentMark t) none)).mapError (Job.haltOf ∘ .parse) := by
  have hshown : Path.ofText (Path.ofText path).text = .ofText path :=
    Path.ofText_text (Path.plain_ofText path)
  have hread : (RuleFile.readText files (.ofText (Path.ofText path).text)).outcome.1 = .ok t := by
    rw [hshown]
    exact RuleFile.outcome_readText hfile (RuleFile.decode_encode hmark)
  change (RuleFile.load files (Path.ofText path).text (settingsParser settings)).outcome.1.mapError
    _ = _
  rw [RuleFile.outcome_load hread]
  cases (settingsParser settings).run (.items (contentLines defaultCommentMark t) none) <;> rfl

include hpath

theorem reportsOk_iff :
    ReportsOk files env configFile path ↔
      ∀ line ∈ contentLines defaultCommentMark t,
        Usable (settingsParser settings).normalizer line := by
  let source : Source := .items (contentLines defaultCommentMark t) none
  have hlines : (∃ g, (settingsParser settings).run source = .ok g) ↔
      ∀ line ∈ source.lines, Usable (settingsParser settings).normalizer line :=
    exists_run_iff (neverEmpty_settingsParser settings) rfl
  have hgraph := graphIn_fileJob hmark hfile settings
  have hname : Command.ofName? "validate" = some .validate := rfl
  rw [RuleFile.lines_contentLines] at hlines
  refine Iff.trans ?_ hlines
  cases hrun : (settingsParser settings).run source with
  | ok g =>
    rw [hrun] at hgraph
    refine iff_of_true ?_ ⟨g, rfl⟩
    exact run_fileJob hsettings hname hpath fun c hc => Job.ends_validate _ _ (hc ▸ hgraph)
  | error cause =>
    rw [hrun] at hgraph
    refine iff_of_false ?_ nofun
    rintro ⟨hok, -⟩
    have hhalt := run_fileJob hsettings hname hpath
      fun c hc => Job.ends_validate_error _ (hc ▸ hgraph)
    rw [hhalt.1] at hok
    exact absurd hok nofun

theorem prints_of_reportsOk
    (hempty : ∀ line ∈ lines t, isContent defaultCommentMark line = false → line = [])
    (hok : ReportsOk files env configFile path) :
    ∃ g, (settingsParser settings).run (.text t) = .ok g ∧
      Prints files env configFile ["parse", path] (g.catalog.exportText ++ "\n") := by
  let source : Source := .items (contentLines defaultCommentMark t) none
  have hne := neverEmpty_settingsParser settings
  have hsame : (settingsParser settings).run source = (settingsParser settings).run (.text t) := by
    rw [run_eq hne, run_eq hne]
    exact congrArg _ (verdict_contentLines _ hempty)
  have husable : ∀ line ∈ source.lines, Usable (settingsParser settings).normalizer line := by
    rw [RuleFile.lines_contentLines]
    exact (reportsOk_iff hsettings hmark hfile hpath).mp hok
  obtain ⟨g, hg⟩ := (exists_run_iff hne rfl).mpr husable
  have hgraph := graphIn_fileJob hmark hfile settings
  rw [hg] at hgraph
  have hname : Command.ofName? "parse" = some .parse := rfl
  exact ⟨g, hsame ▸ hg,
    run_fileJob hsettings hname hpath fun c hc => Job.ends_parse _ rfl (hc ▸ hgraph)⟩

end Files

/-- The check of posted rules says yes exactly when the check of a file that holds them does and
the lines that a file may skip could all be used as well. As far as only empty lines are skipped the
two say the same, and the graph that is answered is the graph that is printed. -/
theorem posted_agrees_with_loaded {web : Framework} {files : FileTree} {env : Environment}
    {configFile : Text} {settings : Settings} {path t : Text} {check build : Request}
    (hsettings : (Settings.load files env (.ofText configFile)).outcome.1 = .ok settings)
    (hcheck : Posts web check .validate t) (hbuild : Posts web build .parse t)
    (hmark : t.head? ≠ some '\ufeff') (hfile : files.read (.ofText path) = .ok (Utf8.encode t))
    (hpath : path.head? ≠ some '-') :
    let skipped := (lines t).filter (!isContent defaultCommentMark ·)
    (Validates web files env configFile check ↔ ReportsOk files env configFile path ∧
      ∀ line ∈ skipped, Usable (Analyzer.normalizer ⟨settings.lowercase⟩) line) ∧
    ((∀ line ∈ skipped, line = []) →
      (Validates web files env configFile check ↔ ReportsOk files env configFile path) ∧
      (ReportsOk files env configFile path → ∃ g : Graph,
        (web.respond files env configFile build).1 =
          web.answer 200 [("edges", .array (g.edges.map edgeJson)), ("graph", g.catalog.json)] ∧
        Prints files env configFile ["parse", path] (g.catalog.json.write .indented 0 ++ "\n"))) := by
  intro skipped
  let normalizer := (settingsParser settings).normalizer
  have hvalidates := validates_iff hsettings hcheck
  have hreports := reportsOk_iff hsettings hmark hfile hpath
  have hboth : Validates web files env configFile check ↔
      ReportsOk files env configFile path ∧ ∀ line ∈ skipped, Usable normalizer line := by
    rw [hvalidates, hreports]
    constructor
    · intro h
      exact ⟨fun line hline => h line (List.mem_of_mem_filter hline),
        fun line hline => h line (List.mem_of_mem_filter hline)⟩
    · rintro ⟨hcontent, hskipped⟩ line hline
      cases hkept : isContent defaultCommentMark line with
      | true => exact hcontent line (List.mem_filter.mpr ⟨hline, hkept⟩)
      | false => exact hskipped line (List.mem_filter.mpr ⟨hline, by simp [hkept]⟩)
  refine ⟨hboth, fun hempty => ⟨?_, fun hok => ?_⟩⟩
  · refine hboth.trans ⟨And.left, fun hok => ⟨hok, fun line hline => ?_⟩⟩
    rw [hempty line hline]
    exact fun group hgroup => absurd hgroup List.not_mem_nil
  · have hblank : ∀ line ∈ lines t, isContent defaultCommentMark line = false → line = [] :=
      fun line hline hkept => hempty line (List.mem_filter.mpr ⟨hline, by simp [hkept]⟩)
    obtain ⟨g, hg, hprints⟩ := prints_of_reportsOk hsettings hmark hfile hpath hblank hok
    refine ⟨g, ?_, hprints⟩
    rw [respond_parse hsettings hbuild, hg]
    rfl

theorem posted_agrees_with_loaded_indented :
    let web := Framework.standard
    let t : Text := "NY, new york\r\n\n  \\#a, b|c\\,, c"
    let config : Text := "[SYNONYMS]\nexpand = on\nlowercase = off\n"
    let configFile : Text := "conf/config.ini"
    let files : FileTree :=
      { workingDirectory := []
        files := ⟨[(["conf", "config.ini"], Utf8.encode config), (["rules"], Utf8.encode t)],
          by decide⟩ }
    let post (target : Text) : Request :=
      { method := "POST", target, contentType := some "application/json"
        body := Utf8.encode "\x7b\"rules\": \"NY, new york\\r\\n\\n  \\\\#a, b|c\\\\,, c\"\x7d" }
    Validates web files ∅ configFile (post "/api/synonyms/validate") ∧ ∃ g : Graph,
      (web.respond files ∅ configFile (post "/api/synonyms/parse")).1 =
        web.answer 200 [("edges", .array (g.edges.map edgeJson)), ("graph", g.catalog.json)] ∧
      Prints files ∅ configFile ["parse", "rules"] (g.catalog.json.write .indented 0 ++ "\n") := by
  intro web t config configFile files post
  have hsettings : (Settings.load files ∅ (.ofText configFile)).outcome.1 =
      .ok { expand := true, dedup := true, lowercase := false } := by decide +kernel
  have hcheck : Posts web (post "/api/synonyms/validate") .validate t := ⟨by decide +kernel, rfl⟩
  have hbuild : Posts web (post "/api/synonyms/parse") .parse t := ⟨by decide +kernel, rfl⟩
  have hok : ReportsOk files ∅ configFile "rules" := ⟨by decide +kernel, by decide +kernel⟩
  have hfile : files.read (.ofText "rules") = .ok (Utf8.encode t) := by decide +kernel
  obtain ⟨-, hagree⟩ :=
    posted_agrees_with_loaded hsettings hcheck hbuild (by decide) hfile (by decide)
  obtain ⟨hiff, hgraph⟩ := hagree (by decide +kernel)
  exact ⟨hiff.mpr hok, hgraph hok⟩

/-- A comment, or a line of blanks, is refused by the service and skipped in a file; and where a
comment could be read as a rule, the service takes it for one. -/
theorem posted_differs_from_loaded :
    let web := Framework.standard
    let configFile := Settings.fileName
    let files (t : Text) : FileTree :=
      { workingDirectory := [], files := ⟨[(["rules"], Utf8.encode t)], List.nodup_singleton _⟩ }
    let post (target body : Text) : Request :=
      { method := "POST", target, contentType := some "application/json", body := Utf8.encode body }
    let refused (t body : Text) : Prop :=
      Posts web (post "/api/synonyms/validate" body) .validate t ∧
      ¬ Validates web (files t) ∅ configFile (post "/api/synonyms/validate" body) ∧
      ReportsOk (files t) ∅ configFile "rules"
    refused "# towns\na, b" "\x7b\"rules\": \"# towns\\na, b\"\x7d" ∧
    refused "a, b\n  \nc, d" "\x7b\"rules\": \"a, b\\n  \\nc, d\"\x7d" ∧
    ∃ g : Graph,
      (web.respond (files "#a, b") ∅ configFile
        (post "/api/synonyms/parse" "\x7b\"rules\": \"#a, b\"\x7d")).1 =
        web.answer 200 (graphMembers g) ∧
      g.contains ["#a"] = true ∧
      Prints (files "#a, b") ∅ configFile ["parse", "rules"]
        "\x7b\n  \"rules\": \x7b\x7d,\n  \"max_horizontal_context\": 0\n\x7d\n" := by
  intro web configFile files post refused
  have hstatus (t body : Text)
      (h : (web.respond (files t) ∅ configFile (post "/api/synonyms/validate" body)).1.status = 400) :
      ¬ Validates web (files t) ∅ configFile (post "/api/synonyms/validate" body) := by
    intro hyes
    rw [hyes] at h
    exact absurd (show 200 = 400 from h) (by decide)
  refine ⟨?_, ?_, ?_⟩
  · have hposts : Posts web
        (post "/api/synonyms/validate" "\x7b\"rules\": \"# towns\\na, b\"\x7d")
        .validate "# towns\na, b" :=
      ⟨by decide +kernel, rfl⟩
    exact ⟨hposts, hstatus _ _ (by decide +kernel), by decide +kernel, by decide +kernel⟩
  · have hposts : Posts web
        (post "/api/synonyms/validate" "\x7b\"rules\": \"a, b\\n  \\nc, d\"\x7d")
        .validate "a, b\n  \nc, d" :=
      ⟨by decide +kernel, rfl⟩
    exact ⟨hposts, hstatus _ _ (by decide +kernel), by decide +kernel, by decide +kernel⟩
  · have hposts : Posts web (post "/api/synonyms/parse" "\x7b\"rules\": \"#a, b\"\x7d")
        .parse "#a, b" :=
      ⟨by decide +kernel, rfl⟩
    have hsettings : (Settings.load (files "#a, b") ∅ (.ofText configFile)).outcome.1 = .ok {} := by
      decide +kernel
    have hrun : (settingsParser {}).run (.text "#a, b") =
        .ok (Graph.ofEdges true [⟨["#a"], ["#a"], false⟩, ⟨["b"], ["#a"], false⟩]) := by
      decide +kernel
    have hanswer := respond_parse hsettings hposts
    rw [hrun] at hanswer
    exact ⟨_, hanswer, by decide, by decide +kernel, by decide +kernel⟩

end Thesaurus.Service
