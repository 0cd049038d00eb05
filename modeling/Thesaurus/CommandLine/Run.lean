import Thesaurus.CommandLine.Invocation
import Thesaurus.Graph.Catalog
import Thesaurus.RuleFile

/-!
# Running a command

A run reads the settings, understands the command line and carries out its command on a file tree.
What is reported at the chosen level is logged to standard error and, if wanted, to a log file.
Standard output and standard error are taken to accept every text, as they do when they are UTF-8,
and nothing is lost behind them.
-/

set_option autoImplicit false

namespace Thesaurus.CommandLine

/-- What goes wrong in a run beyond what it has a message for. -/
inductive Failure where
  | settings (cause : SettingsError)
  | read (cause : ReadError)
  | file (cause : FileError)
  | parse (cause : Rules.ParseError)
deriving DecidableEq, Repr

def Failure.message : Failure → Text
  | .settings (.file cause) => cause.message
  | .settings .malformed => "the configuration file is not UTF-8"
  | .settings (.document _) => "the configuration file cannot be understood"
  | .settings (.interpolation _) => "a reference in the configuration file cannot be resolved"
  | .read (.file cause) | .file cause => cause.message
  | .read .malformed => "the rule file is not UTF-16"
  | .read cause => cause.message
  | .parse cause => cause.message

/-- How a run ends before its command is through. -/
inductive Halt where
  | refused (cause : Refusal)
  | message (t : Text)
  | failure (cause : Failure)
deriving DecidableEq, Repr

structure Console where
  files : FileTree
  stdout : Text := []
  stderr : Text := []
  least : Level := .warning
  logFile : Option Path := none

/-- A part of a run; what it wrote stays when it ends early. -/
abbrev Session := ExceptT Halt (StateM Console)

namespace Console

def printLine (c : Console) (line : Text) : Console := { c with stdout := c.stdout ++ line ++ "\n" }

/-- Logs the events whose level is high enough, each on a line. -/
def log (c : Console) (events : List Event) : Console :=
  let lines := (Event.atLeast c.least events).flatMap fun e => e.line ++ ['\n']
  { c with
    stderr := c.stderr ++ lines
    files :=
      match c.logFile with
      | none => c.files
      | some path => (c.files.append path (Utf8.encode lines)).toOption.getD c.files }

end Console

namespace Session

def print (line : Text) : Session Unit := modify (·.printLine line)

def log (events : List Event) : Session Unit := modify (·.log events)

/-- Does what reports events and logs them; a failure of it ends the run. -/
def logging {ε α : Type} (activity : Reporting ε α) (halt : ε → Session α) : Session α := do
  let (result, events) := activity.outcome
  log events
  match result with
  | .ok a => return a
  | .error e => halt e

def fail {α : Type} (cause : Failure) : Session α := throw (.failure cause)

end Session

/-- What a run is to do, with the settings worked in. -/
structure Job where
  input : Path
  expand : Bool
  dedup : Bool
  lowercase : Bool
  output : Option Path

namespace Job

def parser (j : Job) : Rules.Parser where
  expand := j.expand
  dedup := j.dedup
  normalizer := Analyzer.normalizer ⟨j.lowercase⟩

def rejection (e : Rules.RuleError) : Text := "invalid synonym rules: " ++ e.message

/-- The graph of the rule file. Rules that are rejected are logged. -/
def graph (j : Job) : Session Graph := do
  let files := (← get).files
  Session.logging (RuleFile.load files j.input.text j.parser) fun
    | .read cause => Session.fail (.read cause)
    | .parse (.rule e) => do
      Session.log [.rulesFaulty j.input.text e.message]
      throw (.message (rejection e))
    | .parse cause => Session.fail (.parse cause)

def parse (j : Job) : Session Unit := do
  let graph ← j.graph
  match j.output with
  | none => Session.print graph.catalog.exportText
  | some path =>
    match graph.save (← get).files path with
    | .error cause => Session.fail (.file cause)
    | .ok files => do
      modify fun c => { c with files }
      Session.log [.graphWritten path.text]

def validate (j : Job) : Session Unit := do
  let _ ← j.graph
  Session.print ("Rules '" ++ j.input.text ++ "' OK")

/-- Counts what the rule file holds. Rules that are rejected are not logged here. -/
def stats (j : Job) : Session Unit := do
  let files := (← get).files
  let t ← Session.logging (RuleFile.readText files j.input) fun cause => Session.fail (.read cause)
  let lines := Rules.contentLines Rules.defaultCommentMark t
  let step := j.parser.graph (.items lines none)
  let graph ← Session.logging (RuleFile.parsing step j.parser.start) fun
    | .parse (.rule e) => throw (.message (rejection e))
    | .parse cause => Session.fail (.parse cause)
    | .read cause => Session.fail (.read cause)
  Session.print ("Lines: " ++ Text.ofNat lines.length)
  Session.print ("Groups: " ++ Text.ofNat (lines.flatMap Rules.groups).length)
  Session.print ("Inputs: " ++ Text.ofNat graph.size)
  Session.print ("Edges: " ++ Text.ofNat graph.countEdges)

def run (j : Job) : Command → Session Unit
  | .parse => j.parse
  | .validate => j.validate
  | .stats => j.stats

end Job

/-- The rule file and switches of a command, what it leaves open being filled in by the settings. -/
def CommandOptions.job? (o : CommandOptions) (s : Settings) : Option Job :=
  match (o.input.map Path.ofText).or s.ruleFile with
  | none => none
  | some input =>
    some
      { input
        expand := o.expand.getD s.expand
        dedup := o.dedup.getD s.dedup
        lowercase := o.lowercase.getD s.lowercase
        output := o.output.map Path.ofText }

def noRules : Text := "no synonym rules given: pass a rule file or set rules_path in config.ini"

/-- The least level that is logged when verbosity was asked for so many times. -/
def leastLevel : Nat → Level
  | 0 => .warning
  | 1 => .info
  | _ => .debug

/-- Reads the settings. Logging is not set up yet, so what is reported is the bare text. -/
def readSettings (env : Environment) (configFile : Text) : Session Settings := do
  let (result, events) := (Settings.load (← get).files env (.ofText configFile)).outcome
  (Event.atLeast .warning events).forM fun e =>
    modify fun c => { c with stderr := c.stderr ++ e.text ++ "\n" }
  match result with
  | .ok s => return s
  | .error cause => Session.fail (.settings cause)

/-- Sets logging up. A log file is opened, and made if need be, before anything is logged. -/
def openLog (invocation : Invocation) : Session Unit := do
  modify fun c => { c with least := leastLevel invocation.verbosity }
  match invocation.logFile with
  | none => return ()
  | some t =>
    let files := (← get).files
    let path := (Path.ofText t).settled files.workingDirectory
    match files.append path [] with
    | .error cause => Session.fail (.file cause)
    | .ok files => modify fun c => { c with files, logFile := some path }

def session (env : Environment) (words : List Text) (configFile : Text) : Session Unit := do
  let settings ← readSettings env configFile
  match readInvocation words with
  | .error cause => throw (.refused cause)
  | .ok invocation =>
    match invocation.options.job? settings with
    | none => throw (.message noRules)
    | some job => do
      openLog invocation
      job.run invocation.command

/-- How a run on a file tree ends, and what it wrote. -/
def run (files : FileTree) (env : Environment) (words : List Text)
    (configFile : Text := Settings.fileName) : Except Halt Unit × Console :=
  (session env words configFile).run.run { files }

/-- The paths that a run may look at besides the configuration file. -/
def mentionedPaths (files : FileTree) (env : Environment) (words : List Text) (configFile : Text) :
    List Path :=
  match readInvocation words, (Settings.load files env (.ofText configFile)).outcome.1 with
  | .ok invocation, .ok settings =>
    let job := (invocation.options.job? settings).map fun job => job.input :: job.output.toList
    (invocation.logFile.map Path.ofText).toList ++ job.getD []
  | _, _ => []

def Halt.exitCode : Halt → Nat
  | .refused .help => 0
  | .refused (.usage _) => 2
  | .message _ | .failure _ => 1

end Thesaurus.CommandLine
