import Thesaurus.CommandLine.Words
import Thesaurus.Settings.Basic

/-!
# Invocations

An invocation is what a command line asks for: a command with its rule file and switches, how much
is to be logged, and where to. Of contradicting switches the last one counts.
-/

set_option autoImplicit false

namespace Thesaurus.CommandLine

inductive Command where
  | parse
  | validate
  | stats
deriving DecidableEq, Repr

def Command.ofName? (name : Text) : Option Command :=
  if name = "parse" then some .parse
  else if name = "validate" then some .validate
  else if name = "stats" then some .stats
  else none

/-- The options of a command as they were given. -/
structure CommandOptions where
  input : Option Text := none
  expand : Option Bool := none
  dedup : Option Bool := none
  lowercase : Option Bool := none
  output : Option Text := none
deriving DecidableEq, Repr

structure Invocation where
  verbosity : Nat
  logFile : Option Text
  command : Command
  options : CommandOptions
deriving DecidableEq, Repr

/-- Why a command line leads to no invocation. -/
inductive Refusal where
  | help
  | usage (e : UsageError)
deriving DecidableEq, Repr

inductive GlobalAction where
  | help
  | verbose
  | logFile
deriving DecidableEq, Repr

inductive CommandAction where
  | help
  | switch (s : Switch) (on : Bool)
  | output
deriving DecidableEq, Repr

def globalOptions : Options GlobalAction where
  letters := [('h', .help), ('v', .verbose)]
  names :=
    [{ name := "help", action := .help },
     { name := "verbose", action := .verbose },
     { name := "log-file", action := .logFile, takesValue := true }]

def switchNames (s : Switch) : List (Named CommandAction) :=
  [{ name := s.option, action := .switch s true },
   { name := "no-" ++ s.option, action := .switch s false }]

def commandOptions (command : Command) : Options CommandAction where
  letters := [('h', .help)]
  names :=
    [{ name := "help", action := .help }] ++ switchNames .expand ++ switchNames .dedup ++
      switchNames .lowercase ++
      if command = .parse then [{ name := "output", action := .output, takesValue := true }] else []

namespace CommandOptions

def setSwitch (o : CommandOptions) (on : Bool) : Switch → CommandOptions
  | .expand => { o with expand := some on }
  | .dedup => { o with dedup := some on }
  | .lowercase => { o with lowercase := some on }

end CommandOptions

/-- The options of a command as far as they were read. -/
structure CommandReading where
  options : CommandOptions := {}
  /-- Whether the operand came after the last option, so that a separator may still follow. -/
  fresh : Bool := false
  unrecognized : Bool := false

namespace CommandReading

def step (r : CommandReading) : Item CommandAction → Except Refusal CommandReading
  | .fault e => .error (.usage e)
  | .unknown => .ok { r with fresh := false, unrecognized := true }
  | .separator =>
    .ok { r with unrecognized := r.unrecognized || (r.options.input.isSome && !r.fresh) }
  | .operand t _ =>
    if r.options.input.isSome then .ok { r with unrecognized := true }
    else .ok { r with options := { r.options with input := some t }, fresh := true }
  | .action .help _ => .error .help
  | .action (.switch s on) _ =>
    .ok { r with options := r.options.setSwitch on s, fresh := false }
  | .action .output value =>
    .ok { r with options := { r.options with output := value }, fresh := false }

end CommandReading

def readCommand (command : Command) (words : List Text) : Except Refusal CommandReading := do
  let options := commandOptions command
  let classified ← (classifyAll options words).mapError .usage
  (items options classified).foldlM CommandReading.step {}

/-- Reads the options before the command, and the command with all that follows it. -/
def readGlobal (verbosity : Nat) (logFile : Option Text) (unrecognized : Bool) :
    List (Item GlobalAction) → Except Refusal Invocation
  | [] | .separator :: _ => .error (.usage .missingCommand)
  | .fault e :: _ => .error (.usage e)
  | .unknown :: rest => readGlobal verbosity logFile true rest
  | .action .help _ :: _ => .error .help
  | .action .verbose _ :: rest => readGlobal (verbosity + 1) logFile unrecognized rest
  | .action .logFile value :: rest => readGlobal verbosity value unrecognized rest
  | .operand name words :: _ =>
    match Command.ofName? name with
    | none => .error (.usage (.unknownCommand name))
    | some command => do
      let r ← readCommand command words
      if unrecognized || r.unrecognized then throw (.usage .unrecognized)
      return { verbosity, logFile, command, options := r.options }

def readInvocation (words : List Text) : Except Refusal Invocation := do
  let classified ← (classifyAll globalOptions words).mapError .usage
  readGlobal 0 none false (items globalOptions classified)

end Thesaurus.CommandLine
