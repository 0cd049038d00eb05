import Thesaurus.Term

/-!
# Events

What the library reports while it works, beside its results. An event is a cause; its level and
its wording follow from it.
-/

set_option autoImplicit false

namespace Thesaurus

inductive Level where
  | debug
  | info
  | warning
  | error
deriving DecidableEq, Repr

namespace Level

def rank : Level → Nat
  | .debug => 10
  | .info => 20
  | .warning => 30
  | .error => 40

def name : Level → Text
  | .debug => "DEBUG"
  | .info => "INFO"
  | .warning => "WARNING"
  | .error => "ERROR"

end Level

inductive Event where
  | duplicateEdge (input output : Term)
  | graphBuilt (inputs edges : Nat)
  | rulesProcessed (lines groups : Nat)
  | rulesMissing (path : Text)
  | charactersReplaced (path : Text)
  | graphLoaded (path : Text) (inputs edges : Nat)
  | notBoolean (name value : Text)
  | rulesFaulty (path reason : Text)
  | graphWritten (path : Text)
  | rulesRejected (reason : Text)
  | serviceReady (root : Text)
deriving DecidableEq, Repr

namespace Event

def level : Event → Level
  | .duplicateEdge .. | .graphBuilt .. | .rulesProcessed .. => .debug
  | .graphLoaded .. | .graphWritten _ | .serviceReady _ => .info
  | .charactersReplaced _ | .notBoolean .. | .rulesFaulty .. | .rulesRejected _ => .warning
  | .rulesMissing _ => .error

def text : Event → Text
  | .duplicateEdge input output =>
    "Doppelte Kante ignoriert: " ++ input.listing ++ " -> " ++ output.listing
  | .graphBuilt inputs edges =>
    "Synonymgraph gebaut: " ++ Text.ofNat inputs ++ " Eingaben, " ++ Text.ofNat edges ++ " Kanten"
  | .rulesProcessed lines groups =>
    Text.ofNat lines ++ " Zeilen mit " ++ Text.ofNat groups ++ " Gruppen verarbeitet"
  | .rulesMissing path => "Synonymregeln " ++ path ++ " nicht gefunden"
  | .charactersReplaced path =>
    "Synonymregeln " ++ path ++ " nicht sauber dekodierbar, ersetze Zeichen"
  | .graphLoaded path inputs edges =>
    "Synonymregeln " ++ path ++ " geladen: " ++ Text.ofNat inputs ++ " Eingaben, " ++
      Text.ofNat edges ++ " Kanten"
  | .notBoolean name value =>
    "Ignoriere ungueltigen Wahrheitswert fuer " ++ name ++ ": " ++ value
  | .rulesFaulty path reason => "Synonymregeln " ++ path ++ " fehlerhaft: " ++ reason
  | .graphWritten path => "Graph nach " ++ path ++ " geschrieben"
  | .rulesRejected reason => "Synonymregeln abgelehnt: " ++ reason
  | .serviceReady root => "Synonym-API registriert unter " ++ root

/-- The level, a colon and the text. -/
def line (e : Event) : Text := e.level.name ++ ": " ++ e.text

/-- The events of at least a given level. -/
def atLeast (least : Level) (events : List Event) : List Event :=
  events.filter fun e => least.rank ≤ e.level.rank

end Event

/-- An activity that reports events and may fail; what it reported before stands. -/
abbrev Reporting (ε : Type) := ExceptT ε (StateM (Array Event))

namespace Reporting

variable {ε α : Type}

def report (e : Event) : Reporting ε Unit := modify (·.push e)

/-- The outcome and all that was reported. -/
def outcome (activity : Reporting ε α) : Except ε α × List Event :=
  let (result, events) := activity.run.run #[]
  (result, events.toList)

end Reporting

end Thesaurus
