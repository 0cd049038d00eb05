import Thesaurus.Encoding.Utf8
import Thesaurus.ServerLog.Template

/-!
# The log of a server

A log passes records of a level high enough to its handlers. Configuring it takes all handlers
away that it has and attaches a console, so that it writes each record once however often it was
configured. A record whose message cannot be filled is left out.

What a console writes goes through UTF-8 and comes back as the same text. So it does not depend on
that whether the stream takes it: the stream here is one that takes every text. One that is encoded
in less than that refuses what it has no bytes for, and the entry is lost.
-/

set_option autoImplicit false

namespace Thesaurus

namespace ServerLog

inductive Handler where
  | console
  | other (id : Nat)
deriving DecidableEq, Repr

structure Record where
  level : Int
  message : Text
  arguments : List Text := []
deriving DecidableEq, Repr

def infoLevel : Int := 20

def warningLevel : Int := 30

def namedLevels : List (Int × Text) :=
  [(10, "DEBUG"), (20, "INFO"), (30, "WARNING"), (40, "ERROR"), (50, "CRITICAL")]

def levelName (level : Int) : Text :=
  match namedLevels.lookup level with
  | some name => name
  | none =>
    "Level " ++ if level < 0 then '-' :: Text.ofNat level.natAbs else Text.ofNat level.natAbs

end ServerLog

/-- The handlers of a log and the least level it lets through. -/
structure ServerLog where
  handlers : List ServerLog.Handler := []
  threshold : Int := ServerLog.warningLevel
deriving DecidableEq, Repr

namespace ServerLog

def detach (log : ServerLog) (h : Handler) : ServerLog :=
  { log with handlers := log.handlers.erase h }

def attach (log : ServerLog) (h : Handler) : ServerLog :=
  if log.handlers.contains h then log else { log with handlers := log.handlers ++ [h] }

/-- Puts a console in the place of all handlers. -/
def configure (log : ServerLog) (level : Int := infoLevel) : ServerLog :=
  { (log.handlers.foldl detach log).attach .console with threshold := level }

/-- Whether a record is let through; one without a positive level never is. -/
def passes (log : ServerLog) (r : Record) : Bool := 0 < r.level && log.threshold ≤ r.level

/-- The line of a record at a time. -/
def formatted? (time : Text) (r : Record) : Option Text :=
  (fill r.message r.arguments).map fun message =>
    time ++ " - " ++ levelName r.level ++ " - " ++ message

/-- What a console puts on its stream for a line: as much of it as its bytes still tell. -/
def entry (line : Text) : Text := Utf8.decodeIntact (Utf8.encode line) ++ "\n"

/-- The entries that the consoles of a log put on their stream for a record. -/
def entries (log : ServerLog) (time : Text) (r : Record) : List Text :=
  if log.passes r then
    (log.handlers.filter (· == .console)).filterMap fun _ => (formatted? time r).map entry
  else []

def write (log : ServerLog) (time : Text) (r : Record) : Text := (log.entries time r).flatten

/-- Whether a handler meets a record that it cannot format. -/
def fails (log : ServerLog) (time : Text) (r : Record) : Bool :=
  log.passes r && !log.handlers.isEmpty && (formatted? time r).isNone

end ServerLog

end Thesaurus
