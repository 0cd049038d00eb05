import Thesaurus.Encoding.Utf16
import Thesaurus.Files.Tree
import Thesaurus.Rules.Parser

/-!
# Rule files

A rule file is UTF-8, with or without a byte order mark, or UTF-16 with one. Damaged UTF-8 is read
leniently and reported; of a file read so, a byte order mark stays in the text.
-/

set_option autoImplicit false

namespace Thesaurus

/-- Why no text can be had from a rule file. -/
inductive ReadError where
  | noRules (path : Text)
  | file (cause : FileError)
  | malformed
deriving DecidableEq, Repr

inductive LoadError where
  | read (cause : ReadError)
  | parse (cause : Rules.ParseError)
deriving DecidableEq, Repr

/-- The wording of the library's own refusals. -/
def ReadError.message : ReadError → Text
  | .noRules path => "synonym rules not found: " ++ path
  | _ => []

namespace RuleFile

/-- The text of the bytes of a rule file, and whether characters had to be replaced. -/
def decode (bytes : Bytes) : Option (Text × Bool) :=
  match Utf16.marked? bytes with
  | some (order, rest) => (Utf16.decode? order rest).map (·, false)
  | none =>
    match Utf8.decode? (Utf8.dropMark bytes) with
    | some t => some (t, false)
    | none => some (Utf8.decodeLenient bytes, true)

def readText (tree : FileTree) (path : Path) : Reporting ReadError Text := do
  match tree.exists? path with
  | .error cause => throw (.file cause)
  | .ok true => pure ()
  | .ok false => do
    Reporting.report (.rulesMissing path.text)
    throw (.noRules path.text)
  match tree.read path with
  | .error cause => throw (.file cause)
  | .ok bytes =>
    match decode bytes with
    | none => throw .malformed
    | some (t, replaced) =>
      if replaced then Reporting.report (.charactersReplaced path.text)
      return t

/-- Carries out a step of a parser on a session of its own and reports what it reports. -/
def parsing {α : Type} (step : Rules.Step α) (session : Rules.Session) : Reporting LoadError α := do
  let (outcome, after) := step.runFrom session
  modify (· ++ after.events)
  match outcome with
  | .ok a => return a
  | .error cause => throw (.parse cause)

/-- The graph of the rule file at `path`, which is reported under the name it was given. -/
def load (tree : FileTree) (path : Text) (parser : Rules.Parser)
    (commentMark : Option Text := Rules.defaultCommentMark) : Reporting LoadError Graph := do
  let t ← (readText tree (.ofText path)).adapt .read
  let graph ← parsing (parser.graph (.items (Rules.contentLines commentMark t) none)) parser.start
  Reporting.report (.graphLoaded path graph.size graph.countEdges)
  return graph

end RuleFile

end Thesaurus
