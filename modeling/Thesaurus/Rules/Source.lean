import Thesaurus.Text.Blank
import Thesaurus.Text.Line

/-!
# Sources of rules

Rules come as one text, as a stream, or as ready lines from elsewhere, which may break off.
-/

set_option autoImplicit false

namespace Thesaurus.Rules

inductive Source where
  | text (t : Text)
  | stream (t : Text)
  /-- Lines with or without their ends, and the failure that comes after them, if any. -/
  | items (lines : List Text) (failure : Option Text)
deriving DecidableEq, Repr

namespace Source

/-- The lines that a source delivers. -/
def lines : Source → List Text
  | .text t => t.lines
  | .stream t => t.streamLines
  | .items lines _ => lines.map Text.dropLineEnd

/-- What goes wrong behind the last line. -/
def failure : Source → Option Text
  | .items _ failure => failure
  | _ => none

end Source

/-- Whether a line holds a rule: it is not blank and does not begin with the comment mark. -/
def isContent (commentMark : Option Text) (line : Text) : Bool :=
  let content := line.trim
  !content.isEmpty &&
    match commentMark with
    | none | some [] => true
    | some mark => !mark.isPrefixOf content

/-- The lines of a rule file that hold rules, as they are written. -/
def contentLines (commentMark : Option Text) (t : Text) : List Text :=
  t.lines.filter (isContent commentMark)

/-- What begins a comment where nothing else is said. -/
def defaultCommentMark : Option Text := some "#"

end Thesaurus.Rules
