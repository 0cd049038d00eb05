import Thesaurus.Term.Analysis
import Thesaurus.Text.Escape

/-!
# Groups

A rule line holds groups between bars, a group holds two terms between commas. Both delimiters may
stand in a term behind a backslash.
-/

set_option autoImplicit false

namespace Thesaurus.Rules

/-- Why a rule text is rejected: a group has more or fewer than two terms, or one cannot be used. -/
inductive RuleError where
  | notPair (group : Text)
  | term (cause : TermError)
deriving DecidableEq, Repr

def RuleError.message : RuleError → Text
  | .notPair group => "synonym mapping is invalid for " ++ group
  | .term cause => cause.message

def groupDelimiter : Text := ['|']

def termDelimiter : Text := [',']

/-- The groups of a line as they are written; a line of bars has none. -/
def groups (line : Text) : List Text := line.splitAt groupDelimiter

/-- The two terms of a group. Escapes go before blanks are trimmed, so that an escaped blank is
trimmed as well. -/
def terms (group : Text) : Except RuleError (List Text) :=
  let parts := group.splitAt termDelimiter
  if parts.length = 2 then .ok (parts.map fun part => part.unescape.trim)
  else .error (.notPair group)

end Thesaurus.Rules
