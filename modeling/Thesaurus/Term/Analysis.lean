import Thesaurus.Term
import Thesaurus.Text.Blank
import Thesaurus.Unicode.Compatibility
import Thesaurus.Unicode.Lowercase

/-!
# Normalizers

A normalizer turns the text of a term into tokens, or refuses it. The analyzer brings a text into
compatibility form, writes it small unless told otherwise and takes its words.
-/

set_option autoImplicit false

namespace Thesaurus

structure TermError where
  term : Text
  reason : Text
deriving DecidableEq, Repr

def TermError.message (e : TermError) : Text :=
  "term: " ++ e.term ++ " " ++ e.reason

abbrev Normalizer := Text → Except TermError Term

structure Analyzer where
  lowercase : Bool := true
deriving DecidableEq, Repr

namespace Analyzer

def analyze (a : Analyzer) (t : Text) : Term :=
  let form := Unicode.compatibilityForm t
  Text.words (if a.lowercase then Unicode.lowercase form else form)

/-- A text without a word cannot be matched and is refused. -/
def normalizer (a : Analyzer) : Normalizer := fun t =>
  match a.analyze t with
  | [] => .error ⟨t, "analyzed to a zero-length token"⟩
  | term => .ok term

def describe (a : Analyzer) : Text :=
  "AnalyzerNormalizer(lowercase=" ++ (if a.lowercase then "True" else "False") ++ ")"

end Analyzer

namespace Normalizer

/-- The whole text is the one token, even when it is empty. -/
def whole : Normalizer := fun t => .ok [t]

/-- Every character is a token. -/
def characters : Normalizer := fun t => .ok (t.map ([·]))

end Normalizer

end Thesaurus
