import Thesaurus.Text.Basic
import Thesaurus.Text.Quoted

/-!
# Terms

A term is the sequence of tokens that stands for a word or a phrase. Two terms are the same node
of a graph when their tokens are the same.
-/

set_option autoImplicit false

namespace Thesaurus

abbrev Token := Text

abbrev Term := List Token

namespace Term

/-- The tokens with a space between neighbours, as exports show a term. -/
def display (term : Term) : Text := Text.join " " term

/-- The tokens quoted and listed in parentheses, as log lines show a term; a single token is
followed by a comma. -/
def listing : Term → Text
  | [token] => "(" ++ Text.quoted token ++ ",)"
  | tokens => "(" ++ Text.join ", " (tokens.map Text.quoted) ++ ")"

end Term

end Thesaurus
