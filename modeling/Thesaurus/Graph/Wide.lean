import Thesaurus.Graph.Catalog
import Thesaurus.Text.Wide

/-!
# Graphs of wide texts

A graph may have been built from any tokens. Its export is written as a whole or not at all: a
number with too many digits is refused before the file is opened, and a surrogate, for which there
are no bytes, when the file has been emptied already.
-/

set_option autoImplicit false

namespace Thesaurus

abbrev WideTerm := List WideText

def Term.wide (term : Term) : WideTerm := term.map Text.wide

/-- The tokens with a space between neighbours. -/
def WideTerm.display (term : WideTerm) : WideText := [CodePoint.char ' '].intercalate term

structure WideRule where
  outputs : List WideTerm := []
  keepsInput : Bool := false
deriving DecidableEq, Repr

def Rule.wide (rule : Rule) : WideRule := ⟨rule.outputs.map Term.wide, rule.keepsInput⟩

structure WideGraph where
  rules : OrderedMap WideTerm WideRule := ∅
  lookahead : Int := 0
deriving DecidableEq

def Graph.wide (g : Graph) : WideGraph where
  rules := .ofList (g.rules.entries.map fun (input, rule) => (input.wide, rule.wide))
  lookahead := g.lookahead

structure WideNamedRule where
  outputs : List WideText
  keepsInput : Bool
deriving DecidableEq, Repr

def WideRule.named (rule : WideRule) : WideNamedRule :=
  ⟨rule.outputs.map WideTerm.display, rule.keepsInput⟩

namespace WideNamedRule

def isPlain (rule : WideNamedRule) : Bool := rule.outputs.all (·.isPlain)

def chars (rule : WideNamedRule) : NamedRule := ⟨rule.outputs.map WideText.chars, rule.keepsInput⟩

end WideNamedRule

/-- Why an export is not written. -/
inductive SaveError where
  | tooManyDigits
  | file (cause : FileError)
  | surrogate
deriving DecidableEq, Repr

namespace WideGraph

/-- The rules with their terms written out. Of terms that are written alike the last one counts. -/
def named (g : WideGraph) : OrderedMap WideText WideNamedRule :=
  .ofList (g.rules.entries.map fun (input, rule) => (input.display, rule.named))

/-- The catalog of a graph in whose names no surrogate stands. -/
def catalog? (g : WideGraph) : Option Catalog :=
  let entries := g.named.entries
  if entries.all fun entry => entry.1.isPlain && entry.2.isPlain then
    some
      { rules := .ofList (entries.map (Prod.map WideText.chars WideNamedRule.chars))
        lookahead := g.lookahead }
  else none

/-- Writes the export of a graph to a path: how that ends, and the file tree behind it. -/
def save (g : WideGraph) (tree : FileTree) (path : Path) : Except SaveError Unit × FileTree :=
  if Json.digitLimit < (Text.ofNat g.lookahead.natAbs).length then (.error .tooManyDigits, tree)
  else
    match g.catalog? with
    | some catalog =>
      match tree.write path (Utf8.encode catalog.exportText) with
      | .error cause => (.error (.file cause), tree)
      | .ok after => (.ok (), after)
    | none =>
      match tree.write path [] with
      | .error cause => (.error (.file cause), tree)
      | .ok after => (.error .surrogate, after)

end WideGraph

end Thesaurus
