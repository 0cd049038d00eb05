import Thesaurus.Files.Tree
import Thesaurus.Graph.Basic
import Thesaurus.Json.Writer

/-!
# Catalogs

A catalog is a graph with its terms written out as names. Terms that are written alike share a
name: its place is that of the first, its rule that of the last.
-/

set_option autoImplicit false

namespace Thesaurus

structure NamedRule where
  outputs : List Text
  keepsInput : Bool
deriving DecidableEq, Repr

structure Catalog where
  rules : OrderedMap Text NamedRule
  lookahead : Int
deriving DecidableEq

def Rule.named (rule : Rule) : NamedRule :=
  ⟨rule.outputs.map Term.display, rule.keepsInput⟩

def Graph.catalog (g : Graph) : Catalog where
  rules := .ofList (g.rules.entries.map fun (input, rule) => (input.display, rule.named))
  lookahead := g.lookahead

namespace NamedRule

def json (rule : NamedRule) : Json :=
  .object [("outputs", .array (rule.outputs.map .string)),
    ("include_original", .bool rule.keepsInput)]

end NamedRule

namespace Catalog

def json (c : Catalog) : Json :=
  .object [("rules", .object (c.rules.mapValues NamedRule.json).entries),
    ("max_horizontal_context", .ofInt c.lookahead)]

/-- The text of an export file, without a newline at the end. -/
def exportText (c : Catalog) : Text := c.json.write .indented 0

end Catalog

/-- The file tree after the export of a graph was written to a path. No surrogate stands in the
terms here and no lookahead that rules lead to has too many digits, so that an export is refused
only if the file is; `WideGraph.save` goes without both. -/
def Graph.save (g : Graph) (tree : FileTree) (path : Path) : Except FileError FileTree :=
  tree.write path (Utf8.encode g.catalog.exportText)

end Thesaurus
