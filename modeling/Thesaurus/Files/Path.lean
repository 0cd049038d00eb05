import Thesaurus.Text.Basic

/-!
# Paths

A path is a root and the names behind it. Repeated slashes, single dots and a slash at the end say
nothing and are dropped; a pair of dots stays, since where it leads depends on what is there.
-/

set_option autoImplicit false

namespace Thesaurus

structure Path where
  /-- Nothing, one slash, or exactly two, which are a root of their own. -/
  root : Text
  names : List Text
deriving DecidableEq, Repr

namespace Path

def parentName : Text := ['.', '.']

def ofText (t : Text) : Path where
  root :=
    match (t.takeWhile (· == '/')).length with
    | 0 => []
    | 2 => "//"
    | _ => "/"
  names := (Text.pieces (· == '/') t).filter fun name => !name.isEmpty && name != ['.']

/-- The path as it is shown; the empty path is a dot. -/
def text (p : Path) : Text :=
  let t := p.root ++ Text.join "/" p.names
  if t.isEmpty then ['.'] else t

/-- The directory that a path names its last part in. -/
def parent (p : Path) : Path := { p with names := p.names.dropLast }

/-- A path seen from a directory: an absolute one stays as it is. -/
def under (directory p : Path) : Path :=
  if p.root.isEmpty then { directory with names := directory.names ++ p.names } else p

/-- Where a name leads from a directory when names alone are looked at. -/
def settleName (directory : List Text) (name : Text) : List Text :=
  if name = parentName then directory.dropLast else directory ++ [name]

/-- The absolute path of a path seen from a directory, its pairs of dots worked out by the names
alone, whatever is there. -/
def settled (directory : List Text) (p : Path) : Path where
  root := "/"
  names := p.names.foldl settleName (if p.root.isEmpty then directory else [])

end Path

end Thesaurus
