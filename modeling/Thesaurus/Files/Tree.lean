import Thesaurus.Encoding.Utf8
import Thesaurus.Files.Path
import Thesaurus.OrderedMap

/-!
# File trees

Files by the names that lead to them from the root. A directory is what stands on the way to a
file, to the working directory or to another directory that is known. Relative paths begin at the
working directory, and every part of a path but the last has to be a directory. A path that is too
long, or has a part that is, is refused, and so is one with a zero character.

A file is written whole, or it is not touched and the reason is one of those named here. A disk that
is full, a file that may not be read or written and one that changes while it is read are left out.
-/

set_option autoImplicit false

namespace Thesaurus

inductive FileError where
  | missing
  | isDirectory
  | notDirectory
  | nameTooLong
  | zeroCharacter
deriving DecidableEq, Repr

def FileError.message : FileError → Text
  | .missing => "no such file or directory"
  | .isDirectory => "is a directory"
  | .notDirectory => "not a directory"
  | .nameTooLong => "file name too long"
  | .zeroCharacter => "embedded null byte"

structure FileTree where
  workingDirectory : List Text
  files : OrderedMap (List Text) Bytes := ∅
  directories : List (List Text) := []
deriving DecidableEq

namespace FileTree

inductive Entry where
  | file (content : Bytes)
  | directory
  | nothing
deriving DecidableEq, Repr

def isDirectory (tree : FileTree) (names : List Text) : Bool :=
  (tree.workingDirectory :: tree.directories ++ tree.files.keys).any (names.isPrefixOf ·)

def entry (tree : FileTree) (names : List Text) : Entry :=
  match tree.files.get? names with
  | some content => .file content
  | none => if tree.isDirectory names then .directory else .nothing

/-- The most bytes that one part of a path may have. -/
def nameLimit : Nat := 255

/-- The most bytes that a whole path may have. -/
def pathLimit : Nat := 4095

/-- The place of the last of some names, each of them seen from the place before. -/
def walk (tree : FileTree) : List Text → List Text → Except FileError (List Text)
  | place, [] => .ok place
  | place, name :: rest =>
    match tree.entry place with
    | .directory =>
      if nameLimit < (Utf8.encode name).length then .error .nameTooLong
      else tree.walk (Path.settleName place name) rest
    | .file _ => .error .notDirectory
    | .nothing => .error .missing

/-- The place that a path leads to, whether or not something is there. -/
def locate (tree : FileTree) (p : Path) : Except FileError (List Text) :=
  if p.text.contains '\x00' then .error .zeroCharacter
  else if pathLimit < (Utf8.encode p.text).length then .error .nameTooLong
  else tree.walk (if p.root.isEmpty then tree.workingDirectory else []) p.names

/-- Whether a path leads to a file or a directory. Of what is too long this cannot be said. -/
def exists? (tree : FileTree) (p : Path) : Except FileError Bool :=
  match tree.locate p with
  | .ok place => .ok (tree.entry place != .nothing)
  | .error .nameTooLong => .error .nameTooLong
  | .error _ => .ok false

def read (tree : FileTree) (p : Path) : Except FileError Bytes := do
  match tree.entry (← tree.locate p) with
  | .file content => return content
  | .directory => throw .isDirectory
  | .nothing => throw .missing

/-- The tree after a change to the content of a file, which is made if it is not there. -/
def update (tree : FileTree) (p : Path) (change : Bytes → Bytes) : Except FileError FileTree := do
  let place ← tree.locate p
  match tree.entry place with
  | .directory => throw .isDirectory
  | _ =>
    return { tree with
      files := tree.files.alter (fun content => change (content.getD [])) place }

def write (tree : FileTree) (p : Path) (content : Bytes) : Except FileError FileTree :=
  tree.update p fun _ => content

def append (tree : FileTree) (p : Path) (content : Bytes) : Except FileError FileTree :=
  tree.update p (· ++ content)

/-- The files that are not the same in an earlier tree. -/
def changesSince (tree before : FileTree) : List (List Text × Bytes) :=
  tree.files.entries.filter fun (names, content) => before.files.get? names != some content

end FileTree

end Thesaurus
