import Thesaurus.OrderedMap
import Thesaurus.Text.Blank
import Thesaurus.Text.Line
import Thesaurus.Unicode.Lowercase

/-!
# Configuration documents

A document has sections with options. A line that is indented deeper than the option above it goes
on with that option's value, blank lines included. Lines that begin with `#` or `;` are comments.
Option names are written small; sections and options may not come twice, except that the section of
defaults may be opened again.
-/

set_option autoImplicit false

namespace Thesaurus.Ini

/-- Why a document is refused. -/
inductive ReadError where
  | missingHeader
  | unreadableLine
  | duplicateSection
  | duplicateOption
deriving DecidableEq, Repr

/-- The values of a section as they are written, by option. -/
abbrev Section := OrderedMap Text Text

structure Document where
  sections : OrderedMap Text Section := ∅
deriving DecidableEq

/-- The section whose options hold in every other one. -/
def defaultsName : Text := "DEFAULT"

/-- A document as far as it was read; the lines of a value come last first. -/
structure Reading where
  sections : OrderedMap Text (OrderedMap Text (List Text)) := ∅
  current : Option Text := none
  /-- The option whose value may go on. -/
  option : Option Text := none
  indent : Nat := 0
  /-- Whether a line was met that is neither header nor option. -/
  damaged : Bool := false

def isComment (content : Text) : Bool :=
  match content with
  | c :: _ => c == '#' || c == ';'
  | [] => false

/-- The name in a section header, which reaches to the last bracket. -/
def header? (content : Text) : Option Text :=
  match content with
  | '[' :: rest =>
    match rest.reverse.dropWhile (· != ']') with
    | _ :: c :: name => some (c :: name).reverse
    | _ => none
  | _ => none

def isDelimiter (c : Char) : Bool := c == '=' || c == ':'

/-- Name and value on either side of the first delimiter. -/
def option? (content : Text) : Option (Text × Text) :=
  match content.dropWhile (!isDelimiter ·) with
  | [] => none
  | _ :: value => some (Text.trimEnd (content.takeWhile (!isDelimiter ·)), Text.trim value)

namespace Reading

/-- Adds a line to the value that may go on. -/
def extend (r : Reading) (line : Text) : Reading :=
  match r.current, r.option with
  | some name, some option =>
    { r with
      sections := r.sections.alter
        (fun options => (options.getD ∅).alter (fun lines => line :: lines.getD []) option) name }
  | _, _ => r

def openSection (r : Reading) (name : Text) : Except ReadError Reading :=
  if r.sections.contains name then
    if name = defaultsName then .ok { r with current := some name, option := none }
    else .error .duplicateSection
  else
    .ok { r with
      sections := r.sections.insert name ∅
      current := some name
      option := none }

/-- Takes an option into a section. One without a name is kept, but damages the document. -/
def openOption (r : Reading) (place name value : Text) : Except ReadError Reading :=
  let options := (r.sections.get? place).getD ∅
  if options.contains name then .error .duplicateOption
  else
    .ok { r with
      sections := r.sections.insert place (options.insert name [value])
      option := if name.isEmpty then none else some name
      damaged := r.damaged || name.isEmpty }

def readLine (r : Reading) (line : Text) : Except ReadError Reading :=
  let content := line.trim
  if isComment content then .ok r
  else if content.isEmpty then .ok (r.extend [])
  else
    let indent := (line.takeWhile Text.isBlank).length
    if r.current.isSome && r.option.isSome && r.indent < indent then .ok (r.extend content)
    else
      let r := { r with indent }
      match header? content, r.current with
      | some name, _ => r.openSection name
      | none, none => .error .missingHeader
      | none, some place =>
        match option? content with
        | some (name, value) => r.openOption place (Unicode.lowercase name) value
        | none => .ok { r with damaged := true }

def document (r : Reading) : Document where
  sections := r.sections.mapValues (·.mapValues fun lines => (Text.join "\n" lines.reverse).trimEnd)

end Reading

/-- The document that a text writes. Unreadable lines are reported only when nothing worse comes. -/
def read (t : Text) : Except ReadError Document := do
  let r ← (Text.pieces (· == '\n') t.unifyNewlines).foldlM Reading.readLine {}
  if r.damaged then throw .unreadableLine
  return r.document

end Thesaurus.Ini
