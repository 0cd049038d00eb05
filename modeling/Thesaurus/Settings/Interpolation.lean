import Thesaurus.Settings.Ini

/-!
# Interpolation

A value may name other options of its section in the form `%(name)s`; a doubled percent sign
stands for one. Values that are put in are expanded in turn, down to a fixed depth.
-/

set_option autoImplicit false

namespace Thesaurus.Ini

inductive InterpolationError where
  | missingOption
  | malformed
  | tooDeep
deriving DecidableEq, Repr

inductive Part where
  | character (c : Char)
  | reference (name : Text)
  | malformed
deriving DecidableEq, Repr

/-- The parts of a value up to the first that is malformed; `name` is a reference that is open, its
last character first. -/
def partsFrom : Option Text → Text → List Part
  | none, [] => []
  | some _, [] => [.malformed]
  | none, '%' :: '%' :: t => .character '%' :: partsFrom none t
  | none, '%' :: '(' :: t => partsFrom (some []) t
  | none, c :: t => if c = '%' then [.malformed] else .character c :: partsFrom none t
  | some [], ')' :: _ => [.malformed]
  | some name, ')' :: 's' :: t =>
    .reference (Unicode.lowercase name.reverse) :: partsFrom none t
  | some name, c :: t => if c = ')' then [.malformed] else partsFrom (some (c :: name)) t

def parts (value : Text) : List Part := partsFrom none value

/-- A value with its references replaced, at most `depth` levels deep. -/
def expand (lookup : Text → Option Text) : Nat → Text → Except InterpolationError Text
  | 0, _ => .error .tooDeep
  | depth + 1, value => do
    let pieces ← (parts value).mapM fun
      | .character c => .ok [c]
      | .malformed => .error .malformed
      | .reference name =>
        match lookup name with
        | none => .error .missingOption
        | some found => if found.contains '%' then expand lookup depth found else .ok found
    return pieces.flatten

/-- Levels of references that are followed. -/
def depthLimit : Nat := 10

namespace Document

/-- An option of a section as it is written, the defaults standing behind the section. -/
def raw? (d : Document) (place option : Text) : Option Text :=
  match d.sections.get? place with
  | none => none
  | some options =>
    match options.get? option with
    | some value => some value
    | none => (d.sections.get? defaultsName).bind (·.get? option)

/-- The expanded value of an option, if it has one. -/
def value? (d : Document) (place option : Text) : Except InterpolationError (Option Text) :=
  match d.raw? place option with
  | none => .ok none
  | some value => (expand (d.raw? place) depthLimit value).map some

end Document

end Thesaurus.Ini
