import Thesaurus.Json.Basic
import Thesaurus.Text.Quoted

/-!
# Writing JSON

One writer serves two layouts: indented, with a value on each line, and compact. Strings escape
the quote, the backslash and the controls below the space, and nothing else.
-/

set_option autoImplicit false

namespace Thesaurus.Json

structure Layout where
  /-- Spaces by which each level is indented; without a number nothing is broken into lines. -/
  indent : Option Nat
  colon : Text

namespace Layout

/-- Two spaces a level. -/
def indented : Layout := ⟨some 2, ": "⟩

def compact : Layout := ⟨none, ":"⟩

/-- What stands before an item at a depth. -/
def lineBreak (l : Layout) (depth : Nat) : Text :=
  match l.indent with
  | some width => '\n' :: List.replicate (width * depth) ' '
  | none => []

end Layout

def escapeChar (c : Char) : Text :=
  if c = '"' then "\\\""
  else if c = '\\' then "\\\\"
  else if c = '\n' then "\\n"
  else if c = '\r' then "\\r"
  else if c = '\t' then "\\t"
  else if c = '\x08' then "\\b"
  else if c = '\x0c' then "\\f"
  else if c.toNat < 0x20 then "\\u" ++ Text.hexadecimal 4 c.toNat
  else [c]

def writeString (t : Text) : Text := '"' :: t.flatMap escapeChar ++ ['"']

mutual

/-- The text of a value that stands at a depth. -/
def write (l : Layout) (depth : Nat) : Json → Text
  | .null => "null"
  | .bool b => if b then "true" else "false"
  | .number literal => literal
  | .string t => writeString t
  | .array [] => "[]"
  | .array (item :: items) =>
    "[" ++ l.lineBreak (depth + 1) ++ write l (depth + 1) item ++ writeItems l (depth + 1) items ++
      l.lineBreak depth ++ "]"
  | .object [] => "\x7b\x7d"
  | .object ((name, value) :: members) =>
    "\x7b" ++ l.lineBreak (depth + 1) ++ writeString name ++ l.colon ++
      write l (depth + 1) value ++ writeMembers l (depth + 1) members ++ l.lineBreak depth ++ "\x7d"

/-- Further items, each behind a comma. -/
def writeItems (l : Layout) (depth : Nat) : List Json → Text
  | [] => []
  | item :: items =>
    "," ++ l.lineBreak depth ++ write l depth item ++ writeItems l depth items

/-- Further members, each behind a comma. -/
def writeMembers (l : Layout) (depth : Nat) : List (Text × Json) → Text
  | [] => []
  | (name, value) :: members =>
    "," ++ l.lineBreak depth ++ writeString name ++ l.colon ++ write l depth value ++
      writeMembers l depth members

end

/-- Whether one text comes before another, or is the same, by code points. -/
def nameLe : Text → Text → Bool
  | [], _ => true
  | _ :: _, [] => false
  | c :: s, d :: t => c.toNat < d.toNat || (c == d && nameLe s t)

mutual

/-- The same value with the members of every object sorted by name. -/
def sortMembers : Json → Json
  | .array items => .array (sortItems items)
  | .object members => .object ((sortValues members).mergeSort fun a b => nameLe a.1 b.1)
  | j => j

def sortItems : List Json → List Json
  | [] => []
  | item :: items => sortMembers item :: sortItems items

def sortValues : List (Text × Json) → List (Text × Json)
  | [] => []
  | (name, value) :: members => (name, sortMembers value) :: sortValues members

end

end Thesaurus.Json
