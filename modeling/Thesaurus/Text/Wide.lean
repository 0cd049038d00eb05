import Thesaurus.Text.Basic

/-!
# Wide texts

A text that comes from elsewhere may hold surrogates that stand alone, which are no characters. A
wide text is one of code points, surrogates included; it is plain if all of them are characters.
Nothing that reads rules tells a surrogate from a character of private use, so that a wide text can
be sheltered: written with such characters in the place of its surrogates, from which it comes back.
-/

set_option autoImplicit false

namespace Thesaurus

/-- A character, or a surrogate by its place among the surrogates. -/
inductive CodePoint where
  | char (c : Char)
  | surrogate (n : Fin 0x800)
deriving DecidableEq, Repr

abbrev WideText := List CodePoint

def Text.wide (t : Text) : WideText := t.map .char

namespace CodePoint

def char? : CodePoint → Option Char
  | .char c => some c
  | .surrogate _ => none

/-- The last character of private use. It announces a surrogate, or stands twice for itself. -/
def mark : Char := Char.ofNat 0x10FFFD

/-- What stands behind the mark for a surrogate. -/
def shelter (n : Fin 0x800) : Char := Char.ofNat (0x100000 + n)

def unshelter (c : Char) : CodePoint :=
  if h : 0x100000 ≤ c.toNat ∧ c.toNat < 0x100800 then .surrogate ⟨c.toNat - 0x100000, by omega⟩
  else .char c

end CodePoint

namespace WideText

def isPlain (t : WideText) : Bool := t.all (·.char?.isSome)

/-- The characters of a text; of a plain one that is all. -/
def chars (t : WideText) : Text := t.filterMap CodePoint.char?

def shelter (t : WideText) : Text :=
  t.flatMap fun
    | .char c => if c = CodePoint.mark then [c, c] else [c]
    | .surrogate n => [CodePoint.mark, CodePoint.shelter n]

/-- The text that was sheltered. -/
def unshelter : Text → WideText
  | [] => []
  | [c] => [.char c]
  | c :: d :: t =>
    if c = CodePoint.mark then CodePoint.unshelter d :: unshelter t
    else .char c :: unshelter (d :: t)

end WideText

end Thesaurus
