import Thesaurus.Unicode.CombiningClass
import Thesaurus.Unicode.Composition

/-!
# Compatibility normalization

A text is decomposed character by character, its marks are put into canonical order and what can
be joined is joined again: normalization form KC.
-/

set_option autoImplicit false

namespace Thesaurus.Unicode

/-- Puts a character in front of an ordered text, behind the marks there that go before it. -/
def place (c : Char) : Text → Text
  | [] => [c]
  | d :: t =>
    if 0 < combiningClass d && combiningClass d < combiningClass c then d :: place c t
    else c :: d :: t

/-- Canonical order: marks stand in ascending class between two starters, those of one class in
the order in which they came. -/
def reorder (t : Text) : Text := t.foldr place []

/-- Whether a mark that stays behind the starter keeps `c` from joining it; `kept` has the last
one in front. -/
def isBlocked (kept : Text) (c : Char) : Bool :=
  match kept with
  | [] => false
  | d :: _ => combiningClass c ≤ combiningClass d

/-- Joins to `starter` what nothing blocks; `kept` are the marks that stay, the last one first. -/
def joinTo (starter : Char) (kept : Text) : Text → Text
  | [] => starter :: kept.reverse
  | c :: t =>
    match if isBlocked kept c then none else composite? starter c with
    | some joined => joinTo joined kept t
    | none =>
      if isStarter c then starter :: (kept.reverse ++ joinTo c [] t)
      else joinTo starter (c :: kept) t

/-- Canonical composition of an ordered text. -/
def compose : Text → Text
  | [] => []
  | c :: t => if isStarter c then joinTo c [] t else c :: compose t

/-- Normalization form KC. -/
def compatibilityForm (t : Text) : Text := compose (reorder (t.flatMap decomposition))

end Thesaurus.Unicode
