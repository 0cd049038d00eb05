import Thesaurus.Text.Basic
import Thesaurus.Unicode.Decomposition.EastAsian
import Thesaurus.Unicode.Decomposition.Letters
import Thesaurus.Unicode.Decomposition.Presentation
import Thesaurus.Unicode.Decomposition.Supplementary
import Thesaurus.Unicode.Decomposition.Symbols

/-!
# Compatibility decomposition

Every character has a full compatibility decomposition: that of the tables, that of a Korean
syllable, which is computed, or the character alone.
-/

set_option autoImplicit false

namespace Thesaurus.Unicode

namespace Hangul

/-- Korean syllables are numbered by leading consonant, vowel and trailing consonant; the first of
the `trailingCount` choices for the last is to have none. -/
def syllableBase : Nat := 0xAC00
def leadingBase : Nat := 0x1100
def vowelBase : Nat := 0x1161
def trailingBase : Nat := 0x11A7
def leadingCount : Nat := 19
def vowelCount : Nat := 21
def trailingCount : Nat := 28

def isSyllable (n : Nat) : Bool :=
  syllableBase ≤ n && n < syllableBase + leadingCount * vowelCount * trailingCount

/-- The letters of the syllable with code point `n`. -/
def letters (n : Nat) : List Nat :=
  let index := n - syllableBase
  let leading := leadingBase + index / (vowelCount * trailingCount)
  let vowel := vowelBase + index / trailingCount % vowelCount
  let trailing := index % trailingCount
  if trailing = 0 then [leading, vowel] else [leading, vowel, trailingBase + trailing]

end Hangul

namespace Decomposition

/-- What the tables, or the order of the Korean syllables, give for a code point. -/
def image? (n : Nat) : Option (List Nat) :=
  if n < 0x2000 then blockImage? n letters
  else if n < 0x3000 then blockImage? n symbols
  else if n < 0xFB00 then
    if Hangul.isSyllable n then some (Hangul.letters n) else blockImage? n eastAsian
  else if n < 0x10000 then blockImage? n presentation
  else blockImage? n supplementary

end Decomposition

def decomposition (c : Char) : Text :=
  match Decomposition.image? c.toNat with
  | some image => image.map Char.ofNat
  | none => [c]

end Thesaurus.Unicode
