import Thesaurus.Text.Basic

/-!
# Blank characters

Blank are the characters of bidirectional class WS, B or S and the space separators of Unicode.
They are trimmed at the ends of a text and stand between its words.
-/

set_option autoImplicit false

namespace Thesaurus.Text

/-- The blank characters: controls, the space, and the spaces and separators beyond ASCII. -/
def blanks : List Char :=
  ['\t', '\n', '\x0b', '\x0c', '\r', '\x1c', '\x1d', '\x1e', '\x1f', ' ', '\u0085', '\u00a0',
   '\u1680', '\u2000', '\u2001', '\u2002', '\u2003', '\u2004', '\u2005', '\u2006', '\u2007',
   '\u2008', '\u2009', '\u200a', '\u2028', '\u2029', '\u202f', '\u205f', '\u3000']

def isBlank (c : Char) : Bool := blanks.contains c

def trimStart (t : Text) : Text := t.dropWhile isBlank

def trimEnd (t : Text) : Text := (t.reverse.dropWhile isBlank).reverse

def trim (t : Text) : Text := trimEnd (trimStart t)

/-- The maximal runs of characters that are not blank. -/
def words (t : Text) : List Text := (pieces isBlank t).filter (!·.isEmpty)

end Thesaurus.Text
