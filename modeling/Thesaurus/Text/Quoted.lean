import Thesaurus.Text.Basic
import Thesaurus.Unicode.Printable

/-!
# Quoted texts

A text in quotes, as log lines show it. The quotes are single unless the text holds a single quote
and no double one. A backslash, the quote in use and what cannot be printed are escaped, the last
by their code points in hexadecimal.
-/

set_option autoImplicit false

namespace Thesaurus.Text

/-- The last `width` hexadecimal digits of a number. -/
def hexadecimal : Nat → Nat → Text
  | 0, _ => []
  | width + 1, n => hexadecimal width (n / 16) ++ [Nat.digitChar (n % 16)]

/-- One character of a quoted text, `shown` saying which characters stand for themselves. -/
def quotedChar (shown : Char → Bool) (quote c : Char) : Text :=
  if c = quote || c = '\\' then ['\\', c]
  else if c = '\n' then "\\n"
  else if c = '\r' then "\\r"
  else if c = '\t' then "\\t"
  else if shown c then [c]
  else if c.toNat < 0x100 then "\\x" ++ hexadecimal 2 c.toNat
  else if c.toNat < 0x10000 then "\\u" ++ hexadecimal 4 c.toNat
  else "\\U" ++ hexadecimal 8 c.toNat

def quotedWith (shown : Char → Bool) (t : Text) : Text :=
  let quote := if t.contains '\'' && !t.contains '"' then '"' else '\''
  quote :: t.flatMap (quotedChar shown quote) ++ [quote]

def quoted (t : Text) : Text := quotedWith Unicode.isPrintable t

/-- A quoted text in which all beyond ASCII is escaped. -/
def quotedAscii (t : Text) : Text :=
  quotedWith (fun c => c.toNat < 0x80 && Unicode.isPrintable c) t

end Thesaurus.Text
