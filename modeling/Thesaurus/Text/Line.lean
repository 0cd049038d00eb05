import Thesaurus.Text.Basic

/-!
# Lines

A text is cut into lines at any of the line breaks of Unicode and at the three separator
controls; a carriage return and the newline behind it are one break. A stream knows the newline
alone and leaves the rest of a line end to be dropped.
-/

set_option autoImplicit false

namespace Thesaurus.Text

def lineBreaks : List Char :=
  ['\n', '\r', '\x0b', '\x0c', '\x1c', '\x1d', '\x1e', '\u0085', '\u2028', '\u2029']

def isLineBreak (c : Char) : Bool := lineBreaks.contains c

/-- The lines without their breaks; a break at the very end opens no further line. -/
def lines : Text → List Text
  | [] => []
  | '\r' :: '\n' :: t => [] :: lines t
  | c :: t =>
    if isLineBreak c then [] :: lines t
    else
      match lines t with
      | [] => [[c]]
      | line :: rest => (c :: line) :: rest

/-- A line without the newlines and carriage returns at its end. -/
def dropLineEnd (line : Text) : Text :=
  (line.reverse.dropWhile fun c => c == '\n' || c == '\r').reverse

/-- The lines of a stream, which end at newlines only. -/
def streamLines (t : Text) : List Text :=
  let all := pieces (· == '\n') t
  (if all.getLast? == some [] then all.dropLast else all).map dropLineEnd

/-- A text in which every line end of a file is a newline. -/
def unifyNewlines : Text → Text
  | [] => []
  | '\r' :: '\n' :: t => '\n' :: unifyNewlines t
  | c :: t => (if c = '\r' then '\n' else c) :: unifyNewlines t

end Thesaurus.Text
