import Thesaurus.Text.Basic

/-!
# Escapes

A backslash takes the character behind it out of its role as a delimiter. Splitting reads a text
once into marks and cuts it at the delimiters among them; the segments keep their backslashes,
which `unescape` takes away once no delimiter has to be found any more.
-/

set_option autoImplicit false

namespace Thesaurus.Text

/-- What a scan for a delimiter meets. -/
inductive Mark where
  | delimiter
  | plain (c : Char)
  | escaped (c : Char)
deriving DecidableEq, Repr

namespace Mark

def isDelimiter : Mark → Bool
  | .delimiter => true
  | _ => false

/-- The text that a mark was read from. -/
def source : Mark → Text
  | .delimiter => []
  | .plain c => [c]
  | .escaped c => ['\\', c]

end Mark

/-- The marks of a text, with `skip` characters of a delimiter still to be passed. A delimiter is
looked for first, so that one which begins with a backslash is found too; a backslash at the very
end is plain. -/
def marksFrom (delimiter : Text) : Nat → Text → List Mark
  | _, [] => []
  | skip + 1, _ :: t => marksFrom delimiter skip t
  | 0, c :: t =>
    if delimiter.isPrefixOf (c :: t) then
      .delimiter :: marksFrom delimiter (delimiter.length - 1) t
    else if c == '\\' then
      match t with
      | [] => [.plain '\\']
      | d :: u => .escaped d :: marksFrom delimiter 0 u
    else .plain c :: marksFrom delimiter 0 t

def marks (delimiter t : Text) : List Mark := marksFrom delimiter 0 t

/-- The segments between unescaped delimiters as they are written, empty ones left out. -/
def splitAt (t delimiter : Text) : List Text :=
  ((pieces Mark.isDelimiter (marks delimiter t)).map (·.flatMap Mark.source)).filter (!·.isEmpty)

/-- An empty delimiter stands everywhere and divides nothing. -/
inductive SplitError where
  | emptyDelimiter
deriving DecidableEq, Repr

def SplitError.message : SplitError → Text
  | .emptyDelimiter => "delimiter must not be empty"

/-- The segments of a text for a delimiter of any length but zero. -/
def split (t delimiter : Text) : Except SplitError (List Text) :=
  if delimiter.isEmpty then .error .emptyDelimiter else .ok (splitAt t delimiter)

/-- A text with one backslash taken away before each escaped character. -/
def unescape : Text → Text
  | [] => []
  | '\\' :: c :: t => c :: unescape t
  | c :: t => c :: unescape t

end Thesaurus.Text
