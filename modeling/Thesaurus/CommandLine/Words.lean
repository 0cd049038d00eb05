import Thesaurus.Text.Basic
import Thesaurus.Unicode.Digit

/-!
# Words of a command line

A word is an operand, an option or the separator behind which all words are operands. Options have
names behind two dashes, which may be shortened while they stay unambiguous, and flags may have a
letter behind one dash, several of which may share it. What each word is depends on the options that
are known, and is settled for all words before any of them is acted upon.
-/

set_option autoImplicit false

namespace Thesaurus.CommandLine

/-- Why a command line cannot be understood. -/
inductive UsageError where
  | ambiguous (word : Text)
  | missingValue (name : Text)
  | unexpectedValue (name : Text)
  | unrecognized
  | missingCommand
  | unknownCommand (word : Text)
deriving DecidableEq, Repr

/-- An option with a name; the dashes are not part of it. -/
structure Named (ω : Type) where
  name : Text
  action : ω
  takesValue : Bool := false

/-- The options that are known at one place of a command line. -/
structure Options (ω : Type) where
  letters : List (Char × ω)
  names : List (Named ω)

inductive Word (ω : Type) where
  | operand
  | separator
  | unknown
  | letters (t : Text)
  | named (option : Named ω) (value : Option Text)

variable {ω : Type}

/-- Whether a word is a minus sign with a number, which is an operand. -/
def isNegativeNumber : Text → Bool
  | '-' :: t =>
    let whole := t.takeWhile Unicode.isDecimalDigit
    match t.dropWhile Unicode.isDecimalDigit with
    | [] | ['\n'] => !whole.isEmpty
    | '.' :: fraction =>
      let digits := fraction.takeWhile Unicode.isDecimalDigit
      let rest := fraction.dropWhile Unicode.isDecimalDigit
      !digits.isEmpty && (rest.isEmpty || rest == ['\n'])
    | _ => false
  | _ => false

/-- What a word that names no option is. -/
def unmatched (w : Text) : Word ω :=
  if isNegativeNumber w || w.contains ' ' then .operand else .unknown

/-- The option that a name behind two dashes stands for: its own, or the only one it begins. -/
def classifyName (options : Options ω) (w body : Text) : Except UsageError (Word ω) :=
  let name := body.takeWhile (· != '=')
  let value := match body.dropWhile (· != '=') with
    | [] => none
    | _ :: value => some value
  match options.names.find? (·.name == name) with
  | some option => .ok (.named option value)
  | none =>
    match options.names.filter (name.isPrefixOf ·.name) with
    | [] => .ok (unmatched w)
    | [option] => .ok (.named option value)
    | _ => .error (.ambiguous w)

def classify (options : Options ω) (w : Text) : Except UsageError (Word ω) :=
  match w with
  | '-' :: '-' :: body => if body.isEmpty then .ok .separator else classifyName options w body
  | '-' :: c :: rest =>
    if (options.letters.lookup c).isSome then .ok (.letters (c :: rest)) else .ok (unmatched w)
  | _ => .ok .operand

/-- The words of a command line with what they are. -/
def classifyAll (options : Options ω) : List Text → Except UsageError (List (Text × Word ω))
  | [] => .ok []
  | w :: rest => do
    let word ← classify options w
    match word with
    | .separator => return (w, word) :: rest.map fun operand => (operand, .operand)
    | _ => return (w, word) :: (← classifyAll options rest)

/-- What a command line says, in order. -/
inductive Item (ω : Type) where
  | action (a : ω) (value : Option Text)
  /-- An operand with the words behind it. -/
  | operand (t : Text) (rest : List Text)
  | separator
  | unknown
  | fault (e : UsageError)

/-- The actions of letters behind one dash; the first letter that is not known ends them. -/
def readLetters (options : Options ω) : Text → Except UsageError (List (Item ω))
  | [] => .ok []
  | c :: t =>
    if c == '-' || c == '=' then .error (.unexpectedValue [c])
    else
      match options.letters.lookup c with
      | some a => (readLetters options t).map (.action a none :: ·)
      | none => .ok [.unknown]

/-- A word of letters is read to its end before any of them is acted upon. -/
def letterItems (options : Options ω) (t : Text) : List (Item ω) :=
  match readLetters options t with
  | .ok items => items
  | .error e => [.fault e]

/-- The items of classified words. An option takes its value from behind the equals sign, or it
takes the operand that follows. -/
def items (options : Options ω) : List (Text × Word ω) → List (Item ω)
  | [] => []
  | (t, .operand) :: rest => .operand t (rest.map Prod.fst) :: items options rest
  | (_, .separator) :: rest => .separator :: items options rest
  | (_, .unknown) :: rest => .unknown :: items options rest
  | (_, .letters t) :: rest => letterItems options t ++ items options rest
  | (_, .named option (some value)) :: rest =>
    if option.takesValue then .action option.action (some value) :: items options rest
    else [.fault (.unexpectedValue option.name)]
  | (_, .named option none) :: rest =>
    if option.takesValue then
      match rest with
      | (value, .operand) :: rest => .action option.action (some value) :: items options rest
      | _ => [.fault (.missingValue option.name)]
    else .action option.action none :: items options rest

end Thesaurus.CommandLine
