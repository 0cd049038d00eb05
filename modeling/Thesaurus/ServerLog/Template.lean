import Thesaurus.Text.Quoted

/-!
# Message templates

A message may hold directives that take the place of arguments: a percent sign, flags, a width, a
precision and a letter. The letter `s` shows an argument as it is, `r` and `a` quote it, `c` shows
one of a single character. Arguments are texts, so that directives for numbers cannot be filled,
and all of them have to be used.
-/

set_option autoImplicit false

namespace Thesaurus.ServerLog

inductive Conversion where
  | plain
  | quoted
  | quotedAscii
  | character
deriving DecidableEq, Repr

structure Directive where
  toLeft : Bool
  width : Nat
  precision : Option Nat
  conversion : Conversion
  /-- Characters that the directive takes up behind its percent sign. -/
  length : Nat
deriving DecidableEq, Repr

/-- No field is wider, and no precision greater, than this. -/
def fieldLimit : Nat := 2147483647

def isFlag (c : Char) : Bool := c == '-' || c == '+' || c == ' ' || c == '#' || c == '0'

def isDigit (c : Char) : Bool := '0' ≤ c && c ≤ '9'

def number (digits : Text) : Nat := digits.foldl (fun n c => n * 10 + (c.toNat - 48)) 0

def conversion? : Char → Option Conversion
  | 's' => some .plain
  | 'r' => some .quoted
  | 'a' => some .quotedAscii
  | 'c' => some .character
  | _ => none

/-- The precision in front of a text, and the rest. -/
def takePrecision : Text → Option Nat × Text
  | '.' :: t => (some (number (t.takeWhile isDigit)), t.dropWhile isDigit)
  | t => (none, t)

/-- A letter for the size of a number may stand before the conversion and says nothing. -/
def dropSize : Text → Text
  | 'h' :: t | 'l' :: t | 'L' :: t => t
  | t => t

/-- The directive that a text behind a percent sign begins with. -/
def directive? (t : Text) : Option Directive :=
  let flags := t.takeWhile isFlag
  let afterFlags := t.dropWhile isFlag
  let width := number (afterFlags.takeWhile isDigit)
  let (precision, afterPrecision) := takePrecision (afterFlags.dropWhile isDigit)
  match dropSize afterPrecision with
  | [] => none
  | c :: rest => do
    let conversion ← conversion? c
    if fieldLimit < width || fieldLimit < precision.getD 0 then none
    return { toLeft := flags.contains '-', width, precision, conversion
             length := t.length - rest.length }

/-- An argument as a directive shows it. -/
def Directive.show (d : Directive) (argument : Text) : Option Text := do
  let shown ← match d.conversion with
    | .plain => some (argument.take (d.precision.getD argument.length))
    | .quoted => some (cut argument.quoted)
    | .quotedAscii => some (cut argument.quotedAscii)
    | .character => if argument.length = 1 then some argument else none
  let fill := List.replicate (d.width - shown.length) ' '
  return if d.toLeft then shown ++ fill else fill ++ shown
where
  cut (t : Text) : Text := t.take (d.precision.getD t.length)

/-- Fills a template, with `skip` characters of a directive still to be passed. -/
def fillFrom : Nat → Text → List Text → Option Text
  | _, [], [] => some []
  | _, [], _ :: _ => none
  | skip + 1, _ :: t, arguments => fillFrom skip t arguments
  | 0, '%' :: '%' :: t, arguments => (fillFrom 0 t arguments).map ('%' :: ·)
  | 0, c :: t, arguments =>
    if c = '%' then
      match directive? t, arguments with
      | some d, argument :: rest => do
        let shown ← d.show argument
        (fillFrom d.length t rest).map (shown ++ ·)
      | _, _ => none
    else (fillFrom 0 t arguments).map (c :: ·)

/-- A message with its arguments in place. Without arguments it is taken as it is. -/
def fill (template : Text) (arguments : List Text) : Option Text :=
  match arguments with
  | [] => some template
  | _ => fillFrom 0 template arguments

end Thesaurus.ServerLog
