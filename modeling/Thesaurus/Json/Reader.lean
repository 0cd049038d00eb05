import Thesaurus.Json.Basic

/-!
# Reading JSON

A text is cut into tokens, and a machine with a stack of open arrays and objects puts them together.
The words for infinities and for what is not a number are read as well. The reader refuses what
is no value, controls inside strings, and what goes beyond the limits it is given: integers of more
digits, containers deeper inside one another.
-/

set_option autoImplicit false

namespace Thesaurus.Json

/-- How much is read: the digits of an integer, and the containers that are open at once. -/
structure Limits where
  digits : Nat
  depth : Nat
deriving DecidableEq, Repr

/-- Why a text is not read. Of two reasons the one that is met first counts. -/
inductive ReadError where
  | malformed
  | tooDeep
deriving DecidableEq, Repr

inductive Token where
  | openArray
  | closeArray
  | openObject
  | closeObject
  | comma
  | colon
  | string (t : Text)
  | word (t : Text)
  /-- What is no token; nothing behind it is read. -/
  | fault
deriving DecidableEq, Repr

/-- Where in a token the reader is; what was read of it comes last character first. -/
inductive Lexer where
  | between
  | word (read : Text)
  | string (read : List Nat)
  | escape (read : List Nat)
  | unit (read : List Nat) (missing value : Nat)

def isSpace (c : Char) : Bool := c == ' ' || c == '\t' || c == '\n' || c == '\r'

/-- What a character that is no part of a word or string stands for. -/
def mark? : Char → Option Token
  | '[' => some .openArray
  | ']' => some .closeArray
  | '\x7b' => some .openObject
  | '\x7d' => some .closeObject
  | ',' => some .comma
  | ':' => some .colon
  | _ => none

def hexDigit? (c : Char) : Option Nat :=
  if '0' ≤ c && c ≤ '9' then some (c.toNat - 48)
  else if 'a' ≤ c && c ≤ 'f' then some (c.toNat - 87)
  else if 'A' ≤ c && c ≤ 'F' then some (c.toNat - 55)
  else none

/-- What a single character behind a backslash stands for. -/
def shortEscape? : Char → Option Char
  | '"' => some '"'
  | '\\' => some '\\'
  | '/' => some '/'
  | 'b' => some '\x08'
  | 'f' => some '\x0c'
  | 'n' => some '\n'
  | 'r' => some '\r'
  | 't' => some '\t'
  | _ => none

/-- Code units and code points as characters: a high surrogate and the low one behind it are one
character, and a surrogate that is left alone is replaced. -/
def joinUnits : List Nat → Text
  | [] => []
  | [n] => [if 0xD800 ≤ n && n < 0xE000 then '\ufffd' else Char.ofNat n]
  | m :: n :: rest =>
    if 0xD800 ≤ m && m < 0xDC00 && 0xDC00 ≤ n && n < 0xE000 then
      Char.ofNat (0x10000 + (m - 0xD800) * 0x400 + (n - 0xDC00)) :: joinUnits rest
    else (if 0xD800 ≤ m && m < 0xE000 then '\ufffd' else Char.ofNat m) :: joinUnits (n :: rest)

/-- The tokens of a text up to its first fault, the first of them being read up to `state`. -/
def tokensFrom : Lexer → Text → List Token
  | .between, [] => []
  | .word read, [] => [.word read.reverse]
  | .string _, [] | .escape _, [] | .unit .., [] => [.fault]
  | .between, c :: t =>
    if isSpace c then tokensFrom .between t
    else if c = '"' then tokensFrom (.string []) t
    else
      match mark? c with
      | some token => token :: tokensFrom .between t
      | none => tokensFrom (.word [c]) t
  | .word read, c :: t =>
    if isSpace c then .word read.reverse :: tokensFrom .between t
    else if c = '"' then .word read.reverse :: tokensFrom (.string []) t
    else
      match mark? c with
      | some token => .word read.reverse :: token :: tokensFrom .between t
      | none => tokensFrom (.word (c :: read)) t
  | .string read, c :: t =>
    if c = '"' then .string (joinUnits read.reverse) :: tokensFrom .between t
    else if c = '\\' then tokensFrom (.escape read) t
    else if c.toNat < 0x20 then [.fault]
    else tokensFrom (.string (c.toNat :: read)) t
  | .escape read, c :: t =>
    if c = 'u' then tokensFrom (.unit read 3 0) t
    else
      match shortEscape? c with
      | some d => tokensFrom (.string (d.toNat :: read)) t
      | none => [.fault]
  | .unit read missing value, c :: t =>
    match hexDigit? c with
    | none => [.fault]
    | some digit =>
      match missing with
      | 0 => tokensFrom (.string ((value * 16 + digit) :: read)) t
      | missing + 1 => tokensFrom (.unit read missing (value * 16 + digit)) t

def tokens (t : Text) : List Token := tokensFrom .between t

def isDigit (c : Char) : Bool := '0' ≤ c && c ≤ '9'

/-- Whether a text is an exponent, or nothing. -/
def isExponent : Text → Bool
  | [] => true
  | c :: t =>
    (c == 'e' || c == 'E') &&
      match t with
      | [] => false
      | d :: u =>
        if d == '+' || d == '-' then !u.isEmpty && u.all isDigit else isDigit d && u.all isDigit

/-- Whether a text is a number: an integer without leading zeros, a fraction, an exponent. Without
the last two it may have `limit` digits. -/
def isNumber (limit : Nat) (t : Text) : Bool :=
  let unsigned := match t with
    | '-' :: u => u
    | _ => t
  let whole := unsigned.takeWhile isDigit
  let rest := unsigned.dropWhile isDigit
  !whole.isEmpty && (whole.head? != some '0' || whole.length == 1) &&
    match rest with
    | [] => whole.length ≤ limit
    | '.' :: fraction =>
      !(fraction.takeWhile isDigit).isEmpty && isExponent (fraction.dropWhile isDigit)
    | exponent => isExponent exponent

/-- The value of a word. -/
def ofWord? (limit : Nat) (t : Text) : Option Json :=
  if t = "null" then some .null
  else if t = "true" then some (.bool true)
  else if t = "false" then some (.bool false)
  else if t = "NaN" || t = "Infinity" || t = "-Infinity" || isNumber limit t then some (.number t)
  else none

/-- A container that is still open; what it holds comes last first. -/
inductive Frame where
  | array (items : List Json)
  | object (members : List (Text × Json))
  | member (members : List (Text × Json)) (name : Text)

/-- What may come next. -/
inductive Expecting where
  | value
  | firstItem
  | firstName
  | name
  | colon (name : Text)
  | next
  | nothing (result : Json)

structure Assembly where
  stack : List Frame
  expecting : Expecting

namespace Assembly

def start : Assembly := ⟨[], .value⟩

/-- Opens a container inside those that are open. -/
def nest (limits : Limits) (stack : List Frame) (frame : Frame) (expecting : Expecting) :
    Except ReadError Assembly :=
  if stack.length < limits.depth then .ok ⟨frame :: stack, expecting⟩ else .error .tooDeep

/-- Puts a finished value where one is due. -/
def supply (stack : List Frame) (v : Json) : Except ReadError Assembly :=
  match stack with
  | [] => .ok ⟨[], .nothing v⟩
  | .array items :: rest => .ok ⟨.array (v :: items) :: rest, .next⟩
  | .member members name :: rest => .ok ⟨.object ((name, v) :: members) :: rest, .next⟩
  | .object _ :: _ => .error .malformed

/-- Takes a token where a value is due. -/
def begin (limits : Limits) (stack : List Frame) : Token → Except ReadError Assembly
  | .openArray => nest limits stack (.array []) .firstItem
  | .openObject => nest limits stack (.object []) .firstName
  | .string t => supply stack (.string t)
  | .word t =>
    match ofWord? limits.digits t with
    | some v => supply stack v
    | none => .error .malformed
  | _ => .error .malformed

/-- Closes the innermost container. -/
def close : List Frame → Token → Except ReadError Assembly
  | .array items :: rest, .closeArray => supply rest (.array items.reverse)
  | .object members :: rest, .closeObject => supply rest (.object members.reverse)
  | _, _ => .error .malformed

def step (limits : Limits) (a : Assembly) (token : Token) : Except ReadError Assembly :=
  match a.expecting, token with
  | .value, _ => begin limits a.stack token
  | .firstItem, .closeArray => close a.stack token
  | .firstItem, _ => begin limits a.stack token
  | .firstName, .closeObject => close a.stack token
  | .firstName, .string t | .name, .string t => .ok ⟨a.stack, .colon t⟩
  | .colon name, .colon =>
    match a.stack with
    | .object members :: rest => .ok ⟨.member members name :: rest, .value⟩
    | _ => .error .malformed
  | .next, .comma =>
    match a.stack with
    | .array _ :: _ => .ok ⟨a.stack, .value⟩
    | .object _ :: _ => .ok ⟨a.stack, .name⟩
    | _ => .error .malformed
  | .next, _ => close a.stack token
  | _, _ => .error .malformed

def result (a : Assembly) : Except ReadError Json :=
  match a.expecting with
  | .nothing v => .ok v
  | _ => .error .malformed

end Assembly

/-- The value that a text writes, if it writes exactly one. -/
def readWithin (limits : Limits) (t : Text) : Except ReadError Json := do
  let assembly ← (tokens t).foldlM (Assembly.step limits) Assembly.start
  assembly.result

end Thesaurus.Json
