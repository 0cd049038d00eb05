import Thesaurus.Text.Basic

/-!
# UTF-8

Decoding goes byte by byte. Where the bytes break off or go on as no character does, one mark of
damage stands for the longest part that a character could still begin with, and reading goes on
behind it. Strict decoding wants no damage, lenient decoding puts U+FFFD in its place or leaves it
out.
-/

set_option autoImplicit false

namespace Thesaurus

abbrev Bytes := List UInt8

namespace Utf8

def encodeChar (c : Char) : Bytes :=
  let n := c.toNat
  if n < 0x80 then [n.toUInt8]
  else if n < 0x800 then [(0xC0 + n / 0x40).toUInt8, (0x80 + n % 0x40).toUInt8]
  else if n < 0x10000 then
    [(0xE0 + n / 0x1000).toUInt8, (0x80 + n / 0x40 % 0x40).toUInt8, (0x80 + n % 0x40).toUInt8]
  else
    [(0xF0 + n / 0x40000).toUInt8, (0x80 + n / 0x1000 % 0x40).toUInt8,
      (0x80 + n / 0x40 % 0x40).toUInt8, (0x80 + n % 0x40).toUInt8]

def encode (t : Text) : Bytes := t.flatMap encodeChar

/-- A character of which `missing` bytes and one more have still to come, the next of them between
`low` and `high`. -/
structure Open where
  missing : Nat
  low : Nat := 0x80
  high : Nat := 0xBF
  value : Nat
deriving DecidableEq, Repr

/-- What a byte between characters yields and what it opens. -/
def begin (b : Nat) : List (Option Char) × Option Open :=
  if b < 0x80 then ([some (Char.ofNat b)], none)
  else if b < 0xC2 then ([none], none)
  else if b < 0xE0 then ([], some { missing := 0, value := b - 0xC0 })
  else if b = 0xE0 then ([], some { missing := 1, low := 0xA0, value := 0 })
  else if b = 0xED then ([], some { missing := 1, high := 0x9F, value := 0xD })
  else if b < 0xF0 then ([], some { missing := 1, value := b - 0xE0 })
  else if b = 0xF0 then ([], some { missing := 2, low := 0x90, value := 0 })
  else if b < 0xF4 then ([], some { missing := 2, value := b - 0xF0 })
  else if b = 0xF4 then ([], some { missing := 2, high := 0x8F, value := 4 })
  else ([none], none)

def step : Option Open → Nat → List (Option Char) × Option Open
  | none, b => begin b
  | some o, b =>
    if o.low ≤ b && b ≤ o.high then
      let value := o.value * 0x40 + (b - 0x80)
      match o.missing with
      | 0 => ([some (Char.ofNat value)], none)
      | missing + 1 => ([], some { missing, value })
    else
      let (yielded, state) := begin b
      (none :: yielded, state)

/-- The characters of a byte sequence, with `none` for each damaged part. -/
def readFrom : Option Open → Bytes → List (Option Char)
  | none, [] => []
  | some _, [] => [none]
  | state, b :: bytes =>
    let (yielded, state) := step state b.toNat
    yielded ++ readFrom state bytes

def read (bytes : Bytes) : List (Option Char) := readFrom none bytes

/-- The text of bytes without damage. -/
def decode? (bytes : Bytes) : Option Text := (read bytes).mapM id

/-- The text of any bytes. -/
def decodeLenient (bytes : Bytes) : Text := (read bytes).map (·.getD '\ufffd')

/-- The text of what is not damaged of any bytes. -/
def decodeIntact (bytes : Bytes) : Text := (read bytes).filterMap id

def byteOrderMark : Bytes := [0xEF, 0xBB, 0xBF]

/-- Bytes without a byte order mark in front. -/
def dropMark (bytes : Bytes) : Bytes :=
  if byteOrderMark.isPrefixOf bytes then bytes.drop 3 else bytes

end Utf8

end Thesaurus
