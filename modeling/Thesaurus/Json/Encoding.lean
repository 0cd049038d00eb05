import Thesaurus.Encoding.Utf32
import Thesaurus.Json.Reader

/-!
# Encoded JSON

The bytes of a JSON text are UTF-8, UTF-16 or UTF-32. A byte order mark tells which; without one,
since the text begins with characters of ASCII, the places of zero bytes at its start do.
-/

set_option autoImplicit false

namespace Thesaurus.Json

inductive Encoding where
  | utf8
  | utf16 (order : Utf16.ByteOrder)
  | utf32 (order : Utf16.ByteOrder)
deriving DecidableEq, Repr

/-- The encoding of bytes that begin with no mark of UTF-16 or UTF-32. -/
def Encoding.ofZeros : Bytes → Encoding
  | [0, _] => .utf16 .bigEndian
  | [_, 0] => .utf16 .littleEndian
  | 0 :: 0 :: _ :: _ :: _ => .utf32 .bigEndian
  | 0 :: _ :: _ :: _ :: _ => .utf16 .bigEndian
  | _ :: 0 :: 0 :: 0 :: _ => .utf32 .littleEndian
  | _ :: 0 :: _ :: _ :: _ => .utf16 .littleEndian
  | _ => .utf8

/-- The encoding of bytes, and the bytes behind a byte order mark. The mark of UTF-32 is looked for
first, since that of UTF-16 may begin it. -/
def encodingOf (bytes : Bytes) : Encoding × Bytes :=
  match Utf32.marked? bytes with
  | some (order, rest) => (.utf32 order, rest)
  | none =>
    match Utf16.marked? bytes with
    | some (order, rest) => (.utf16 order, rest)
    | none => (.ofZeros bytes, Utf8.dropMark bytes)

def Encoding.decode? : Encoding → Bytes → Option Text
  | .utf8 => Utf8.decode?
  | .utf16 order => Utf16.decode? order
  | .utf32 order => Utf32.decode? order

def readBytes (limits : Limits) (bytes : Bytes) : Except ReadError Json :=
  let (encoding, rest) := encodingOf bytes
  match encoding.decode? rest with
  | some t => readWithin limits t
  | none => .error .malformed

end Thesaurus.Json
