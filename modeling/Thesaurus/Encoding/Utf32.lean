import Thesaurus.Encoding.Utf16

/-!
# UTF-32

Four bytes are a code point, in either order.
-/

set_option autoImplicit false

namespace Thesaurus.Utf32

def codePoint (order : Utf16.ByteOrder) (a b c d : UInt8) : Nat :=
  match order with
  | .bigEndian => ((a.toNat * 0x100 + b.toNat) * 0x100 + c.toNat) * 0x100 + d.toNat
  | .littleEndian => ((d.toNat * 0x100 + c.toNat) * 0x100 + b.toNat) * 0x100 + a.toNat

def isScalar (n : Nat) : Bool := n < 0xD800 || (0xDFFF < n && n < 0x110000)

def decode? (order : Utf16.ByteOrder) : Bytes → Option Text
  | [] => some []
  | a :: b :: c :: d :: bytes =>
    let n := codePoint order a b c d
    if isScalar n then (decode? order bytes).map (Char.ofNat n :: ·) else none
  | _ => none

/-- The byte order that a byte order mark announces, and the bytes behind it. -/
def marked? : Bytes → Option (Utf16.ByteOrder × Bytes)
  | 0x00 :: 0x00 :: 0xFE :: 0xFF :: rest => some (.bigEndian, rest)
  | 0xFF :: 0xFE :: 0x00 :: 0x00 :: rest => some (.littleEndian, rest)
  | _ => none

end Thesaurus.Utf32
