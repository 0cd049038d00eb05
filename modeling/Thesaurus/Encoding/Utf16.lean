import Thesaurus.Encoding.Utf8

/-!
# UTF-16

Bytes are paired to code units in either order, and units to characters. A byte left over and a
surrogate without its partner are malformed. Main fact: `decode?_encode`, what is encoded in one
order is read back in it.
-/

set_option autoImplicit false

namespace Thesaurus.Utf16

inductive ByteOrder where
  | littleEndian
  | bigEndian
deriving DecidableEq, Repr

def ByteOrder.unit : ByteOrder → UInt8 → UInt8 → Nat
  | .littleEndian, low, high => high.toNat * 0x100 + low.toNat
  | .bigEndian, high, low => high.toNat * 0x100 + low.toNat

def units? (order : ByteOrder) : Bytes → Option (List Nat)
  | [] => some []
  | [_] => none
  | a :: b :: bytes => (units? order bytes).map (order.unit a b :: ·)

def isHigh (n : Nat) : Bool := 0xD800 ≤ n && n < 0xDC00

def isLow (n : Nat) : Bool := 0xDC00 ≤ n && n < 0xE000

def characters? : List Nat → Option Text
  | [] => some []
  | [n] => if isHigh n || isLow n then none else some [Char.ofNat n]
  | m :: n :: rest =>
    if isHigh m && isLow n then
      (characters? rest).map
        (Char.ofNat (0x10000 + (m - 0xD800) * 0x400 + (n - 0xDC00)) :: ·)
    else if isHigh m || isLow m then none
    else (characters? (n :: rest)).map (Char.ofNat m :: ·)

def decode? (order : ByteOrder) (bytes : Bytes) : Option Text :=
  (units? order bytes).bind characters?

/-- The code units of a character: itself, or a pair of surrogates. -/
def encodeChar (c : Char) : List Nat :=
  let n := c.toNat
  if n < 0x10000 then [n]
  else [0xD800 + (n - 0x10000) / 0x400, 0xDC00 + (n - 0x10000) % 0x400]

def ByteOrder.bytes : ByteOrder → Nat → Bytes
  | .littleEndian, n => [n.toUInt8, (n / 0x100).toUInt8]
  | .bigEndian, n => [(n / 0x100).toUInt8, n.toUInt8]

def encode (order : ByteOrder) (t : Text) : Bytes := (t.flatMap encodeChar).flatMap order.bytes

/-- The byte order that a byte order mark announces, and the bytes behind it. -/
def marked? : Bytes → Option (ByteOrder × Bytes)
  | 0xFF :: 0xFE :: rest => some (.littleEndian, rest)
  | 0xFE :: 0xFF :: rest => some (.bigEndian, rest)
  | _ => none

theorem isScalar_toNat (c : Char) :
    c.toNat < 0xD800 ∨ (0xDFFF < c.toNat ∧ c.toNat < 0x110000) := c.valid

theorem lt_of_mem_encodeChar {c : Char} {n : Nat} (h : n ∈ encodeChar c) : n < 0x10000 := by
  have hc := isScalar_toNat c
  unfold encodeChar at h
  dsimp only at h
  split at h
  · simp only [List.mem_singleton] at h
    omega
  · simp only [List.mem_cons, List.not_mem_nil, or_false] at h
    omega

theorem units?_bytes_append (order : ByteOrder) {n : Nat} (h : n < 0x10000) (rest : Bytes) :
    units? order (order.bytes n ++ rest) = (units? order rest).map (n :: ·) := by
  have hn : n / 0x100 % 0x100 * 0x100 + n % 0x100 = n := by omega
  cases order <;> simp [ByteOrder.bytes, units?, ByteOrder.unit, hn]

theorem units?_flatMap_bytes (order : ByteOrder) {units : List Nat}
    (h : ∀ n ∈ units, n < 0x10000) : units? order (units.flatMap order.bytes) = some units := by
  induction units with
  | nil => rfl
  | cons n rest ih =>
    rw [List.flatMap_cons, units?_bytes_append order (h n (by simp)),
      ih fun m hm => h m (by simp [hm])]
    rfl

theorem characters?_encodeChar_append (c : Char) (rest : List Nat) :
    characters? (encodeChar c ++ rest) = (characters? rest).map (c :: ·) := by
  have hc := isScalar_toNat c
  by_cases h : c.toNat < 0x10000
  · have high : isHigh c.toNat = false := by simp [isHigh]; omega
    have low : isLow c.toNat = false := by simp [isLow]; omega
    cases rest <;> simp [encodeChar, h, characters?, high, low]
  · have high : isHigh (0xD800 + (c.toNat - 0x10000) / 0x400) = true := by
      simp [isHigh]; omega
    have low : isLow (0xDC00 + (c.toNat - 0x10000) % 0x400) = true := by
      simp [isLow]; omega
    have value : 0x10000 + (c.toNat - 0x10000) / 0x400 * 0x400 + (c.toNat - 0x10000) % 0x400 =
        c.toNat := by omega
    simp [encodeChar, h, characters?, high, low, value]

theorem characters?_flatMap_encodeChar (t : Text) :
    characters? (t.flatMap encodeChar) = some t := by
  induction t with
  | nil => rfl
  | cons c t ih => rw [List.flatMap_cons, characters?_encodeChar_append, ih]; rfl

theorem decode?_encode (order : ByteOrder) (t : Text) : decode? order (encode order t) = some t := by
  have h : ∀ n ∈ t.flatMap encodeChar, n < 0x10000 := fun n hn => by
    obtain ⟨c, _, hc⟩ := List.mem_flatMap.1 hn
    exact lt_of_mem_encodeChar hc
  rw [decode?, encode, units?_flatMap_bytes order h]
  exact characters?_flatMap_encodeChar t

end Thesaurus.Utf16
