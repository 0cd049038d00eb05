import Mathlib.Tactic.SplitIfs
import Thesaurus.Encoding.Utf16
import Thesaurus.Proofs.Encoding.Damage

/-!
# Reading UTF-8 back

Every character is read back from its bytes, whatever bytes follow. Main facts: `decode?_encode` and
`decodeIntact_encode`, and `marked?_encode` and `dropMark_encode`, by which the bytes of a text are
not taken for marked ones.
-/

set_option autoImplicit false

namespace Thesaurus.Utf8

variable {n missing low high : Nat}

theorem toNat_continuation (n : Nat) : (0x80 + n % 0x40).toUInt8.toNat = 0x80 + n % 0x40 := by
  rw [Nat.toUInt8, UInt8.toNat_ofNat', Nat.mod_eq_of_lt]
  omega

theorem readFrom_none (b : UInt8) (bytes : Bytes) :
    readFrom none (b :: bytes) = (begin b.toNat).1 ++ readFrom (begin b.toNat).2 bytes :=
  readFrom_cons none b bytes

theorem step_continuation (hlow : low ≤ 0x80 + n % 0x40) (hhigh : 0x80 + n % 0x40 ≤ high) :
    step (some ⟨missing, low, high, n / 0x40⟩) (0x80 + n % 0x40) =
      match missing with
      | 0 => ([some (Char.ofNat n)], none)
      | missing + 1 => ([], some { missing, value := n }) := by
  have hrange : (low ≤ 0x80 + n % 0x40 && 0x80 + n % 0x40 ≤ high) = true := by simp [hlow, hhigh]
  have hvalue : n / 0x40 * 0x40 + (0x80 + n % 0x40 - 0x80) = n := by omega
  cases missing <;> simp only [step, if_pos hrange, hvalue]

theorem readFrom_middle (hlow : low ≤ 0x80 + n % 0x40) (hhigh : 0x80 + n % 0x40 ≤ high)
    (bytes : Bytes) :
    readFrom (some ⟨missing + 1, low, high, n / 0x40⟩) ((0x80 + n % 0x40).toUInt8 :: bytes) =
      readFrom (some { missing, value := n }) bytes := by
  rw [readFrom_cons, toNat_continuation, step_continuation hlow hhigh]
  rfl

theorem readFrom_last (hlow : low ≤ 0x80 + n % 0x40) (hhigh : 0x80 + n % 0x40 ≤ high)
    (bytes : Bytes) :
    readFrom (some ⟨0, low, high, n / 0x40⟩) ((0x80 + n % 0x40).toUInt8 :: bytes) =
      some (Char.ofNat n) :: readFrom none bytes := by
  rw [readFrom_cons, toNat_continuation, step_continuation hlow hhigh]
  rfl

theorem begin_two (h : 0x80 ≤ n) (hlt : n < 0x800) :
    begin (0xC0 + n / 0x40) = ([], some { missing := 0, value := n / 0x40 }) := by
  rw [begin, if_neg (by omega), if_neg (by omega), if_pos (by omega), Nat.add_sub_cancel_left]

theorem begin_three (h : 0x800 ≤ n) (hlt : n < 0x10000) (hscalar : n < 0xD800 ∨ 0xDFFF < n) :
    ∃ low high, begin (0xE0 + n / 0x1000) = ([], some ⟨1, low, high, n / 0x1000⟩) ∧
      low ≤ 0x80 + n / 0x40 % 0x40 ∧ 0x80 + n / 0x40 % 0x40 ≤ high := by
  rw [begin, if_neg (by omega), if_neg (by omega), if_neg (by omega)]
  by_cases hfirst : n / 0x1000 = 0
  -- A lower second byte would begin an overlong form, and behind 0xED a higher one a surrogate.
  · exact ⟨0xA0, 0xBF, by rw [hfirst]; rfl, by omega, by omega⟩
  · rw [if_neg (by omega)]
    by_cases hsurrogate : n / 0x1000 = 0xD
    · exact ⟨0x80, 0x9F, by rw [hsurrogate]; rfl, by omega, by omega⟩
    · rw [if_neg (by omega), if_pos (by omega), Nat.add_sub_cancel_left]
      exact ⟨0x80, 0xBF, rfl, by omega, by omega⟩

theorem begin_four (h : 0x10000 ≤ n) (hlt : n < 0x110000) :
    ∃ low high, begin (0xF0 + n / 0x40000) = ([], some ⟨2, low, high, n / 0x40000⟩) ∧
      low ≤ 0x80 + n / 0x1000 % 0x40 ∧ 0x80 + n / 0x1000 % 0x40 ≤ high := by
  rw [begin, if_neg (by omega), if_neg (by omega), if_neg (by omega), if_neg (by omega),
    if_neg (by omega), if_neg (by omega)]
  by_cases hfirst : n / 0x40000 = 0
  -- Again an overlong form, and behind 0xF4 what lies beyond the last code point.
  · exact ⟨0x90, 0xBF, by rw [hfirst]; rfl, by omega, by omega⟩
  · rw [if_neg (by omega)]
    by_cases hlast : n / 0x40000 = 4
    · exact ⟨0x80, 0x8F, by rw [hlast]; rfl, by omega, by omega⟩
    · rw [if_pos (by omega), Nat.add_sub_cancel_left]
      exact ⟨0x80, 0xBF, rfl, by omega, by omega⟩

theorem readFrom_encodeChar_append (c : Char) (bytes : Bytes) :
    readFrom none (encodeChar c ++ bytes) = some c :: readFrom none bytes := by
  have hscalar := Utf16.isScalar_toNat c
  have hchar : Char.ofNat c.toNat = c := Char.ofNat_toNat c
  have hfirst {b : Nat} (hb : b < 0x100) : b.toUInt8.toNat = b := by
    rw [Nat.toUInt8, UInt8.toNat_ofNat', Nat.mod_eq_of_lt hb]
  unfold encodeChar
  generalize c.toNat = n at hscalar hchar
  dsimp only
  split_ifs with hone htwo hthree
  · rw [List.singleton_append, readFrom_none, hfirst (by omega), begin_ascii hone, hchar]
    rfl
  · rw [List.cons_append, readFrom_none, hfirst (by omega), begin_two (by omega) htwo,
      List.singleton_append]
    dsimp only
    rw [readFrom_last (by omega) (by omega), hchar]
    rfl
  · obtain ⟨low, high, hbegin, hlow, hhigh⟩ := begin_three (n := n) (by omega) hthree (by omega)
    have hdiv : n / 0x1000 = n / 0x40 / 0x40 := by omega
    rw [List.cons_append, readFrom_none, hfirst (by omega), hbegin, List.cons_append,
      List.singleton_append]
    dsimp only
    rw [hdiv, readFrom_middle hlow hhigh, readFrom_last (by omega) (by omega), hchar]
    rfl
  · obtain ⟨low, high, hbegin, hlow, hhigh⟩ := begin_four (n := n) (by omega) (by omega)
    have hdiv : n / 0x40000 = n / 0x1000 / 0x40 := by omega
    have hdiv' : n / 0x1000 = n / 0x40 / 0x40 := by omega
    rw [List.cons_append, readFrom_none, hfirst (by omega), hbegin, List.cons_append,
      List.cons_append, List.singleton_append]
    dsimp only
    rw [hdiv, readFrom_middle hlow hhigh, hdiv', readFrom_middle (by omega) (by omega),
      readFrom_last (by omega) (by omega), hchar]
    rfl

theorem read_encode (t : Text) : read (encode t) = t.map some := by
  induction t with
  | nil => rfl
  | cons c t ih =>
    rw [read, encode, List.flatMap_cons, readFrom_encodeChar_append, List.map_cons, ← ih]
    rfl

theorem decode?_encode (t : Text) : decode? (encode t) = some t := by
  have hsound : ¬ Damaged (encode t) := by simp [Damaged, read_encode]
  rw [decode?_eq, if_neg hsound, decodeLenient, read_encode, List.map_map]
  exact congrArg some (List.map_id t)

theorem dropMark_encode {t : Text} (h : t.head? ≠ some '\ufeff') :
    dropMark (encode t) = encode t := by
  rw [dropMark]
  split_ifs with hmark
  · obtain ⟨rest, hrest⟩ := List.isPrefixOf_iff_prefix.mp hmark
    have hread : some '\ufeff' :: read rest = t.map some := by
      rw [← read_encode, ← hrest]
      rfl
    cases t with
    | nil => exact absurd hread (List.cons_ne_nil _ _)
    | cons c t =>
      have hc : some '\ufeff' = some c := (List.cons.inj hread).1
      exact absurd hc.symm h
  · rfl

theorem marked?_encode (t : Text) : Utf16.marked? (encode t) = none := by
  -- Neither byte of such a mark begins a character.
  have hread (b : UInt8) (rest : Bytes) (h : encode t = b :: rest) :
      (begin b.toNat).1 ≠ [none] := by
    intro hbegin
    have hnone : none :: readFrom (begin b.toNat).2 rest = t.map some := by
      rw [← read_encode, h, read, readFrom_none, hbegin]
      rfl
    cases t with
    | nil => exact absurd hnone nofun
    | cons c t => exact absurd (List.cons.inj hnone).1 nofun
  unfold Utf16.marked?
  split
  · rename_i heq
    exact absurd rfl (hread _ _ heq)
  · rename_i heq
    exact absurd rfl (hread _ _ heq)
  · rfl

end Thesaurus.Utf8
