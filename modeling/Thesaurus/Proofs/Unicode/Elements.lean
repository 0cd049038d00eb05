import Thesaurus.Proofs.Unicode.Blank
import Thesaurus.Proofs.Unicode.Search

/-!
# What characters are decomposed to

A decomposition is full: nothing in it is decomposed further. What two characters are joined to
decomposes to what the two decompose to. Both are checked on code points for the tables and
computed for the Korean syllables. Main facts: `atomic_of_mem` and `decomposition_of_composite?`.
-/

set_option autoImplicit false
set_option maxRecDepth 10000

namespace Thesaurus.Unicode

open Text

namespace Decomposition

/-- The code points of a decomposition. -/
def codes (n : Nat) : List Nat := (searched n).getD [n]

/-- Nothing in the images of a table has an image of its own. -/
def Final (table : List Block) : Prop :=
  ∀ block ∈ table, ∀ image ∈ block.2, ∀ n ∈ image, searched n = none

instance (table : List Block) : Decidable (Final table) :=
  inferInstanceAs (Decidable (∀ block ∈ table, ∀ image ∈ block.2, ∀ n ∈ image, _ = _))

theorem Final.of_image? {table : List Block} (h : Final table) {n : Nat} {image : List Nat}
    (himage : blockImage? n table = some image) : ∀ m ∈ image, searched m = none := by
  obtain ⟨block, hblock, -, hget⟩ := mem_of_blockImage? himage
  exact h block hblock image (List.mem_of_getElem? hget)

theorem final_tables : ∀ table ∈ tables, Final table := by decide +kernel

theorem searched_letter {n : Nat} (hfirst : 0x1100 ≤ n) (hlast : n ≤ 0x11C2) :
    searched n = none := by
  have hall : ∀ k < 0xC3, searched (0x1100 + k) = none := by decide +kernel
  have hn := hall (n - 0x1100) (by omega)
  rwa [Nat.add_sub_cancel' hfirst] at hn

theorem hangul_letters_eq (n : Nat) :
    Hangul.letters n =
      if (n - 0xAC00) % 28 = 0 then [0x1100 + (n - 0xAC00) / 588, 0x1161 + (n - 0xAC00) / 28 % 21]
      else [0x1100 + (n - 0xAC00) / 588, 0x1161 + (n - 0xAC00) / 28 % 21,
        0x11A7 + (n - 0xAC00) % 28] :=
  rfl

theorem mem_hangul_letters {n m : Nat} (h : Hangul.isSyllable n = true) (hm : m ∈ Hangul.letters n) :
    0x1100 ≤ m ∧ m ≤ 0x11C2 := by
  have hn := isSyllable_iff.mp h
  rw [hangul_letters_eq] at hm
  split_ifs at hm <;> simp only [List.mem_cons, List.not_mem_nil, or_false] at hm <;> omega

theorem searched_of_mem_image {n m : Nat} {image : List Nat} (himage : image? n = some image)
    (hm : m ∈ image) : searched m = none := by
  rcases of_image? himage with ⟨hsyllable, rfl⟩ | ⟨table, htable, himage⟩
  · obtain ⟨hfirst, hlast⟩ := mem_hangul_letters hsyllable hm
    exact searched_letter hfirst hlast
  · exact (final_tables table htable).of_image? himage m hm

theorem codes_letter {n : Nat} (hfirst : 0x1100 ≤ n) (hlast : n ≤ 0x11C2) : codes n = [n] := by
  rw [codes, searched_letter hfirst hlast]
  rfl

theorem codes_syllable {n : Nat} (h : Hangul.isSyllable n = true) : codes n = Hangul.letters n := by
  have hn := isSyllable_iff.mp h
  rw [codes, searched, if_neg (by omega), if_neg (by omega), if_pos (by omega), if_pos h,
    Option.getD_some]

theorem codes_composites : ∀ entry ∈ composites, ∀ join ∈ entry.2,
    codes join.2 = codes join.1 ++ codes entry.1 := by
  decide +kernel

/-- A syllable that is put together has the letters of its two parts. -/
theorem codes_join? {m n joined : Nat} (h : Hangul.join? m n = some joined) :
    codes joined = codes m ++ codes n := by
  rw [codes_syllable (isSyllable_of_join? h), hangul_letters_eq]
  rcases of_join? h with ⟨hm, hn, hjoined⟩ | ⟨⟨hm, hopen⟩, hn, hjoined⟩
  · rw [codes_letter (by omega) (by omega), codes_letter (by omega) (by omega), if_pos (by omega),
      List.singleton_append, List.cons.injEq, List.cons.injEq]
    exact ⟨by omega, by omega, rfl⟩
  · have hcode := isSyllable_iff.mp hm
    rw [codes_syllable hm, codes_letter (by omega) (by omega), if_neg (by omega),
      hangul_letters_eq, if_pos hopen, List.cons_append, List.cons_append, List.nil_append,
      List.cons.injEq, List.cons.injEq, List.cons.injEq]
    exact ⟨by omega, by omega, by omega, rfl⟩

end Decomposition

open Decomposition

theorem decomposition_eq (c : Char) : decomposition c = (codes c.toNat).map Char.ofNat := by
  rw [decomposition, image?_eq_searched, codes]
  cases searched c.toNat with
  | none => simp
  | some image => rfl

theorem decomposition_ofNat {n : Nat} (h : n.isValidChar) :
    decomposition (Char.ofNat n) = (codes n).map Char.ofNat := by
  rw [decomposition_eq, toNat_ofNat h]

/-- A character that is not decomposed further. -/
def Atomic (c : Char) : Prop := decomposition c = [c]

theorem atomic_ofNat {n : Nat} (h : searched n = none) : Atomic (Char.ofNat n) := by
  by_cases hvalid : n.isValidChar
  · rw [Atomic, decomposition_ofNat hvalid, codes, h]
    rfl
  · rw [Atomic, Char.ofNat, dif_neg hvalid]
    decide +kernel

theorem atomic_of_mem {c d : Char} (h : d ∈ decomposition c) : Atomic d := by
  rw [decomposition] at h
  cases himage : image? c.toNat with
  | none =>
    rw [himage] at h
    obtain rfl := List.mem_singleton.mp h
    rw [Atomic, decomposition, himage]
  | some image =>
    rw [himage] at h
    obtain ⟨n, hn, rfl⟩ := List.mem_map.mp h
    exact atomic_ofNat (searched_of_mem_image himage hn)

theorem flatMap_decomposition {t : Text} (h : ∀ c ∈ t, Atomic c) : t.flatMap decomposition = t := by
  induction t with
  | nil => rfl
  | cons c t ih =>
    obtain ⟨hc, ht⟩ := List.forall_mem_cons.mp h
    rw [List.flatMap_cons, hc, ih ht, List.singleton_append]

theorem decomposition_of_composite? {c d joined : Char} (h : composite? c d = some joined) :
    decomposition joined = decomposition c ++ decomposition d := by
  have hcodes : codes joined.toNat = codes c.toNat ++ codes d.toNat := by
    rcases of_composite? h with hjoin | ⟨joins, hjoins, hmem⟩
    · exact codes_join? hjoin
    · exact codes_composites _ hjoins _ hmem
  rw [decomposition_eq, hcodes, List.map_append, ← decomposition_eq, ← decomposition_eq]

end Thesaurus.Unicode
