import Mathlib.Data.List.Perm.Basic
import Thesaurus.Text.Blank
import Thesaurus.Unicode.Compatibility
import Thesaurus.Unicode.Lowercase

/-!
# Blanks under normalization

Neither the compatibility form nor small letters turn a text into blanks that was more than blanks,
or the other way round. The tables are checked entry by entry on code points, the rest goes by
recursion. Main facts: `isBlank_compatibilityForm` and `isBlank_lowercase`.
-/

set_option autoImplicit false
set_option maxRecDepth 10000

namespace Thesaurus.Unicode

open Text

def blankRanges : List (Nat × Nat) :=
  [(0x9, 0xD), (0x1C, 0x20), (0x85, 0x85), (0xA0, 0xA0), (0x1680, 0x1680), (0x2000, 0x200A),
   (0x2028, 0x2029), (0x202F, 0x202F), (0x205F, 0x205F), (0x3000, 0x3000)]

/-- The bound spares most code points a walk through the ranges. -/
def blankCode (n : Nat) : Bool := n ≤ 0x3000 && inRanges n blankRanges

theorem exists_range_of_blankCode {n : Nat} (h : blankCode n = true) :
    n ≤ 0x3000 ∧ ∃ r ∈ blankRanges, r.1 ≤ n ∧ n ≤ r.2 := by
  rw [blankCode, Bool.and_eq_true, decide_eq_true_iff] at h
  exact ⟨h.1, mem_of_inRanges h.2⟩

theorem blankCode_of_apart {n : Nat} (h : ∀ r ∈ blankRanges, n < r.1 ∨ r.2 < n) :
    blankCode n = false := by
  by_contra hblank
  obtain ⟨-, r, hr, hfirst, hlast⟩ := exists_range_of_blankCode (Bool.of_not_eq_false hblank)
  have hapart := h r hr
  omega

theorem blankCode_of_lt {n : Nat} (h : 0x3000 < n) : blankCode n = false := by
  rw [blankCode, decide_eq_false (by omega), Bool.false_and]

theorem blankCode_of_between {n : Nat} (hfirst : 0xA0 < n) (hlast : n < 0x1680) :
    blankCode n = false := by
  refine blankCode_of_apart fun r hr => ?_
  have hapart : ∀ r ∈ blankRanges, r.2 ≤ 0xA0 ∨ 0x1680 ≤ r.1 := by decide
  have hr := hapart r hr
  omega

theorem toNat_ofNat {n : Nat} (h : n.isValidChar) : (Char.ofNat n).toNat = n := by
  rw [Char.ofNat, dif_pos h]
  rfl

/-- A number that is not a code point stands for a character that is not blank. -/
theorem isBlank_ofNat (n : Nat) : isBlank (Char.ofNat n) = blankCode n := by
  rw [Bool.eq_iff_iff]
  constructor
  · intro h
    have hcode : blanks.all (fun c => blankCode c.toNat) = true := by decide
    have hn := List.all_eq_true.mp hcode _ (List.contains_iff_mem.mp h)
    by_cases hvalid : n.isValidChar
    · rwa [toNat_ofNat hvalid] at hn
    · rw [Char.ofNat, dif_neg hvalid] at hn
      exact absurd hn (by decide)
  · intro h
    obtain ⟨-, r, hr, hfirst, hlast⟩ := exists_range_of_blankCode h
    have hall : ∀ r ∈ blankRanges, ∀ k < r.2 + 1 - r.1, isBlank (Char.ofNat (r.1 + k)) = true := by
      decide +kernel
    have hn := hall r hr (n - r.1) (by omega)
    rwa [Nat.add_sub_cancel' hfirst] at hn

theorem isBlank_eq (c : Char) : isBlank c = blankCode c.toNat := by
  rw [← isBlank_ofNat, Char.ofNat_toNat]

/-- Every image of a table is all blank just if the code point is that it belongs to. -/
def KeepsBlanks (table : List Block) : Prop :=
  ∀ block ∈ table, ∀ entry ∈ block.2.zipIdx, entry.1.all blankCode = blankCode (block.1 + entry.2)

instance (table : List Block) : Decidable (KeepsBlanks table) :=
  inferInstanceAs (Decidable (∀ block ∈ table, ∀ entry ∈ block.2.zipIdx, _ = _))

theorem KeepsBlanks.all_image {table : List Block} (h : KeepsBlanks table) {n : Nat}
    {image : List Nat} (himage : blockImage? n table = some image) :
    image.all blankCode = blankCode n := by
  obtain ⟨block, hblock, hfirst, hget⟩ := mem_of_blockImage? himage
  have hentry := h block hblock _ (List.mk_mem_zipIdx_iff_getElem?.mpr hget)
  rwa [Nat.add_sub_cancel' hfirst] at hentry

theorem isSyllable_iff {n : Nat} :
    Hangul.isSyllable n = true ↔ 0xAC00 ≤ n ∧ n < 0xAC00 + 19 * 21 * 28 := by
  rw [Hangul.isSyllable, Bool.and_eq_true, decide_eq_true_iff, decide_eq_true_iff]
  rfl

namespace Decomposition

def tables : List (List Block) := [letters, symbols, eastAsian, presentation, supplementary]

/-- An image is that of a Korean syllable or stands in one of the tables. -/
theorem of_image? {n : Nat} {image : List Nat} (h : image? n = some image) :
    Hangul.isSyllable n = true ∧ Hangul.letters n = image ∨
      ∃ table ∈ tables, blockImage? n table = some image := by
  rw [image?] at h
  split_ifs at h with _ _ _ hsyllable
  · exact .inr ⟨letters, .head _, h⟩
  · exact .inr ⟨symbols, .tail _ (.head _), h⟩
  · exact .inl ⟨hsyllable, Option.some.inj h⟩
  · exact .inr ⟨eastAsian, .tail _ (.tail _ (.head _)), h⟩
  · exact .inr ⟨presentation, .tail _ (.tail _ (.tail _ (.head _))), h⟩
  · exact .inr ⟨supplementary, .tail _ (.tail _ (.tail _ (.tail _ (.head _)))), h⟩

theorem keepsBlanks_tables : ∀ table ∈ tables, KeepsBlanks table := by decide +kernel

theorem all_blankCode_letters {n : Nat} (h : Hangul.isSyllable n = true) :
    (Hangul.letters n).all blankCode = blankCode n := by
  have hn := isSyllable_iff.mp h
  have hleading : blankCode (Hangul.leadingBase +
      (n - Hangul.syllableBase) / (Hangul.vowelCount * Hangul.trailingCount)) = false := by
    apply blankCode_of_between <;>
      simp only [Hangul.leadingBase, Hangul.syllableBase, Hangul.vowelCount, Hangul.trailingCount] <;>
      omega
  rw [blankCode_of_lt (by omega), Hangul.letters]
  split <;> simp [hleading]

theorem all_blankCode_image {n : Nat} {image : List Nat} (h : image? n = some image) :
    image.all blankCode = blankCode n := by
  rcases of_image? h with ⟨hsyllable, rfl⟩ | ⟨table, htable, himage⟩
  · exact all_blankCode_letters hsyllable
  · exact (keepsBlanks_tables table htable).all_image himage

end Decomposition

theorem isBlank_decomposition (c : Char) : (decomposition c).all isBlank = isBlank c := by
  rw [decomposition]
  cases himage : Decomposition.image? c.toNat with
  | none => simp
  | some image =>
    dsimp only
    rw [List.all_map, isBlank_eq, ← Decomposition.all_blankCode_image himage]
    congr 1
    exact funext isBlank_ofNat

theorem place_perm (c : Char) (t : Text) : (place c t).Perm (c :: t) := by
  induction t with
  | nil => exact List.Perm.refl _
  | cons d t ih =>
    rw [place]
    split_ifs
    · exact (ih.cons d).trans (List.Perm.swap c d t)
    · exact List.Perm.refl _

theorem reorder_perm (t : Text) : (reorder t).Perm t := by
  induction t with
  | nil => exact List.Perm.refl _
  | cons c t ih => exact (place_perm c (reorder t)).trans (ih.cons c)

theorem mem_of_lookup {β : Type} {n : Nat} {b : β} {l : List (Nat × β)}
    (h : l.lookup n = some b) : (n, b) ∈ l := by
  obtain ⟨before, behind, rfl, -⟩ := List.lookup_eq_some_iff.mp h
  exact List.mem_append_right before List.mem_cons_self

/-- A syllable comes of a leading consonant and a vowel, or of a syllable that is still open and a
trailing consonant. -/
theorem of_join? {m n joined : Nat} (h : Hangul.join? m n = some joined) :
    (0x1100 ≤ m ∧ m < 0x1113) ∧ (0x1161 ≤ n ∧ n < 0x1176) ∧
        joined = 0xAC00 + ((m - 0x1100) * 21 + (n - 0x1161)) * 28 ∨
      (Hangul.isSyllable m = true ∧ (m - 0xAC00) % 28 = 0) ∧ (0x11A7 < n ∧ n < 0x11C3) ∧
        joined = m + (n - 0x11A7) := by
  rw [Hangul.join?] at h
  split_ifs at h with hvowel htrailing
  · simp only [Bool.and_eq_true, decide_eq_true_eq, and_assoc] at hvowel
    obtain ⟨hm, hm', hn, hn'⟩ := hvowel
    exact .inl ⟨⟨hm, hm'⟩, ⟨hn, hn'⟩, (Option.some.inj h).symm⟩
  · simp only [Bool.and_eq_true, decide_eq_true_eq, beq_iff_eq, and_assoc] at htrailing
    obtain ⟨hm, hopen, hn, hn'⟩ := htrailing
    exact .inr ⟨⟨hm, hopen⟩, ⟨hn, hn'⟩, (Option.some.inj h).symm⟩

theorem isSyllable_of_join? {m n joined : Nat} (h : Hangul.join? m n = some joined) :
    Hangul.isSyllable joined = true := by
  rw [isSyllable_iff]
  rcases of_join? h with ⟨hm, hn, hjoined⟩ | ⟨⟨hm, hopen⟩, hn, hjoined⟩
  · omega
  · have hm := isSyllable_iff.mp hm
    omega

theorem isValidChar_composites : ∀ entry ∈ composites, ∀ join ∈ entry.2, join.2.isValidChar := by
  decide +kernel

/-- A composite is a Korean syllable or stands in the table. -/
theorem of_composite? {c d joined : Char} (h : composite? c d = some joined) :
    Hangul.join? c.toNat d.toNat = some joined.toNat ∨
      ∃ joins, (d.toNat, joins) ∈ composites ∧ (c.toNat, joined.toNat) ∈ joins := by
  rw [composite?] at h
  cases hjoin : Hangul.join? c.toNat d.toNat with
  | some n =>
    rw [hjoin] at h
    have hn := isSyllable_iff.mp (isSyllable_of_join? hjoin)
    rw [← Option.some.inj h, toNat_ofNat (.inl (by omega))]
    exact .inl rfl
  | none =>
    rw [hjoin] at h
    obtain ⟨n, hn, rfl⟩ := Option.map_eq_some_iff.mp h
    obtain ⟨joins, hjoins, hn⟩ := Option.bind_eq_some_iff.mp hn
    have hmem := mem_of_lookup hn
    rw [toNat_ofNat (isValidChar_composites _ (mem_of_lookup hjoins) _ hmem)]
    exact .inr ⟨joins, mem_of_lookup hjoins, hmem⟩

theorem blankCode_composites : ∀ entry ∈ composites, ∀ join ∈ entry.2,
    blankCode join.1 = false ∧ blankCode entry.1 = false ∧ blankCode join.2 = false := by
  decide +kernel

theorem blankCode_of_join? {m n joined : Nat} (h : Hangul.join? m n = some joined) :
    blankCode m = false ∧ blankCode n = false ∧ blankCode joined = false := by
  have hjoined := isSyllable_iff.mp (isSyllable_of_join? h)
  rcases of_join? h with ⟨hm, hn, -⟩ | ⟨⟨hm, -⟩, hn, -⟩
  · exact ⟨blankCode_of_between (by omega) (by omega), blankCode_of_between (by omega) (by omega),
      blankCode_of_lt (by omega)⟩
  · have hm := isSyllable_iff.mp hm
    exact ⟨blankCode_of_lt (by omega), blankCode_of_between (by omega) (by omega),
      blankCode_of_lt (by omega)⟩

/-- Blanks have no part in what is joined. -/
theorem isBlank_of_composite? {c d joined : Char} (h : composite? c d = some joined) :
    isBlank c = false ∧ isBlank d = false ∧ isBlank joined = false := by
  rw [isBlank_eq c, isBlank_eq d, isBlank_eq joined]
  rcases of_composite? h with hjoin | ⟨joins, hjoins, hmem⟩
  · exact blankCode_of_join? hjoin
  · exact blankCode_composites _ hjoins _ hmem

theorem isBlank_joinTo (starter : Char) (kept t : Text) :
    (joinTo starter kept t).all isBlank = (isBlank starter && kept.all isBlank && t.all isBlank) := by
  induction t generalizing starter kept with
  | nil => simp [joinTo]
  | cons c t ih =>
    rw [joinTo]
    split
    -- Of what is joined neither the second part nor the result is blank, so both sides are false.
    case h_1 joined hjoined =>
      have hcomposite : composite? starter c = some joined := by
        split_ifs at hjoined
        exact hjoined
      obtain ⟨-, hc, hjoined⟩ := isBlank_of_composite? hcomposite
      rw [ih, hjoined, List.all_cons, hc]
      simp
    case h_2 =>
      split_ifs
      · rw [List.all_cons, List.all_append, List.all_reverse, ih, List.all_cons]
        simp [Bool.and_assoc]
      · rw [ih, List.all_cons, List.all_cons]
        simp only [Bool.and_assoc, Bool.and_left_comm]

theorem isBlank_compose (t : Text) : (compose t).all isBlank = t.all isBlank := by
  induction t with
  | nil => rfl
  | cons c t ih =>
    rw [compose]
    split_ifs
    · rw [isBlank_joinTo]
      simp
    · rw [List.all_cons, ih, List.all_cons]

theorem isBlank_compatibilityForm (t : Text) :
    (compatibilityForm t).all isBlank = t.all isBlank := by
  rw [compatibilityForm, isBlank_compose, (reorder_perm _).all_eq, List.all_flatMap]
  congr 1
  exact funext isBlank_decomposition

theorem mem_of_lowerImage? {n image : Nat} {table : List CaseRun}
    (h : lowerImage? n table = some image) :
    ∃ run ∈ table, run.first ≤ n ∧ n ≤ run.last ∧ (n - run.first) % run.step = 0 ∧
      run.image + (n - run.first) = image := by
  induction table with
  | nil => exact absurd h nofun
  | cons run rest ih =>
    rw [lowerImage?] at h
    split_ifs at h with hfirst hlast hstep
    · exact ⟨run, List.mem_cons_self, by omega, hlast, hstep, Option.some.inj h⟩
    · obtain ⟨run', hrun', hbounds⟩ := ih h
      exact ⟨run', List.mem_cons_of_mem run hrun', hbounds⟩

/-- No blanks lie among the code points of a run or among their images. -/
theorem lowerRuns_apart : ∀ run ∈ lowerRuns, ∀ r ∈ blankRanges,
    (run.last < r.1 ∨ r.2 < run.first) ∧
      (run.image + (run.last - run.first) < r.1 ∨ r.2 < run.image) := by
  decide +kernel

theorem blankCode_of_lowerImage? {n image : Nat} (h : lowerImage? n lowerRuns = some image) :
    blankCode n = false ∧ blankCode image = false := by
  obtain ⟨run, hrun, hfirst, hlast, -, rfl⟩ := mem_of_lowerImage? h
  constructor
  · refine blankCode_of_apart fun r hr => ?_
    have hapart := (lowerRuns_apart run hrun r hr).1
    omega
  · refine blankCode_of_apart fun r hr => ?_
    have hapart := (lowerRuns_apart run hrun r hr).2
    omega

theorem isBlank_lowerChar (c : Char) : (lowerChar c).all isBlank = isBlank c := by
  rw [lowerChar]
  split_ifs with hdotted
  · rw [hdotted]
    decide
  · cases himage : lowerImage? c.toNat lowerRuns with
    | none => simp
    | some n =>
      obtain ⟨hc, hn⟩ := blankCode_of_lowerImage? himage
      rw [isBlank_eq c, hc, List.all_cons, isBlank_ofNat, hn, Bool.false_and]

theorem isBlank_lowercaseFrom (before t : Text) :
    (lowercaseFrom before t).all isBlank = t.all isBlank := by
  induction t generalizing before with
  | nil => rfl
  | cons c t ih =>
    rw [lowercaseFrom, List.all_append, ih, List.all_cons]
    congr 1
    by_cases hc : c = 'Σ'
    · rw [if_pos hc, hc]
      split <;> decide
    · rw [if_neg hc, isBlank_lowerChar]

theorem isBlank_lowercase (t : Text) : (lowercase t).all isBlank = t.all isBlank :=
  isBlank_lowercaseFrom [] t

end Thesaurus.Unicode
