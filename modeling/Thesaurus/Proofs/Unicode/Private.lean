import Thesaurus.Proofs.Unicode.Apart

/-!
# Characters of private use

The tables speak of no code point of the last plane, neither as what is looked up nor as what is
found. So the characters there stay as they are, keep apart what stands on either side of them, and
do not come from anything else. Main facts: `atomic_of_private`, `solitary_of_private`,
`caseless_of_private`, `mem_of_private_mem_compatibilityForm` and `mem_of_private_mem_lowercase`.
-/

set_option autoImplicit false
set_option maxRecDepth 10000

namespace Thesaurus.Unicode

open Decomposition

/-- The first code point of the last plane, which is for private use. -/
def privateStart : Nat := 0x100000

def Ordinary (c : Char) : Prop := c.toNat < privateStart

instance : DecidablePred Ordinary := fun c => inferInstanceAs (Decidable (c.toNat < privateStart))

theorem tables_lt : ∀ table ∈ tables, ∀ block ∈ table,
    block.1 + block.2.length < privateStart ∧ ∀ image ∈ block.2, ∀ n ∈ image, n < privateStart := by
  decide +kernel

theorem combiningClasses_lt : ∀ r ∈ combiningClasses, r.2.1 < privateStart := by decide +kernel

theorem composites_lt : ∀ entry ∈ composites, entry.1 < privateStart ∧
    ∀ join ∈ entry.2, join.1 < privateStart ∧ join.2 < privateStart := by
  decide +kernel

theorem cased_lt : ∀ r ∈ cased, r.2 < privateStart := by decide +kernel

theorem caseIgnorable_lt : ∀ r ∈ caseIgnorable, r.2 < privateStart := by decide +kernel

theorem lowerRuns_lt : ∀ run ∈ lowerRuns, run.last < privateStart ∧
    run.image + (run.last - run.first) < privateStart := by
  decide +kernel

theorem lt_of_image? {n : Nat} {image : List Nat} (h : image? n = some image) :
    n < privateStart ∧ ∀ m ∈ image, m < privateStart := by
  rcases of_image? h with ⟨hsyllable, rfl⟩ | ⟨table, htable, himage⟩
  · have hn := isSyllable_iff.mp hsyllable
    refine ⟨by rw [privateStart]; omega, fun m hm => ?_⟩
    have hm := (mem_hangul_letters hsyllable hm).2
    rw [privateStart]
    omega
  · obtain ⟨block, hblock, -, hget⟩ := mem_of_blockImage? himage
    obtain ⟨hend, himages⟩ := tables_lt table htable block hblock
    have hlength := (List.getElem?_eq_some_iff.mp hget).1
    exact ⟨by omega, himages image (List.mem_of_getElem? hget)⟩

theorem ordinary_of_composite? {c d joined : Char} (h : composite? c d = some joined) :
    Ordinary c ∧ Ordinary d ∧ Ordinary joined := by
  simp only [Ordinary]
  rcases of_composite? h with hjoin | ⟨joins, hjoins, hmem⟩
  · have hjoined := isSyllable_iff.mp (isSyllable_of_join? hjoin)
    rw [privateStart]
    rcases of_join? hjoin with ⟨hc, hd, -⟩ | ⟨⟨hc, -⟩, hd, -⟩
    · omega
    · have hc := isSyllable_iff.mp hc
      omega
  · obtain ⟨hd, hjoins⟩ := composites_lt _ hjoins
    obtain ⟨hc, hjoined⟩ := hjoins _ hmem
    exact ⟨hc, hd, hjoined⟩

theorem lt_of_lowerImage? {n image : Nat} (h : lowerImage? n lowerRuns = some image) :
    n < privateStart ∧ image < privateStart := by
  obtain ⟨run, hrun, -, hlast, -, rfl⟩ := mem_of_lowerImage? h
  obtain ⟨hrange, himage⟩ := lowerRuns_lt run hrun
  omega

section Private

variable {c : Char} (hc : ¬ Ordinary c)

include hc

theorem atomic_of_private : Atomic c := by
  have hnone : image? c.toNat = none :=
    Option.eq_none_iff_forall_ne_some.mpr fun _ h => hc (lt_of_image? h).1
  rw [Atomic, decomposition, hnone]

theorem solitary_of_private : Solitary c := by
  refine ⟨?_, fun d => ⟨Option.eq_none_iff_forall_ne_some.mpr fun _ h => ?_,
    Option.eq_none_iff_forall_ne_some.mpr fun _ h => ?_⟩⟩
  · have hnone : rangeValue? c.toNat combiningClasses = none := by
      refine Option.eq_none_iff_forall_ne_some.mpr fun _ h => hc ?_
      obtain ⟨r, hr, -, hlast, -⟩ := mem_of_rangeValue? h
      exact Nat.lt_of_le_of_lt hlast (combiningClasses_lt r hr)
    rw [isStarter, combiningClass, hnone]
    rfl
  · exact hc (ordinary_of_composite? h).1
  · exact hc (ordinary_of_composite? h).2.1

theorem caseless_of_private : Caseless c := by
  have hranges {table : List (Nat × Nat)} (h : ∀ r ∈ table, r.2 < privateStart) :
      inRanges c.toNat table = false := by
    by_contra hin
    obtain ⟨r, hr, -, hlast⟩ := mem_of_inRanges (Bool.of_not_eq_false hin)
    exact hc (Nat.lt_of_le_of_lt hlast (h r hr))
  have hne {d : Char} (hd : d.toNat < privateStart) : c ≠ d := by
    rintro rfl
    exact hc hd
  have hnone : lowerImage? c.toNat lowerRuns = none :=
    Option.eq_none_iff_forall_ne_some.mpr fun _ h => hc (lt_of_lowerImage? h).1
  refine ⟨hranges cased_lt, hranges caseIgnorable_lt, hne (by decide), ?_⟩
  rw [lowerChar, if_neg (hne (by decide)), hnone]

end Private

theorem ordinary_ofNat {n : Nat} (h : n < privateStart) : Ordinary (Char.ofNat n) := by
  by_cases hvalid : n.isValidChar
  · rwa [Ordinary, toNat_ofNat hvalid]
  · rw [Char.ofNat, dif_neg hvalid]
    decide

theorem eq_of_private_mem_decomposition {c d : Char} (hc : ¬ Ordinary c)
    (h : c ∈ decomposition d) : c = d := by
  rw [decomposition] at h
  cases himage : image? d.toNat with
  | none =>
    rw [himage] at h
    exact List.mem_singleton.mp h
  | some image =>
    rw [himage] at h
    obtain ⟨n, hn, rfl⟩ := List.mem_map.mp h
    exact absurd (ordinary_ofNat ((lt_of_image? himage).2 n hn)) hc

theorem eq_of_private_mem_lowerChar {c d : Char} (hc : ¬ Ordinary c) (h : c ∈ lowerChar d) :
    c = d := by
  rw [lowerChar] at h
  split_ifs at h
  · rcases List.mem_pair.mp h with rfl | rfl <;> exact absurd (by decide) hc
  · cases himage : lowerImage? d.toNat lowerRuns with
    | none =>
      rw [himage] at h
      exact List.mem_singleton.mp h
    | some image =>
      rw [himage] at h
      rw [List.mem_singleton.mp h] at hc
      exact absurd (ordinary_ofNat (lt_of_lowerImage? himage).2) hc

/-- What is joined or taken apart does not lead into private use. -/
theorem mem_of_private_mem_compatibilityForm {c : Char} {t : Text} (hc : ¬ Ordinary c)
    (h : c ∈ compatibilityForm t) : c ∈ t := by
  by_contra hnot
  refine forall_mem_compose (P := (c ≠ ·)) (fun _ _ joined hjoined _ _ => ?_) ?_ c h rfl
  · rintro rfl
    exact hc (ordinary_of_composite? hjoined).2.2
  · rintro d hd rfl
    obtain ⟨e, he, hmem⟩ := List.mem_flatMap.mp ((reorder_perm _).mem_iff.mp hd)
    exact hnot (eq_of_private_mem_decomposition hc hmem ▸ he)

theorem mem_of_private_mem_lowercaseFrom {c : Char} {before t : Text} (hc : ¬ Ordinary c)
    (h : c ∈ lowercaseFrom before t) : c ∈ t := by
  induction t generalizing before with
  | nil => exact h
  | cons d t ih =>
    rw [lowercaseFrom, List.mem_append] at h
    rcases h with h | h
    · split_ifs at h
      · exact absurd (List.mem_singleton.mp h ▸ by decide) hc
      · exact absurd (List.mem_singleton.mp h ▸ by decide) hc
      · exact List.mem_cons.mpr (.inl (eq_of_private_mem_lowerChar hc h))
    · exact List.mem_cons_of_mem d (ih h)

theorem mem_of_private_mem_lowercase {c : Char} {t : Text} (hc : ¬ Ordinary c)
    (h : c ∈ lowercase t) : c ∈ t :=
  mem_of_private_mem_lowercaseFrom hc h

end Thesaurus.Unicode
