import Thesaurus.Proofs.Unicode.Form

/-!
# Small letters in compatibility form

Written small, a text in compatibility form may have another compatibility form, as where a mark
joins with a small letter but not with its capital. But no capital comes back: that form is small
throughout, and so the second round is the last. Main facts: `lowercase_of_small`,
`smallParts_of_mem_lowercase` and `lowercase_compatibilityForm`.
-/

set_option autoImplicit false
set_option maxRecDepth 10000

namespace Thesaurus.Unicode

open Text Decomposition

/-- Whether a code point is that of no capital. -/
def smallCode (n : Nat) : Bool :=
  n != 0x130 && (runReading.search n (halve lowerRuns)).isNone

/-- A character that stays when a text is written small. -/
def Small (c : Char) : Prop := smallCode c.toNat = true

/-- A character that is small in all its parts. -/
def SmallParts (c : Char) : Prop := ∀ d ∈ decomposition c, Small d

instance (c : Char) : Decidable (Small c) := inferInstanceAs (Decidable (_ = _))

instance (c : Char) : Decidable (SmallParts c) := List.decidableBAll Small (decomposition c)

theorem small_iff {c : Char} :
    Small c ↔ c ≠ '\u0130' ∧ lowerImage? c.toNat lowerRuns = none := by
  have hdotted : c.toNat ≠ 0x130 ↔ c ≠ '\u0130' := by
    refine not_congr ⟨fun h => ?_, fun h => h ▸ rfl⟩
    rw [← Char.ofNat_toNat c, h]
  rw [Small, smallCode, Bool.and_eq_true, bne_iff_ne, hdotted, Option.isNone_iff_eq_none,
    lowerImage?_eq_searched]

theorem small_ofNat {n : Nat} (h : smallCode n = true) : Small (Char.ofNat n) := by
  by_cases hvalid : n.isValidChar
  · rwa [Small, toNat_ofNat hvalid]
  · rw [Char.ofNat, dif_neg hvalid]
    decide +kernel

theorem lowerChar_of_small {c : Char} (h : Small c) : lowerChar c = [c] := by
  obtain ⟨hdotted, himage⟩ := small_iff.mp h
  rw [lowerChar, if_neg hdotted, himage]

theorem lowercase_of_small {t : Text} (h : ∀ c ∈ t, Small c) : lowercase t = t := by
  have hfrom (before : Text) : lowercaseFrom before t = t := by
    induction t generalizing before with
    | nil => rfl
    | cons c t ih =>
      obtain ⟨hc, ht⟩ := List.forall_mem_cons.mp h
      have hsigma : c ≠ 'Σ' := by
        rintro rfl
        exact absurd hc (by decide +kernel)
      rw [lowercaseFrom, if_neg hsigma, lowerChar_of_small hc, ih ht, List.singleton_append]
  exact hfrom []

/-- The small letters of the runs are small, and so are the parts they are decomposed to. -/
theorem smallCode_images : ∀ run ∈ lowerRuns, ∀ k < run.last + 1 - run.first, k % run.step = 0 →
    (run.image + k).isValidChar ∧ smallCode (run.image + k) = true ∧
      ∀ n ∈ codes (run.image + k), smallCode n = true := by
  decide +kernel

theorem of_lowerImage? {n image : Nat} (h : lowerImage? n lowerRuns = some image) :
    Small (Char.ofNat image) ∧ SmallParts (Char.ofNat image) := by
  obtain ⟨run, hrun, hfirst, hlast, hstep, rfl⟩ := mem_of_lowerImage? h
  obtain ⟨hvalid, hsmall, hcodes⟩ := smallCode_images run hrun (n - run.first) (by omega) hstep
  refine ⟨small_ofNat hsmall, ?_⟩
  rw [SmallParts, decomposition_ofNat hvalid]
  intro d hd
  obtain ⟨m, hm, rfl⟩ := List.mem_map.mp hd
  exact small_ofNat (hcodes m hm)

/-- What a character is written small as is small in all its parts, unless it is left alone. -/
theorem of_mem_lowerChar {c d : Char} (h : d ∈ lowerChar c) :
    Small d ∧ (d = c ∨ SmallParts d) := by
  rw [lowerChar] at h
  split_ifs at h with hdotted
  · have hi : Small 'i' ∧ SmallParts 'i' := by decide +kernel
    have hdot : Small '\u0307' ∧ SmallParts '\u0307' := by decide +kernel
    rw [List.mem_pair] at h
    rcases h with rfl | rfl
    · exact ⟨hi.1, .inr hi.2⟩
    · exact ⟨hdot.1, .inr hdot.2⟩
  · cases himage : lowerImage? c.toNat lowerRuns with
    | none =>
      rw [himage] at h
      obtain rfl := List.mem_singleton.mp h
      exact ⟨small_iff.mpr ⟨hdotted, himage⟩, .inl rfl⟩
    | some image =>
      rw [himage] at h
      obtain rfl := List.mem_singleton.mp h
      obtain ⟨hsmall, hparts⟩ := of_lowerImage? himage
      exact ⟨hsmall, .inr hparts⟩

theorem of_mem_lowercaseFrom {before t : Text} {d : Char} (h : d ∈ lowercaseFrom before t) :
    Small d ∧ (d ∈ t ∨ SmallParts d) := by
  induction t generalizing before with
  | nil => exact absurd h List.not_mem_nil
  | cons c t ih =>
    rw [lowercaseFrom, List.mem_append] at h
    rcases h with h | h
    · by_cases hsigma : c = 'Σ'
      · rw [if_pos hsigma, List.mem_singleton] at h
        have hd : d = 'ς' ∨ d = 'σ' := by
          rw [h]
          exact ite_eq_or_eq _ _ _
        have hsmall : Small d ∧ SmallParts d := by
          rcases hd with rfl | rfl <;> decide +kernel
        exact ⟨hsmall.1, .inr hsmall.2⟩
      · rw [if_neg hsigma] at h
        obtain ⟨hd, hparts⟩ := of_mem_lowerChar h
        exact ⟨hd, hparts.imp_left fun hc => List.mem_cons.mpr (.inl hc)⟩
    · obtain ⟨hd, hparts⟩ := ih h
      exact ⟨hd, hparts.imp_left (List.mem_cons_of_mem c)⟩

theorem smallCode_composites : ∀ entry ∈ composites, smallCode entry.1 = true ∧
    ∀ join ∈ entry.2, smallCode join.2 = smallCode join.1 := by
  decide +kernel

theorem smallCode_of_apart {first last n : Nat} (hfirst : first ≤ n) (hlast : n ≤ last)
    (hdotted : 0x130 < first)
    (hruns : ∀ run ∈ lowerRuns, run.last < first ∨ last < run.first) : smallCode n = true := by
  rw [smallCode, Bool.and_eq_true, bne_iff_ne, ← lowerImage?_eq_searched,
    Option.isNone_iff_eq_none, Option.eq_none_iff_forall_ne_some]
  refine ⟨by omega, fun image himage => ?_⟩
  obtain ⟨run, hrun, hn⟩ := mem_of_lowerImage? himage
  have hapart := hruns run hrun
  omega

/-- Korean letters have no case. -/
theorem smallCode_of_join? {m n joined : Nat} (h : Hangul.join? m n = some joined) :
    smallCode m = true ∧ smallCode n = true ∧ smallCode joined = true := by
  have hletter {k : Nat} (hfirst : 0x1100 ≤ k) (hlast : k ≤ 0x11C2) : smallCode k = true :=
    smallCode_of_apart hfirst hlast (by decide) (by decide +kernel)
  have hsyllable {k : Nat} (hk : Hangul.isSyllable k = true) : smallCode k = true := by
    have hk := isSyllable_iff.mp hk
    exact smallCode_of_apart hk.1 (Nat.le_of_lt hk.2) (by decide) (by decide +kernel)
  have hjoined := hsyllable (isSyllable_of_join? h)
  rcases of_join? h with ⟨hm, hn, -⟩ | ⟨⟨hm, -⟩, hn, -⟩
  · exact ⟨hletter (by omega) (by omega), hletter (by omega) (by omega), hjoined⟩
  · exact ⟨hsyllable hm, hletter (by omega) (by omega), hjoined⟩

/-- A composite is a capital just if its first part is; a capital never comes second. -/
theorem small_of_composite? {c d joined : Char} (h : composite? c d = some joined) :
    Small d ∧ (Small joined ↔ Small c) := by
  rcases of_composite? h with hjoin | ⟨joins, hjoins, hmem⟩
  · obtain ⟨hc, hd, hjoined⟩ := smallCode_of_join? hjoin
    exact ⟨hd, iff_of_true hjoined hc⟩
  · obtain ⟨hd, hall⟩ := smallCode_composites _ hjoins
    exact ⟨hd, by rw [Small, Small, hall _ hmem]⟩

/-- In compatibility form a character that is small is small in all its parts. -/
theorem smallParts_of_mem_compatibilityForm {t : Text} :
    ∀ c ∈ compatibilityForm t, Small c → SmallParts c := by
  refine forall_mem_compose (fun c d joined hjoined hc hd hsmall => ?_) fun c hc hsmall => ?_
  · obtain ⟨hsecond, hiff⟩ := small_of_composite? hjoined
    rw [SmallParts, decomposition_of_composite? hjoined, List.forall_mem_append]
    exact ⟨hc (hiff.mp hsmall), hd hsecond⟩
  · have hatomic : decomposition c = [c] := atomic_of_mem_reorder c hc
    rw [SmallParts, hatomic, List.forall_mem_singleton]
    exact hsmall

theorem small_of_mem_compatibilityForm {t : Text} (h : ∀ c ∈ t, SmallParts c) :
    ∀ c ∈ compatibilityForm t, Small c := by
  refine forall_mem_compose (fun c d joined hjoined hc _ => ?_) fun c hc => ?_
  · exact (small_of_composite? hjoined).2.mpr hc
  · obtain ⟨d, hd, hc⟩ := List.mem_flatMap.mp ((reorder_perm _).mem_iff.mp hc)
    exact h d hd c hc

theorem smallParts_of_mem_lowercase {t : Text} :
    ∀ c ∈ lowercase (compatibilityForm t), SmallParts c := by
  intro c hc
  obtain ⟨hsmall, hform | hparts⟩ := of_mem_lowercaseFrom hc
  · exact smallParts_of_mem_compatibilityForm c hform hsmall
  · exact hparts

/-- Once everything is small in all its parts, small letters add nothing to the form. -/
theorem lowercase_compatibilityForm {t : Text} (h : ∀ c ∈ t, SmallParts c) :
    lowercase (compatibilityForm t) = compatibilityForm t :=
  lowercase_of_small (small_of_mem_compatibilityForm h)

end Thesaurus.Unicode
