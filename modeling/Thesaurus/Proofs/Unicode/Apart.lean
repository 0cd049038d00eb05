import Thesaurus.Proofs.Text.Runs
import Thesaurus.Proofs.Unicode.Form

/-!
# What keeps texts apart

Some characters are starters, join with nothing and end the surroundings that a capital sigma looks
at. So both the compatibility form and small letters are found on either side of them by itself.
Blanks are such characters. Main facts: `compatibilityForm_append_cons` and
`lowercase_append_caseless`.
-/

set_option autoImplicit false
set_option maxRecDepth 10000

namespace Thesaurus.Unicode

open Text

theorem decomposition_of_isBlank {b : Char} (hb : isBlank b = true) :
    ∃ b', decomposition b = [b'] ∧ isBlank b' = true ∧ isStarter b' = true := by
  have hall : blanks.all (fun b => (decomposition b).length == 1 &&
      (decomposition b).all fun b' => isBlank b' && isStarter b') = true := by
    decide +kernel
  have hdecomposition := List.all_eq_true.mp hall b (List.contains_iff_mem.mp hb)
  rw [Bool.and_eq_true, beq_iff_eq, List.length_eq_one_iff] at hdecomposition
  obtain ⟨⟨b', hb'⟩, hparts⟩ := hdecomposition
  rw [hb', List.all_cons, List.all_nil, Bool.and_true, Bool.and_eq_true] at hparts
  exact ⟨b', hb', hparts⟩

/-- A character that composition does not go past: it begins anew and joins with nothing. -/
structure Solitary (b : Char) : Prop where
  isStarter : isStarter b = true
  composite? : ∀ c, composite? b c = none ∧ composite? c b = none

/-- A character that is the same in small letters and ends the surroundings of a sigma. -/
structure Caseless (b : Char) : Prop where
  isCased : isCased b = false
  isCaseIgnorable : isCaseIgnorable b = false
  ne_sigma : b ≠ 'Σ'
  lowerChar : lowerChar b = [b]

theorem solitary_of_isBlank {b : Char} (hb : isBlank b = true) (hstarter : isStarter b = true) :
    Solitary b := by
  refine ⟨hstarter, fun c => ⟨Option.eq_none_iff_forall_ne_some.mpr fun joined h => ?_,
    Option.eq_none_iff_forall_ne_some.mpr fun joined h => ?_⟩⟩
  · exact absurd hb (ne_true_of_eq_false (isBlank_of_composite? h).1)
  · exact absurd hb (ne_true_of_eq_false (isBlank_of_composite? h).2.1)

theorem caseless_of_isBlank {b : Char} (hb : isBlank b = true) : Caseless b := by
  have hall : blanks.all (fun b => !isCased b && !isCaseIgnorable b && b != 'Σ' &&
      lowerChar b == [b]) = true := by
    decide +kernel
  have hcase := List.all_eq_true.mp hall b (List.contains_iff_mem.mp hb)
  simp only [Bool.and_eq_true, Bool.not_eq_true', bne_iff_ne, beq_iff_eq, and_assoc] at hcase
  obtain ⟨hcased, hignorable, hsigma, hsmall⟩ := hcase
  exact ⟨hcased, hignorable, hsigma, hsmall⟩

section Composition

variable {b : Char} (hb : Solitary b)

include hb

theorem joinTo_solitary (kept t : Text) : joinTo b kept t = b :: (kept.reverse ++ compose t) := by
  induction t generalizing kept with
  | nil => rw [joinTo, compose, List.append_nil]
  | cons c t ih =>
    rw [joinTo, (hb.composite? c).1, ite_self, compose]
    dsimp only
    split_ifs
    · rfl
    · rw [ih, List.reverse_cons, List.append_assoc, List.singleton_append]

theorem joinTo_append_solitary (s : Char) (kept x t : Text) :
    joinTo s kept (x ++ b :: t) = joinTo s kept x ++ b :: compose t := by
  induction x generalizing s kept with
  | nil =>
    change joinTo s kept (b :: t) = s :: (kept.reverse ++ b :: compose t)
    rw [joinTo, (hb.composite? s).2, ite_self]
    dsimp only
    rw [if_pos hb.isStarter, joinTo_solitary hb]
    rfl
  | cons c x ih =>
    rw [List.cons_append, joinTo, joinTo]
    split
    case h_1 => rw [ih]
    case h_2 =>
      split_ifs
      · rw [ih, List.cons_append, List.append_assoc]
      · rw [ih]

theorem compose_append_solitary (x t : Text) :
    compose (x ++ b :: t) = compose x ++ b :: compose t := by
  induction x with
  | nil =>
    change compose (b :: t) = b :: compose t
    rw [compose, if_pos hb.isStarter, joinTo_solitary hb]
    rfl
  | cons c x ih =>
    rw [List.cons_append, compose, compose]
    split_ifs
    · rw [joinTo_append_solitary hb]
    · rw [ih, List.cons_append]

/-- A character whose decomposition is solitary keeps apart what stands on either side of it. -/
theorem compatibilityForm_append_cons {c : Char} (hc : decomposition c = [b]) (x t : Text) :
    compatibilityForm (x ++ c :: t) = compatibilityForm x ++ b :: compatibilityForm t := by
  rw [compatibilityForm, List.flatMap_append, List.flatMap_cons, hc, List.singleton_append,
    reorder_append_starter hb.isStarter, compose_append_solitary hb]
  rfl

end Composition

section Blank

variable {b : Char}

theorem compatibilityForm_append_blank (hb : isBlank b = true) (x t : Text) :
    compatibilityForm (x ++ b :: t) =
      compatibilityForm x ++ decomposition b ++ compatibilityForm t := by
  obtain ⟨b', hdecomposition, hb', hstarter⟩ := decomposition_of_isBlank hb
  rw [compatibilityForm_append_cons (solitary_of_isBlank hb' hstarter) hdecomposition,
    hdecomposition, List.append_assoc]
  rfl

/-- The blanks of the form are those of the text and what more its words bring. -/
theorem countP_isBlank_compatibilityForm (t : Text) :
    (compatibilityForm t).countP isBlank =
      t.countP isBlank + ((runs isBlank t).flatMap compatibilityForm).countP isBlank := by
  have hnone {r : Text} (hr : ∀ c ∈ r, isBlank c = false) : r.countP isBlank = 0 :=
    List.countP_eq_zero.mpr (by simpa using hr)
  induction t using separator_induction isBlank with
  | whole l h => rw [hnone h, flatMap_runs_of_free rfl h, Nat.zero_add]
  | cut r b m hr hb ih =>
    obtain ⟨b', hdecomposition, hb', -⟩ := decomposition_of_isBlank hb
    have hone : [b'].countP isBlank = 1 := by rw [List.countP_singleton, if_pos hb']
    rw [compatibilityForm_append_blank hb, List.countP_append, List.countP_append, hdecomposition,
      hone, ih, runs_append_cons hb, List.flatMap_append, flatMap_runs_of_free rfl hr,
      List.countP_append, List.countP_append, hnone hr, List.countP_cons_of_pos hb]
    omega

/-- The form of its own form would have the blanks twice, if a form had any beside its one word. -/
theorem compatibilityForm_of_runs {t : Text} (h : runs isBlank (compatibilityForm t) = [t]) :
    compatibilityForm t = t := by
  have hcount := countP_isBlank_compatibilityForm (compatibilityForm t)
  rw [compatibilityForm_compatibilityForm, h, List.flatMap_singleton] at hcount
  have hnone : (compatibilityForm t).countP isBlank = 0 := by omega
  have hfree : ∀ c ∈ compatibilityForm t, isBlank c = false := by
    simpa using List.countP_eq_zero.mp hnone
  have hne : compatibilityForm t ≠ [] := by
    intro hnil
    rw [hnil] at h
    exact absurd h (by simp)
  rw [runs_eq_singleton hne hfree] at h
  exact List.singleton_inj.mp h

end Blank

section Lowercase

variable {b : Char} (hb : Caseless b)

include hb

theorem meetsCased_append_caseless (x t : Text) : meetsCased (x ++ b :: t) = meetsCased x := by
  induction x with
  | nil =>
    rw [List.nil_append, meetsCased,
      List.dropWhile_cons_of_neg (ne_true_of_eq_false hb.isCaseIgnorable)]
    exact hb.isCased
  | cons c x ih =>
    rw [List.cons_append]
    by_cases hc : isCaseIgnorable c = true
    · rw [meetsCased, List.dropWhile_cons_of_pos hc, ← meetsCased, ih, meetsCased.eq_1 (c :: x),
        List.dropWhile_cons_of_pos hc, ← meetsCased]
    · rw [meetsCased, List.dropWhile_cons_of_neg hc, meetsCased, List.dropWhile_cons_of_neg hc]

theorem lowercaseFrom_behind_caseless (before behind t : Text) :
    lowercaseFrom (before ++ b :: behind) t = lowercaseFrom before t := by
  induction t generalizing before with
  | nil => rfl
  | cons c t ih =>
    rw [lowercaseFrom, lowercaseFrom, meetsCased_append_caseless hb, ← List.cons_append, ih]

theorem lowercaseFrom_append_caseless (before x t : Text) :
    lowercaseFrom before (x ++ b :: t) = lowercaseFrom before x ++ b :: lowercase t := by
  induction x generalizing before with
  | nil =>
    change lowercaseFrom before (b :: t) = b :: lowercase t
    rw [lowercaseFrom, if_neg hb.ne_sigma, hb.lowerChar, ← List.nil_append (b :: before),
      lowercaseFrom_behind_caseless hb]
    rfl
  | cons c x ih =>
    rw [List.cons_append, lowercaseFrom, lowercaseFrom, meetsCased_append_caseless hb, ih,
      List.append_assoc]

theorem lowercase_append_caseless (x t : Text) :
    lowercase (x ++ b :: t) = lowercase x ++ b :: lowercase t :=
  lowercaseFrom_append_caseless hb [] x t

end Lowercase

end Thesaurus.Unicode
