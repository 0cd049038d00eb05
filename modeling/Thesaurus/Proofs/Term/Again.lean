import Thesaurus.Proofs.Term.Analysis
import Thesaurus.Proofs.Unicode.Apart
import Thesaurus.Proofs.Unicode.Small

/-!
# Terms analyzed again

The tokens of a text are those of its words, so a term that is displayed and analyzed again gives
the tokens of its tokens. Where case is kept these are the tokens themselves. Where a term is
written small they are just if no token has another compatibility form, and what the second analysis
gives does not change any more. Main fact: `analyzed_again`.
-/

set_option autoImplicit false

namespace Thesaurus.Analyzer

open Text Unicode

/-- What an analyzer makes of a text before it takes the words. -/
def form (a : Analyzer) (t : Text) : Text :=
  if a.lowercase then Unicode.lowercase (compatibilityForm t) else compatibilityForm t

section Words

variable {a : Analyzer}

theorem analyze_eq_runs_form (t : Text) : a.analyze t = runs isBlank (a.form t) := analyze_eq a t

theorem form_append_blank {b : Char} (hb : isBlank b = true) (x t : Text) :
    ∃ b', isBlank b' = true ∧ a.form (x ++ b :: t) = a.form x ++ b' :: a.form t := by
  obtain ⟨b', hdecomposition, hb', -⟩ := decomposition_of_isBlank hb
  refine ⟨b', hb', ?_⟩
  simp only [form, compatibilityForm_append_blank hb, hdecomposition, List.append_assoc,
    List.singleton_append]
  split_ifs
  · rw [lowercase_append_caseless (caseless_of_isBlank hb')]
  · rfl

/-- The analyzer does not look across a blank. -/
theorem analyze_append_blank {b : Char} (hb : isBlank b = true) (x t : Text) :
    a.analyze (x ++ b :: t) = a.analyze x ++ a.analyze t := by
  obtain ⟨b', hb', hform⟩ := form_append_blank (a := a) hb x t
  rw [analyze_eq_runs_form, hform, runs_append_cons hb', ← analyze_eq_runs_form,
    ← analyze_eq_runs_form]

theorem analyze_nil : a.analyze [] = [] := analyze_eq_nil_iff.mpr nofun

theorem analyze_eq_flatMap (t : Text) : a.analyze t = (runs isBlank t).flatMap a.analyze := by
  induction t using separator_induction isBlank with
  | whole l h => rw [flatMap_runs_of_free analyze_nil h]
  | cut r b m hr hb ih =>
    rw [analyze_append_blank hb, ih, runs_append_cons hb, List.flatMap_append,
      flatMap_runs_of_free analyze_nil hr]

theorem runs_display {term : Term} (h : ∀ token ∈ term, token ≠ [] ∧ ∀ c ∈ token, isBlank c = false) :
    runs isBlank term.display = term :=
  runs_join (p := isBlank) (by decide) h

theorem analyze_display (t : Text) :
    a.analyze (a.analyze t).display = (a.analyze t).flatMap a.analyze := by
  rw [analyze_eq_flatMap, runs_display fun token h => of_mem_analyze h]

/-- To analyze a displayed term is to analyze the form it was taken from. -/
theorem analyze_display_eq_form (t : Text) :
    a.analyze (a.analyze t).display = a.analyze (a.form t) := by
  rw [analyze_display, analyze_eq_flatMap (a.form t), analyze_eq_runs_form t]

theorem normalizer_display {t : Text} {term : Term} (h : a.normalizer t = .ok term) :
    a.normalizer term.display = .ok (a.analyze (a.form t)) := by
  obtain ⟨rfl, hne⟩ := normalizer_eq_ok_iff.mp h
  refine normalizer_eq_ok_iff.mpr ⟨analyze_display_eq_form t, fun hnil => hne ?_⟩
  rw [analyze_eq_runs_form, runs_eq_nil_iff]
  exact analyze_eq_nil_iff.mp hnil

end Words

section Small

/-- The analyzer that writes small. -/
def small : Analyzer := { lowercase := true }

theorem form_small (t : Text) : small.form t = Unicode.lowercase (compatibilityForm t) := rfl

/-- The second form of a text is the compatibility form of its first. -/
theorem form_form_small (t : Text) : small.form (small.form t) = compatibilityForm (small.form t) :=
  lowercase_compatibilityForm smallParts_of_mem_lowercase

theorem form_settles (t : Text) :
    small.form (small.form (small.form t)) = small.form (small.form t) := by
  rw [form_form_small (small.form t), form_form_small t, compatibilityForm_compatibilityForm]

theorem analyze_token_iff {t : Text} {token : Token} (h : token ∈ small.analyze t) :
    small.analyze token = [token] ↔ compatibilityForm token = token := by
  obtain ⟨hne, hfree⟩ := of_mem_analyze h
  have hparts : ∀ c ∈ token, SmallParts c := by
    rw [analyze_eq_runs_form] at h
    intro c hc
    exact smallParts_of_mem_lowercase c ((mem_runs h).2.1.subset hc)
  rw [analyze_eq_runs_form, form_small, lowercase_compatibilityForm hparts]
  refine ⟨compatibilityForm_of_runs, fun hform => ?_⟩
  rw [hform, runs_eq_singleton hne hfree]

theorem analyze_form_eq_iff (t : Text) :
    small.analyze (small.form t) = small.analyze t ↔
      ∀ token ∈ small.analyze t, compatibilityForm token = token := by
  rw [← analyze_display_eq_form, analyze_display, flatMap_eq_self_iff]
  · exact forall₂_congr fun token htoken => analyze_token_iff htoken
  · intro token htoken hnil
    obtain ⟨hne, hfree⟩ := of_mem_analyze htoken
    obtain ⟨c, hc⟩ := List.exists_mem_of_ne_nil token hne
    exact absurd (analyze_eq_nil_iff.mp hnil c hc) (ne_true_of_eq_false (hfree c hc))

end Small

/-- A term displayed and normalized again: where case is kept it is the same. Where it is written
small it is the same just if its tokens are in compatibility form, and once more changes nothing. -/
theorem analyzed_again (t : Text) :
    (∀ term, normalizer { lowercase := false } t = .ok term →
      normalizer { lowercase := false } term.display = .ok term) ∧
    ∀ term, normalizer { lowercase := true } t = .ok term →
      ∃ again, normalizer { lowercase := true } term.display = .ok again ∧
        (again = term ↔ ∀ token ∈ term, compatibilityForm token = token) ∧
        normalizer { lowercase := true } again.display = .ok again := by
  constructor
  · intro term h
    obtain ⟨hterm, -⟩ := normalizer_eq_ok_iff.mp h
    rw [normalizer_display h, ← hterm, analyze_eq_runs_form, analyze_eq_runs_form]
    exact congrArg (fun form => Except.ok (runs isBlank form)) (compatibilityForm_compatibilityForm t)
  · intro term h
    obtain ⟨rfl, -⟩ := normalizer_eq_ok_iff.mp h
    have hagain := normalizer_display h
    refine ⟨_, hagain, analyze_form_eq_iff t, ?_⟩
    have hform : small.normalizer (small.form t) = .ok (small.analyze (small.form t)) :=
      normalizer_eq_ok_iff.mpr ⟨rfl, (normalizer_eq_ok_iff.mp hagain).2⟩
    have hsettled : small.analyze (small.form (small.form t)) = small.analyze (small.form t) := by
      rw [analyze_eq_runs_form, form_settles, ← analyze_eq_runs_form]
    exact (normalizer_display hform).trans (congrArg Except.ok hsettled)

/-- The mark joins with the small letter, and with the capital it does not. -/
theorem analyzed_again_line_below :
    normalizer { lowercase := false } (Term.display ["H\u0331"]) = .ok ["H\u0331"] ∧
    ∃ again, normalizer { lowercase := true } (Term.display ["h\u0331"]) = .ok again ∧
      (again = ["h\u0331"] ↔ ∀ token ∈ [("h\u0331" : Text)], compatibilityForm token = token) ∧
      normalizer { lowercase := true } again.display = .ok again :=
  ⟨(analyzed_again "H\u0331").1 _ (by decide +kernel),
    (analyzed_again "H\u0331").2 _ (by decide +kernel)⟩

theorem analyzed_again_not_the_same :
    ¬ ∀ (t : Text) (term : Term), normalizer { lowercase := true } t = .ok term →
      normalizer { lowercase := true } term.display = .ok term := by
  intro h
  have hfirst : normalizer { lowercase := true } "H\u0331" = .ok ["h\u0331"] := by decide +kernel
  have hagain : normalizer { lowercase := true } (Term.display ["h\u0331"]) = .ok ["\u1e96"] := by
    decide +kernel
  exact absurd (hagain.symm.trans (h _ _ hfirst)) (by decide)

end Thesaurus.Analyzer
