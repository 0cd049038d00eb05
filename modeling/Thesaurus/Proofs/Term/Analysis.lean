import Thesaurus.Proofs.Text.Runs
import Thesaurus.Proofs.Unicode.Blank
import Thesaurus.Term.Analysis

/-!
# What the analyzer gives

The analyzer has a token for every text that is not all blank, and for no other. Its tokens are not
empty and hold no blanks. Main facts: `exists_normalizer_iff`, `normalizer_eq_error` and
`mem_normalizer`.
-/

set_option autoImplicit false

namespace Thesaurus.Analyzer

open Text

theorem words_eq (t : Text) : t.words = runs isBlank t := by
  rw [words, pieces_eq_splitOnP, runs]

theorem analyze_eq (a : Analyzer) (t : Text) :
    a.analyze t = runs isBlank
      (if a.lowercase then Unicode.lowercase (Unicode.compatibilityForm t)
        else Unicode.compatibilityForm t) := by
  rw [analyze, words_eq]

theorem analyze_eq_nil_iff {a : Analyzer} {t : Text} :
    a.analyze t = [] ↔ ∀ c ∈ t, isBlank c = true := by
  have hform (form : Text) : runs isBlank form = [] ↔ form.all isBlank = true := by
    rw [runs_eq_nil_iff, List.all_eq_true]
  rw [analyze_eq, hform, ← List.all_eq_true]
  split_ifs
  · rw [Unicode.isBlank_lowercase, Unicode.isBlank_compatibilityForm]
  · rw [Unicode.isBlank_compatibilityForm]

theorem normalizer_eq_ok_iff {a : Analyzer} {t : Text} {term : Term} :
    a.normalizer t = .ok term ↔ a.analyze t = term ∧ term ≠ [] := by
  rw [normalizer]
  cases a.analyze t with
  | nil =>
    refine iff_of_false nofun ?_
    rintro ⟨rfl, hne⟩
    exact hne rfl
  | cons token rest =>
    constructor
    · intro h
      rw [← Except.ok.inj h]
      exact ⟨rfl, List.cons_ne_nil token rest⟩
    · rintro ⟨rfl, -⟩
      rfl

theorem exists_normalizer_iff {a : Analyzer} {t : Text} :
    (∃ term, a.normalizer t = .ok term) ↔ ∃ c ∈ t, isBlank c = false := by
  have hnil : (∃ c ∈ t, isBlank c = false) ↔ a.analyze t ≠ [] := by
    rw [ne_eq, analyze_eq_nil_iff]
    simp
  rw [hnil]
  constructor
  · rintro ⟨term, hterm⟩
    obtain ⟨rfl, hne⟩ := normalizer_eq_ok_iff.mp hterm
    exact hne
  · intro hne
    exact ⟨a.analyze t, normalizer_eq_ok_iff.mpr ⟨rfl, hne⟩⟩

theorem normalizer_eq_error {a : Analyzer} {t : Text} {cause : TermError}
    (h : a.normalizer t = .error cause) :
    cause = ⟨t, "analyzed to a zero-length token"⟩ ∧ ∀ c ∈ t, isBlank c = true := by
  rw [normalizer] at h
  cases hterm : a.analyze t with
  | nil =>
    rw [hterm] at h
    exact ⟨(Except.error.inj h).symm, analyze_eq_nil_iff.mp hterm⟩
  | cons token rest =>
    rw [hterm] at h
    exact absurd h nofun

theorem of_mem_analyze {a : Analyzer} {t : Text} {token : Token} (h : token ∈ a.analyze t) :
    token ≠ [] ∧ ∀ c ∈ token, isBlank c = false := by
  rw [analyze_eq] at h
  obtain ⟨hne, -, hfree⟩ := mem_runs h
  exact ⟨hne, hfree⟩

theorem mem_normalizer {a : Analyzer} {t : Text} {term : Term} (h : a.normalizer t = .ok term)
    {token : Token} (htoken : token ∈ term) : token ≠ [] ∧ ∀ c ∈ token, isBlank c = false := by
  obtain ⟨rfl, -⟩ := normalizer_eq_ok_iff.mp h
  exact of_mem_analyze htoken

end Thesaurus.Analyzer
