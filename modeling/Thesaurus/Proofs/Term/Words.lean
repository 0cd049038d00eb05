import Thesaurus.Proofs.Term.Again

/-!
# Terms word by word

An analyzer takes each word of a term as if it stood alone: no mark joins and no sigma looks across
the blank between two words. Main fact: `tokens_word_by_word`.
-/

set_option autoImplicit false

namespace Thesaurus.Analyzer

open Text

variable {a : Analyzer}

/-- The tokens that a text is normalized to, none if it is refused. -/
def tokens (a : Analyzer) (t : Text) : Term := (a.normalizer t).toOption.getD []

theorem tokens_eq (t : Text) : a.tokens t = a.analyze t := by
  rw [tokens, normalizer]
  cases a.analyze t <;> rfl

/-- The tokens of two texts with a space between them are those of either; and so those of a text
are those of its words. A token is not empty and holds no blank. -/
theorem tokens_word_by_word (a : Analyzer) (x y : Text) :
    a.tokens (x ++ ' ' :: y) = a.tokens x ++ a.tokens y ∧
    a.tokens x = (words x).flatMap a.tokens ∧
    ∀ token ∈ a.tokens x, token ≠ [] ∧ ∀ c ∈ token, isBlank c = false := by
  have hspace : isBlank ' ' = true := by decide
  refine ⟨?_, ?_, fun token htoken => ?_⟩
  · rw [tokens_eq, tokens_eq, tokens_eq, analyze_append_blank hspace]
  · rw [tokens_eq, analyze_eq_flatMap, words_eq]
    exact congrArg (List.flatMap · _) (funext fun word => (tokens_eq word).symm)
  · rw [tokens_eq] at htoken
    exact of_mem_analyze htoken

/-- The first text ends in a sign whose form has a space of its own, and the second begins with a
mark, in front of a sigma that would be a final one if it looked across the space. -/
theorem tokens_word_by_word_marks :
    let x : Text := "ΟΔΟΣ¨"
    let y : Text := "\u0301Σ"
    ({} : Analyzer).tokens (x ++ ' ' :: y) = ["οδος", "\u0308", "\u0301σ"] ∧
    ∀ token ∈ ({} : Analyzer).tokens x, token ≠ [] ∧ ∀ c ∈ token, isBlank c = false := by
  intro x y
  have hx : ({} : Analyzer).tokens x = ["οδος", "\u0308"] := by decide +kernel
  have hy : ({} : Analyzer).tokens y = ["\u0301σ"] := by decide +kernel
  obtain ⟨hjoined, -, hmem⟩ := tokens_word_by_word {} x y
  rw [hx, hy] at hjoined
  exact ⟨hjoined, hmem⟩

end Thesaurus.Analyzer
