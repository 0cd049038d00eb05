import Thesaurus.Graph.Wide
import Thesaurus.Proofs.Term.Again
import Thesaurus.Proofs.Text.Wide
import Thesaurus.Proofs.Unicode.Private

/-!
# Terms of wide texts

A surrogate is nothing to an analyzer: it is no blank, has no case and no parts, and nothing joins
or looks past it. So an analyzer brings what stands between two surrogates into its form as if it
stood alone. Main fact: that is what comes of a text in its shelter (`unshelter_analyze_shelter`).
-/

set_option autoImplicit false

namespace Thesaurus

open Text Unicode

namespace WideText

/-- Applies `f` to each stretch of characters between surrogates, `read` being the beginning of the
first one. -/
def mapStretches (f : Text → Text) (read : Text) : WideText → WideText
  | [] => Text.wide (f read)
  | .char c :: t => mapStretches f (read ++ [c]) t
  | .surrogate n :: t => Text.wide (f read) ++ .surrogate n :: mapStretches f [] t

def isBlank : CodePoint → Bool
  | .char c => Text.isBlank c
  | .surrogate _ => false

theorem isBlank_of_private {c : Char} (hc : ¬ Ordinary c) : Text.isBlank c = false := by
  have hall : blanks.all (fun b => decide (Ordinary b)) = true := by decide
  by_contra hblank
  have hmem := List.contains_iff_mem.mp (Bool.of_not_eq_false hblank)
  exact hc (of_decide_eq_true (List.all_eq_true.mp hall c hmem))

theorem private_mark : ¬ Ordinary CodePoint.mark := by decide

theorem private_shelter (n : Fin 0x800) : ¬ Ordinary (CodePoint.shelter n) := by
  have hvalid : (0x100000 + n.val).isValidChar := .inr (by omega)
  rw [Ordinary, CodePoint.shelter, toNat_ofNat hvalid, privateStart]
  omega

theorem shelter_ne_nil {t : WideText} (h : t ≠ []) : shelter t ≠ [] := by
  intro hnil
  rw [← unshelter_shelter t, hnil] at h
  exact h rfl

theorem isBlank_of_mem_shelter {t : WideText} (h : ∀ point ∈ t, isBlank point = false) :
    ∀ c ∈ shelter t, Text.isBlank c = false := by
  intro c hc
  obtain ⟨point, hpoint, hc⟩ := List.mem_flatMap.mp hc
  cases point with
  | surrogate n =>
    rcases List.mem_pair.mp hc with rfl | rfl
    · exact isBlank_of_private private_mark
    · exact isBlank_of_private (private_shelter n)
  | char d =>
    have hd : c = d := by
      dsimp only at hc
      split_ifs at hc <;> simpa using hc
    exact hd ▸ h _ hpoint

theorem runs_shelter_of_free {t : WideText} (h : ∀ point ∈ t, isBlank point = false) :
    runs Text.isBlank (shelter t) = (runs isBlank t).map shelter := by
  by_cases hne : t = []
  · subst hne
    rfl
  · rw [runs_eq_singleton (shelter_ne_nil hne) (isBlank_of_mem_shelter h),
      runs_eq_singleton hne h, List.map_singleton]

/-- The words of a text are sheltered one by one. -/
theorem runs_shelter (t : WideText) :
    runs Text.isBlank (shelter t) = (runs isBlank t).map shelter := by
  induction t using separator_induction isBlank with
  | whole l h => exact runs_shelter_of_free h
  | cut r b m hr hb ih =>
    cases b with
    | surrogate n => cases hb
    | char c =>
      have hblank : Text.isBlank c = true := hb
      have hc : c ≠ CodePoint.mark := by
        rintro rfl
        exact absurd hblank (ne_true_of_eq_false (isBlank_of_private private_mark))
      rw [shelter_append, shelter_char hc, runs_append_cons hblank, runs_append_cons hb,
        List.map_append, ih, runs_shelter_of_free hr]

end WideText

namespace Analyzer

variable (a : Analyzer)

theorem form_append_private {c : Char} (hc : ¬ Ordinary c) (x t : Text) :
    a.form (x ++ c :: t) = a.form x ++ c :: a.form t := by
  have hform := compatibilityForm_append_cons (solitary_of_private hc) (atomic_of_private hc)
  simp only [form, hform]
  split_ifs
  · rw [lowercase_append_caseless (caseless_of_private hc)]
  · rfl

theorem mem_of_private_mem_form {c : Char} (hc : ¬ Ordinary c) {t : Text} (h : c ∈ a.form t) :
    c ∈ t := by
  rw [form] at h
  split_ifs at h
  · exact mem_of_private_mem_compatibilityForm hc (mem_of_private_mem_lowercase hc h)
  · exact mem_of_private_mem_compatibilityForm hc h

theorem form_append_pair {c d : Char} (hc : ¬ Ordinary c) (hd : ¬ Ordinary d) (x t : Text) :
    a.form (x ++ c :: d :: t) = a.form x ++ c :: d :: a.form t := by
  have hnil : a.form (d :: t) = a.form [] ++ d :: a.form t := a.form_append_private hd [] t
  have hempty : a.form [] = [] := by
    rw [form]
    split_ifs <;> rfl
  rw [a.form_append_private hc, hnil, hempty, List.nil_append]

theorem form_shelter_wide (x : Text) :
    a.form (Text.wide x).shelter = (Text.wide (a.form x)).shelter := by
  have hfree {l : Text} (h : ∀ c ∈ l, (c == CodePoint.mark) = false) :
      a.form (Text.wide l).shelter = (Text.wide (a.form l)).shelter := by
    have hl : CodePoint.mark ∉ l := fun hmem => by simpa using h _ hmem
    rw [WideText.shelter_wide hl, WideText.shelter_wide]
    exact fun hmem => hl (a.mem_of_private_mem_form WideText.private_mark hmem)
  induction x using separator_induction (· == CodePoint.mark) with
  | whole l h => exact hfree h
  | cut r b m hr hb ih =>
    obtain rfl := beq_iff_eq.mp hb
    have hwide (y z : Text) : (Text.wide (y ++ CodePoint.mark :: z)).shelter =
        (Text.wide y).shelter ++ CodePoint.mark :: CodePoint.mark :: (Text.wide z).shelter := by
      rw [Text.wide_append, WideText.shelter_append]
      rfl
    rw [hwide, a.form_append_pair WideText.private_mark WideText.private_mark, hfree hr, ih,
      a.form_append_private WideText.private_mark, hwide]

/-- The form of a text in its shelter is what comes of the stretches between its surrogates. -/
theorem form_shelter (x : Text) (t : WideText) :
    a.form (Text.wide x ++ t).shelter = (t.mapStretches a.form x).shelter := by
  induction t generalizing x with
  | nil => rw [List.append_nil, form_shelter_wide, WideText.mapStretches]
  | cons point t ih =>
    cases point with
    | char c =>
      have hx : Text.wide x ++ .char c :: t = Text.wide (x ++ [c]) ++ t := by
        rw [Text.wide_append, List.append_assoc]
        rfl
      rw [hx, ih, WideText.mapStretches]
    | surrogate n =>
      have hpair (y : Text) (u : WideText) : (Text.wide y ++ .surrogate n :: u).shelter =
          (Text.wide y).shelter ++ CodePoint.mark :: CodePoint.shelter n :: u.shelter := by
        rw [WideText.shelter_append]
        rfl
      have hrest : a.form (WideText.shelter t) = (WideText.mapStretches a.form [] t).shelter :=
        ih []
      rw [hpair, a.form_append_pair WideText.private_mark (WideText.private_shelter n),
        form_shelter_wide, hrest, WideText.mapStretches, hpair]

/-- The tokens that an analyzer makes of a wide text. -/
def analyzeWide (t : WideText) : WideTerm :=
  runs WideText.isBlank (t.mapStretches a.form [])

theorem unshelter_analyze_shelter (t : WideText) :
    (a.analyze t.shelter).map WideText.unshelter = a.analyzeWide t := by
  rw [analyze_eq_runs_form, analyzeWide]
  have hform : a.form t.shelter = (t.mapStretches a.form []).shelter := a.form_shelter [] t
  rw [hform, WideText.runs_shelter, List.map_map, List.map_congr_left, List.map_id]
  exact fun token _ => WideText.unshelter_shelter token

end Analyzer

end Thesaurus
