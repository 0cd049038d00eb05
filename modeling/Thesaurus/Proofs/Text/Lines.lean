import Mathlib.Data.List.Basic
import Mathlib.Data.List.DropRight
import Thesaurus.Proofs.Text.Runs
import Thesaurus.Text.Line

/-!
# Lines that hold something

A carriage return with the newline behind it is one break, and empty lines come and go with the way
in which breaks follow one another. The lines that hold something do not: they are the runs between
breaks (`filter_lines`), and no line holds a break.
-/

set_option autoImplicit false

namespace Thesaurus.Text

/-- There is no line break in a text. -/
def OneLine (t : Text) : Prop := ∀ c ∈ t, isLineBreak c = false

instance (t : Text) : Decidable (OneLine t) :=
  List.decidableBAll _ t

theorem oneLine_append {t u : Text} : OneLine (t ++ u) ↔ OneLine t ∧ OneLine u :=
  List.forall_mem_append

theorem oneLine_cons {c : Char} {t : Text} :
    OneLine (c :: t) ↔ isLineBreak c = false ∧ OneLine t :=
  List.forall_mem_cons

theorem oneLine_replicate {c : Char} (hc : isLineBreak c = false) (n : Nat) :
    OneLine (List.replicate n c) := by
  intro d hd
  rw [List.eq_of_mem_replicate hd]
  exact hc

theorem lines_cons_of_cons {c : Char} (hc : isLineBreak c = false) {t line : Text}
    {rest : List Text} (h : lines t = line :: rest) : lines (c :: t) = (c :: line) :: rest := by
  have hcr : c ≠ '\r' := by
    rintro rfl
    exact absurd hc (by decide)
  rw [lines.eq_3 c t fun _ heq => absurd heq hcr, if_neg (by simp [hc]), h]

theorem lines_append_of_cons {r : Text} (hr : OneLine r) {t line : Text} {rest : List Text}
    (h : lines t = line :: rest) : lines (r ++ t) = (r ++ line) :: rest := by
  induction r with
  | nil => exact h
  | cons c r ih =>
    obtain ⟨hc, hr⟩ := oneLine_cons.mp hr
    exact lines_cons_of_cons hc (ih hr)

theorem lines_of_oneLine {r : Text} (hne : r ≠ []) (hr : OneLine r) : lines r = [r] := by
  induction r with
  | nil => exact absurd rfl hne
  | cons c r ih =>
    obtain ⟨hc, hr⟩ := oneLine_cons.mp hr
    cases r with
    | nil =>
      rw [lines.eq_3 c [] (by simp), if_neg (by simp [hc])]
      rfl
    | cons d r => exact lines_cons_of_cons hc (ih (by simp) hr)

/-- A break ends a line, and a newline directly behind a carriage return belongs to it. -/
theorem lines_append_break {r : Text} (hr : OneLine r) {x : Char} (hx : isLineBreak x = true)
    (t : Text) :
    lines (r ++ x :: t) = r :: lines t ∨
      ∃ u, t = '\n' :: u ∧ lines (r ++ x :: t) = r :: lines u := by
  by_cases h : ∃ u, x = '\r' ∧ t = '\n' :: u
  · obtain ⟨u, rfl, rfl⟩ := h
    right
    exact ⟨u, rfl, by simpa using lines_append_of_cons hr (lines.eq_2 u)⟩
  · left
    have hcons : lines (x :: t) = [] :: lines t := by
      rw [lines.eq_3 x t fun u hcr hnl => h ⟨u, hcr, hnl⟩, if_pos hx]
    simpa using lines_append_of_cons hr hcons

theorem lines_append_newline {r : Text} (hr : OneLine r) (t : Text) :
    lines (r ++ '\n' :: t) = r :: lines t := by
  have hnewline : lines ('\n' :: t) = [] :: lines t := by
    rw [lines.eq_3 '\n' t (by simp), if_pos (by decide)]
  simpa using lines_append_of_cons hr hnewline

/-- Lines that hold something are had back from the text that they are joined to. -/
theorem lines_join {ls : List Text} (h : ∀ line ∈ ls, line ≠ [] ∧ OneLine line) :
    lines (join ['\n'] ls) = ls := by
  induction ls with
  | nil => rfl
  | cons line rest ih =>
    obtain ⟨⟨hne, hline⟩, hrest⟩ := List.forall_mem_cons.mp h
    cases rest with
    | nil => exact lines_of_oneLine hne hline
    | cons next rest =>
      rw [join, List.append_assoc, List.singleton_append, lines_append_newline hline, ih hrest]

theorem filter_lines (t : Text) : (lines t).filter (!·.isEmpty) = runs isLineBreak t := by
  induction t using separator_induction isLineBreak with
  | whole r hr =>
    cases r with
    | nil => rfl
    | cons c r =>
      rw [lines_of_oneLine (by simp) hr, runs_eq_singleton (by simp) hr]
      rfl
  | cut r x t hr hx ih =>
    have hruns : runs isLineBreak (r ++ x :: t) =
        [r].filter (!·.isEmpty) ++ runs isLineBreak t := by
      rw [runs_append_cons hx, runs, List.splitOnP_eq_singleton hr]
    rw [hruns, ← ih]
    rcases lines_append_break hr hx t with h | ⟨u, rfl, h⟩
    · rw [h, ← List.singleton_append, List.filter_append]
    -- The newline of a joint break cuts off an empty run, which counts for nothing.
    · have hnewline : (lines ('\n' :: u)).filter (!·.isEmpty) = (lines u).filter (!·.isEmpty) := by
        rw [← List.nil_append ('\n' :: u), lines_append_newline (by simp [OneLine])]
        rfl
      rw [h, hnewline, ← List.singleton_append, List.filter_append]

theorem oneLine_of_mem_lines {t line : Text} (h : line ∈ lines t) : OneLine line := by
  intro c hc
  have hrun : line ∈ runs isLineBreak t := by
    rw [← filter_lines]
    exact List.mem_filter.mpr ⟨h, by simpa using List.ne_nil_of_mem hc⟩
  exact (mem_runs hrun).2.2 c hc

theorem dropLineEnd_of_oneLine {line : Text} (h : OneLine line) : line.dropLineEnd = line := by
  apply List.rdropWhile_eq_self_iff.mpr
  intro hne hend
  have hlast : isLineBreak (line.getLast hne) = false := h _ (List.getLast_mem hne)
  rw [Bool.or_eq_true, beq_iff_eq, beq_iff_eq] at hend
  rcases hend with heq | heq
  · rw [heq] at hlast
    exact absurd hlast (by decide)
  · rw [heq] at hlast
    exact absurd hlast (by decide)

end Thesaurus.Text
