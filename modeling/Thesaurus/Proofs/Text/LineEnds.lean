import Thesaurus.Proofs.Text.Lines

/-!
# Line ends of files

In most texts a line ends in a newline, with or without a carriage return in front of it, and
nowhere else. On those it makes no difference whether a text is cut at all breaks, cut at newlines
and stripped of what is left of the line ends, or cut into lines that keep their ends and are
stripped then. Main facts: `lineEnd_induction` goes along the lines of such a text,
`streamLines_eq_lines` and `map_dropLineEnd_linesWithEnds` compare the three.
-/

set_option autoImplicit false

namespace Thesaurus.Text

/-- Every carriage return has a newline directly behind it, and there are no breaks but these. -/
def PlainBreaks (t : Text) : Prop :=
  (∀ i < t.length, t[i]? = some '\r' → t[i + 1]? = some '\n') ∧
    ∀ c ∈ t, isLineBreak c = true → c = '\r' ∨ c = '\n'

instance (t : Text) : Decidable (PlainBreaks t) :=
  have : Decidable (∀ c ∈ t, isLineBreak c = true → c = '\r' ∨ c = '\n') := List.decidableBAll _ t
  inferInstanceAs (Decidable (_ ∧ _))

/-- The lines with the breaks that end them. -/
def linesWithEnds : Text → List Text
  | [] => []
  | '\r' :: '\n' :: t => ['\r', '\n'] :: linesWithEnds t
  | c :: t =>
    if isLineBreak c then [c] :: linesWithEnds t
    else
      match linesWithEnds t with
      | [] => [[c]]
      | line :: rest => (c :: line) :: rest

/-- The line ends of files. -/
def IsLineEnd (e : Text) : Prop := e = ['\n'] ∨ e = ['\r', '\n']

theorem PlainBreaks.of_append {t u : Text} (h : PlainBreaks (t ++ u)) : PlainBreaks u := by
  have hget (i : Nat) : (t ++ u)[t.length + i]? = u[i]? := by
    rw [List.getElem?_append_right (Nat.le_add_right _ _), Nat.add_sub_cancel_left]
  obtain ⟨hreturn, hbreak⟩ := h
  refine ⟨fun i hi hcr => ?_, fun c hc => hbreak c (List.mem_append_right t hc)⟩
  rw [← hget (i + 1)]
  exact hreturn (t.length + i) (by simpa using hi) ((hget i).trans hcr)

/-- Induction on a text whose lines end like those of files, from the first line on. -/
theorem lineEnd_induction {motive : Text → Prop} (whole : ∀ r, OneLine r → motive r)
    (cut : ∀ r e t, OneLine r → IsLineEnd e → motive t → motive (r ++ (e ++ t))) {t : Text}
    (h : PlainBreaks t) : motive t := by
  -- What comes next behind a carriage return is what stands behind the newline of the same end.
  suffices hboth : motive t ∧ ∀ u, t = '\n' :: u → motive u from hboth.1
  induction t using separator_induction isLineBreak with
  | whole r hr =>
    refine ⟨whole r hr, fun u hu => ?_⟩
    have hnewline := hr '\n' (hu ▸ List.mem_cons_self)
    exact absurd hnewline (by decide)
  | cut r x m hr hx ih =>
    obtain ⟨hm, hbehind⟩ := ih (h.of_append.of_append (t := [x]))
    constructor
    · rcases h.2 x (by simp) hx with rfl | rfl
      · have hnext := h.1 r.length (by simp) (by simp)
        rw [List.getElem?_append_right (Nat.le_add_right _ _), Nat.add_sub_cancel_left,
          List.getElem?_cons_succ, ← List.head?_eq_getElem?] at hnext
        obtain ⟨u, rfl⟩ := List.head?_eq_some_iff.mp hnext
        exact cut r ['\r', '\n'] u hr (.inr rfl) (hbehind u rfl)
      · exact cut r ['\n'] m hr (.inl rfl) hm
    · intro u hu
      cases r with
      | nil =>
        obtain ⟨-, rfl⟩ := List.cons.inj hu
        exact hm
      | cons c r =>
        have hnewline := hr '\n' ((List.cons.inj hu).1 ▸ List.mem_cons_self)
        exact absurd hnewline (by decide)

/-- What a line end is made of goes when line ends are dropped, and nothing else of a line does. -/
theorem dropLineEnd_append {r e : Text} (hr : OneLine r) (he : ∀ c ∈ e, c = '\n' ∨ c = '\r') :
    dropLineEnd (r ++ e) = r := by
  have hend : ∀ c ∈ e.reverse, (c == '\n' || c == '\r') = true := by simpa using he
  rw [dropLineEnd, List.reverse_append, List.dropWhile_append_of_pos hend]
  exact dropLineEnd_of_oneLine hr

theorem IsLineEnd.mem {e : Text} (he : IsLineEnd e) : ∀ c ∈ e, c = '\n' ∨ c = '\r' := by
  rcases he with rfl | rfl <;> simp

theorem lines_append_lineEnd {r e : Text} (hr : OneLine r) (he : IsLineEnd e) (t : Text) :
    lines (r ++ (e ++ t)) = r :: lines t := by
  rcases he with rfl | rfl
  · exact lines_append_newline hr t
  · simpa using lines_append_of_cons hr (lines.eq_2 t)

theorem linesWithEnds_cons_of_cons {c : Char} (hc : isLineBreak c = false) {t line : Text}
    {rest : List Text} (h : linesWithEnds t = line :: rest) :
    linesWithEnds (c :: t) = (c :: line) :: rest := by
  have hcr : c ≠ '\r' := by
    rintro rfl
    exact absurd hc (by decide)
  rw [linesWithEnds.eq_3 c t fun _ heq => absurd heq hcr, if_neg (by simp [hc]), h]

theorem linesWithEnds_of_oneLine {r : Text} (hne : r ≠ []) (hr : OneLine r) :
    linesWithEnds r = [r] := by
  induction r with
  | nil => exact absurd rfl hne
  | cons c r ih =>
    obtain ⟨hc, hr⟩ := oneLine_cons.mp hr
    cases r with
    | nil =>
      rw [linesWithEnds.eq_3 c [] (by simp), if_neg (by simp [hc])]
      rfl
    | cons d r => exact linesWithEnds_cons_of_cons hc (ih (by simp) hr)

theorem linesWithEnds_append_lineEnd {r e : Text} (hr : OneLine r) (he : IsLineEnd e) (t : Text) :
    linesWithEnds (r ++ (e ++ t)) = (r ++ e) :: linesWithEnds t := by
  induction r with
  | nil =>
    rcases he with rfl | rfl
    · exact (linesWithEnds.eq_3 '\n' t (by simp)).trans (if_pos (by decide))
    · exact linesWithEnds.eq_2 t
  | cons c r ih =>
    obtain ⟨hc, hr⟩ := oneLine_cons.mp hr
    exact linesWithEnds_cons_of_cons hc (ih hr)

/-- Nothing of a text is lost. -/
theorem flatten_linesWithEnds (t : Text) : (linesWithEnds t).flatten = t := by
  induction t using linesWithEnds.induct with
  | case1 => rfl
  | case2 t ih => rw [linesWithEnds.eq_2, List.flatten_cons, ih]; rfl
  | case3 c t hcr hc ih => rw [linesWithEnds.eq_3 c t hcr, if_pos hc, List.flatten_cons, ih]; rfl
  | case4 c t hcr hc hnil ih =>
    rw [linesWithEnds.eq_3 c t hcr, if_neg hc, hnil, ← ih, hnil]
    rfl
  | case5 c t hcr hc line rest hcons ih =>
    rw [linesWithEnds.eq_3 c t hcr, if_neg hc, hcons]
    rw [hcons, List.flatten_cons] at ih
    rw [List.flatten_cons, List.cons_append, ih]

theorem OneLine.ne_newline {r : Text} (hr : OneLine r) : ∀ c ∈ r, (c == '\n') = false := by
  intro c hc
  rw [beq_eq_false_iff_ne]
  rintro rfl
  exact absurd (hr _ hc) (by decide)

/-- A stream cuts at the first newline, whatever stands in front of it. -/
theorem streamLines_append_newline {piece : Text} (h : ∀ c ∈ piece, (c == '\n') = false)
    (t : Text) : streamLines (piece ++ '\n' :: t) = dropLineEnd piece :: streamLines t := by
  have hpieces : pieces (· == '\n') (piece ++ '\n' :: t) = piece :: pieces (· == '\n') t := by
    rw [pieces_eq_splitOnP, pieces_eq_splitOnP]
    exact List.splitOnP_append_cons_of_forall_mem h '\n' (by decide) t
  obtain ⟨first, rest, hrest⟩ : ∃ first rest, pieces (· == '\n') t = first :: rest := by
    rw [pieces_eq_splitOnP]
    exact List.exists_cons_of_ne_nil (List.splitOnP_ne_nil _ t)
  rw [streamLines, streamLines, hpieces, hrest, List.getLast?_cons_cons, List.dropLast_cons_cons]
  split_ifs <;> rfl

theorem streamLines_of_oneLine {r : Text} (hr : OneLine r) : streamLines r = lines r := by
  rw [streamLines, pieces_eq_splitOnP, List.splitOnP_eq_singleton hr.ne_newline]
  cases r with
  | nil => rfl
  | cons c r =>
    rw [lines_of_oneLine (by simp) hr]
    exact congrArg ([·]) (dropLineEnd_of_oneLine hr)

theorem streamLines_append_lineEnd {r e : Text} (hr : OneLine r) (he : IsLineEnd e) (t : Text) :
    streamLines (r ++ (e ++ t)) = r :: streamLines t := by
  rcases he with rfl | rfl
  · rw [List.singleton_append, streamLines_append_newline hr.ne_newline, dropLineEnd_of_oneLine hr]
  · have hreturn : ∀ c ∈ r ++ ['\r'], (c == '\n') = false := by
      simpa [or_imp, forall_and] using hr.ne_newline
    have hdrop : dropLineEnd (r ++ ['\r']) = r := dropLineEnd_append hr (by simp)
    have hjoint : r ++ (['\r', '\n'] ++ t) = r ++ ['\r'] ++ '\n' :: t := by simp
    rw [hjoint, streamLines_append_newline hreturn, hdrop]

theorem streamLines_eq_lines {t : Text} (h : PlainBreaks t) : streamLines t = lines t := by
  refine lineEnd_induction (motive := fun t => streamLines t = lines t) ?_ ?_ h
  · intro r hr
    exact streamLines_of_oneLine hr
  · intro r e t hr he ih
    rw [streamLines_append_lineEnd hr he, lines_append_lineEnd hr he, ih]

theorem map_dropLineEnd_linesWithEnds {t : Text} (h : PlainBreaks t) :
    (linesWithEnds t).map dropLineEnd = lines t := by
  refine lineEnd_induction (motive := fun t => (linesWithEnds t).map dropLineEnd = lines t) ?_ ?_ h
  · intro r hr
    cases r with
    | nil => rfl
    | cons c r =>
      rw [linesWithEnds_of_oneLine (by simp) hr, lines_of_oneLine (by simp) hr, List.map_singleton,
        dropLineEnd_of_oneLine hr]
  · intro r e t hr he ih
    rw [linesWithEnds_append_lineEnd hr he, lines_append_lineEnd hr he, List.map_cons, ih,
      dropLineEnd_append hr he.mem]

end Thesaurus.Text
