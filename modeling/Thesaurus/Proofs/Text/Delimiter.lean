import Thesaurus.Proofs.Text.Glyph

/-!
# Delimiters of any length

Whether a delimiter stands at a place of a text is seen from as many characters as it has, so that
what a scan does in a segment depends on the segment and on the delimiter behind it. Main facts:
`delimiter_induction` goes along a text from one delimiter to the next, `splitAt_append_delimiter`
says what splitting does at each, `splitAt_of_mem_splitAt` that segments split no further, and
`splitAt_join` that joining them by the delimiter brings nothing new about.
-/

set_option autoImplicit false

namespace Thesaurus.Text

/-- A scan for a delimiter goes through a text in whole marks, and meets none on its way, when
`behind` follows the text. A backslash can be the last character if nothing follows. -/
inductive Passes (delimiter behind : Text) : Text → Prop where
  | nil : Passes delimiter behind []
  | lone (h : ¬ delimiter <+: ['\\']) (hend : behind = []) : Passes delimiter behind ['\\']
  | escaped {c : Char} {r : Text} (h : ¬ delimiter <+: '\\' :: c :: (r ++ behind))
      (hr : Passes delimiter behind r) : Passes delimiter behind ('\\' :: c :: r)
  | plain {c : Char} {r : Text} (hc : c ≠ '\\') (h : ¬ delimiter <+: c :: (r ++ behind))
      (hr : Passes delimiter behind r) : Passes delimiter behind (c :: r)

section Marks

variable {d r t : Text}

theorem marksFrom_length_append (d x t : Text) : marksFrom d x.length (x ++ t) = marks d t := by
  induction x with
  | nil => rfl
  | cons c x ih => exact ih

theorem marks_delimiter (hd : d ≠ []) (t : Text) :
    marks d (d ++ t) = .delimiter :: marks d t := by
  obtain ⟨c, x, rfl⟩ := List.exists_cons_of_ne_nil hd
  have hbegins : (c :: x).isPrefixOf (c :: (x ++ t)) = true :=
    List.isPrefixOf_iff_prefix.mpr (List.prefix_append (c :: x) t)
  rw [marks, List.cons_append, marksFrom.eq_def]
  simp only [hbegins, if_true]
  exact congrArg (Mark.delimiter :: ·) (marksFrom_length_append (c :: x) x t)

theorem marks_lone (h : ¬ d <+: ['\\']) : marks d ['\\'] = [.plain '\\'] := by
  simp [marks, marksFrom, h]

theorem marks_escaped {c : Char} (h : ¬ d <+: '\\' :: c :: t) :
    marks d ('\\' :: c :: t) = .escaped c :: marks d t := by
  simp [marks, marksFrom, h]

theorem marks_plain {c : Char} (hc : c ≠ '\\') (h : ¬ d <+: c :: t) :
    marks d (c :: t) = .plain c :: marks d t := by
  rw [marks, marksFrom.eq_def]
  simp [h, hc, marks]

/-- The marks of what a scan passes are read off it alone. -/
theorem Passes.exists_marks {behind : Text} (h : Passes d behind r) :
    ∃ ms : List Mark, marks d (r ++ behind) = ms ++ marks d behind ∧
      (∀ m ∈ ms, m.isDelimiter = false) ∧ ms.flatMap Mark.source = r := by
  induction h with
  | nil => exact ⟨[], rfl, by simp, rfl⟩
  | lone h hend =>
    subst hend
    exact ⟨[.plain '\\'], marks_lone h, by simp [Mark.isDelimiter], rfl⟩
  | @escaped c r h _ ih =>
    obtain ⟨ms, hms, hfree, rfl⟩ := ih
    refine ⟨.escaped c :: ms, ?_, List.forall_mem_cons.mpr ⟨rfl, hfree⟩, rfl⟩
    rw [List.cons_append, List.cons_append, marks_escaped h, hms, List.cons_append]
  | @plain c r hc h _ ih =>
    obtain ⟨ms, hms, hfree, rfl⟩ := ih
    refine ⟨.plain c :: ms, ?_, List.forall_mem_cons.mpr ⟨rfl, hfree⟩, rfl⟩
    rw [List.cons_append, marks_plain hc h, hms, List.cons_append]

theorem isEmpty_source {ms : List Mark} (h : ∀ m ∈ ms, m.isDelimiter = false) :
    (ms.flatMap Mark.source).isEmpty = ms.isEmpty := by
  cases ms with
  | nil => rfl
  | cons m ms =>
    have hm := h m List.mem_cons_self
    cases m with
    | delimiter => exact absurd hm (by decide)
    | plain c => rfl
    | escaped c => rfl

theorem splitAt_eq_runs_marks (t d : Text) :
    t.splitAt d = (runs Mark.isDelimiter (marks d t)).map (·.flatMap Mark.source) := by
  rw [splitAt, pieces_eq_splitOnP, List.filter_map, runs]
  congr 1
  apply List.filter_congr
  intro piece hpiece
  exact congrArg (!·) (isEmpty_source (mem_splitOnP hpiece).2)

end Marks

section Locality

variable {d r behind : Text}

/-- What is met in a text alone is met with anything behind it. -/
theorem Passes.alone (h : Passes d behind r) : Passes d [] r := by
  induction h with
  | nil => exact .nil
  | lone h _ => exact .lone h rfl
  | escaped h _ ih =>
    exact .escaped (fun hbegins => h (hbegins.trans (by simp))) ih
  | plain hc h _ ih =>
    exact .plain hc (fun hbegins => h (hbegins.trans (by simp))) ih

/-- A delimiter that begins in front of another ends before that one does. -/
theorem delimiter_before_delimiter {x t : Text} (h : d <+: x ++ (d ++ t)) (u : Text) :
    d <+: x ++ (d ++ u) := by
  have hshort : d <+: x ++ d := by
    refine List.prefix_of_prefix_length_le h ⟨t, by simp⟩ ?_
    simp
  exact hshort.trans ⟨u, by simp⟩

/-- What stands behind a delimiter does not matter in front of it. -/
theorem Passes.of_delimiter {t : Text} (h : Passes d (d ++ t) r) (u : Text) :
    Passes d (d ++ u) r := by
  induction h with
  | nil => exact .nil
  | lone h hend =>
    obtain ⟨rfl, -⟩ := List.append_eq_nil_iff.mp hend
    exact absurd List.nil_prefix h
  | @escaped c r h _ ih =>
    exact .escaped (fun hu => h (delimiter_before_delimiter (x := '\\' :: c :: r) hu t)) ih
  | @plain c r hc h _ ih =>
    exact .plain hc (fun hu => h (delimiter_before_delimiter (x := c :: r) hu t)) ih

/-- A scan comes to the end of a text or to a first delimiter. -/
theorem passes_or_exists_delimiter (d t : Text) :
    Passes d [] t ∨ ∃ r u, t = r ++ (d ++ u) ∧ Passes d (d ++ u) r := by
  have here (t : Text) (h : d <+: t) : ∃ r u, t = r ++ (d ++ u) ∧ Passes d (d ++ u) r := by
    obtain ⟨u, rfl⟩ := h
    exact ⟨[], u, rfl, .nil⟩
  induction t using glyph_induction with
  | nil => exact .inl .nil
  | lone =>
    by_cases h : d <+: ['\\']
    · exact .inr (here _ h)
    · exact .inl (.lone h rfl)
  | escaped c t ih =>
    by_cases h : d <+: '\\' :: c :: t
    · exact .inr (here _ h)
    · rcases ih with ht | ⟨r, u, rfl, hr⟩
      · exact .inl (.escaped (by simpa using h) ht)
      · exact .inr ⟨'\\' :: c :: r, u, rfl, .escaped h hr⟩
  | plain c t hc ih =>
    by_cases h : d <+: c :: t
    · exact .inr (here _ h)
    · rcases ih with ht | ⟨r, u, rfl, hr⟩
      · exact .inl (.plain hc (by simpa using h) ht)
      · exact .inr ⟨c :: r, u, rfl, .plain hc h hr⟩

/-- Induction on the delimiters of a text, from the first one on. -/
theorem delimiter_induction (hd : d ≠ []) {motive : Text → Prop}
    (whole : ∀ r, Passes d [] r → motive r)
    (cut : ∀ r t, Passes d (d ++ t) r → motive t → motive (r ++ (d ++ t))) (t : Text) :
    motive t := by
  induction hlength : t.length using Nat.strongRecOn generalizing t with
  | ind n ih =>
    rcases passes_or_exists_delimiter d t with ht | ⟨r, u, rfl, hr⟩
    · exact whole t ht
    · have hshort : u.length < n := by
        have hpositive := List.length_pos_iff.mpr hd
        rw [← hlength, List.length_append, List.length_append]
        omega
      exact cut r u hr (ih u.length hshort u rfl)

end Locality

section Split

variable {d : Text}

/-- Marks without a delimiter are one segment, unless there are none. -/
theorem map_runs_of_free {ms : List Mark} (h : ∀ m ∈ ms, m.isDelimiter = false) :
    (runs Mark.isDelimiter ms).map (·.flatMap Mark.source) =
      [ms.flatMap Mark.source].filter (!·.isEmpty) := by
  rw [runs, List.splitOnP_eq_singleton h, List.filter_singleton, List.filter_singleton,
    isEmpty_source h]
  cases ms.isEmpty <;> rfl

theorem splitAt_of_passes {r : Text} (h : Passes d [] r) :
    r.splitAt d = [r].filter (!·.isEmpty) := by
  obtain ⟨ms, hms, hfree, rfl⟩ := h.exists_marks
  have hmarks : marks d (ms.flatMap Mark.source) = ms := by simpa [marks, marksFrom] using hms
  rw [splitAt_eq_runs_marks, hmarks, map_runs_of_free hfree]

/-- A delimiter ends the segment in front of it. -/
theorem splitAt_append_delimiter (hd : d ≠ []) {r t : Text} (h : Passes d (d ++ t) r) :
    (r ++ (d ++ t)).splitAt d = [r].filter (!·.isEmpty) ++ t.splitAt d := by
  obtain ⟨ms, hms, hfree, rfl⟩ := h.exists_marks
  rw [splitAt_eq_runs_marks, hms, marks_delimiter hd, runs_append_cons rfl, List.map_append,
    map_runs_of_free hfree, ← splitAt_eq_runs_marks]

/-- Every segment is passed by a scan of its own. -/
theorem of_mem_splitAt (hd : d ≠ []) {t segment : Text} (h : segment ∈ t.splitAt d) :
    segment ≠ [] ∧ segment <:+: t ∧ Passes d [] segment := by
  have hwhole (r : Text) (hr : Passes d [] r) (hmem : segment ∈ [r].filter (!·.isEmpty)) :
      segment ≠ [] ∧ segment = r ∧ Passes d [] segment := by
    obtain ⟨hsegment, hne⟩ := List.mem_filter.mp hmem
    rw [List.mem_singleton.mp hsegment] at hne ⊢
    exact ⟨by simpa using hne, rfl, hr⟩
  induction t using delimiter_induction hd with
  | whole r hr =>
    obtain ⟨hne, rfl, hsegment⟩ := hwhole r hr (splitAt_of_passes hr ▸ h)
    exact ⟨hne, List.infix_refl segment, hsegment⟩
  | cut r t hr ih =>
    rw [splitAt_append_delimiter hd hr, List.mem_append] at h
    rcases h with h | h
    · obtain ⟨hne, rfl, hsegment⟩ := hwhole r hr.alone h
      exact ⟨hne, (List.prefix_append segment _).isInfix, hsegment⟩
    · obtain ⟨hne, hwithin, hsegment⟩ := ih h
      exact ⟨hne, hwithin.trans ((List.suffix_append d t).trans (List.suffix_append r _)).isInfix,
        hsegment⟩

theorem splitAt_of_mem_splitAt (hd : d ≠ []) {t segment : Text} (h : segment ∈ t.splitAt d) :
    segment.splitAt d = [segment] := by
  obtain ⟨hne, -, hsegment⟩ := of_mem_splitAt hd h
  rw [splitAt_of_passes hsegment, List.filter_eq_self]
  simpa using hne

/-- No delimiter comes about across the places where segments are joined. -/
theorem splitAt_join (hd : d ≠ []) (t : Text) : (join d (t.splitAt d)).splitAt d = t.splitAt d := by
  induction t using delimiter_induction hd with
  | whole r hr =>
    rw [splitAt_of_passes hr]
    cases r with
    | nil => rfl
    | cons c r => exact splitAt_of_passes hr
  | cut r t hr ih =>
    rw [splitAt_append_delimiter hd hr]
    cases r with
    | nil => exact ih
    | cons c r =>
      change (join d ((c :: r) :: t.splitAt d)).splitAt d = (c :: r) :: t.splitAt d
      cases hrest : t.splitAt d with
      | nil => exact splitAt_of_passes hr.alone
      | cons segment rest =>
        rw [hrest] at ih
        rw [join, List.append_assoc, splitAt_append_delimiter hd (hr.of_delimiter _), ih]
        rfl

end Split

end Thesaurus.Text
