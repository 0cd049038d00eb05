import Thesaurus.Text.Basic

/-!
# Runs

The runs of a list are the stretches between its separators, empty ones left out. Segments, words
and lines that hold something are all runs. Main facts: `pieces_eq_splitOnP` connects the pieces
of a text with the library's splitting, and `runs_append_cons` cuts a list at one separator.
-/

set_option autoImplicit false

namespace Thesaurus.Text

variable {α β : Type} {p : α → Bool}

theorem pieces_eq_splitOnP (p : α → Bool) (l : List α) : pieces p l = l.splitOnP p := by
  induction l with
  | nil => rfl
  | cons x l ih =>
    rw [pieces, List.splitOnP_cons_eq_if_modifyHead, ih]
    obtain ⟨piece, rest, h⟩ := List.exists_cons_of_ne_nil (List.splitOnP_ne_nil p l)
    rw [h]
    rfl

/-- The stretches of a list between the elements that satisfy `p`, empty ones left out. -/
def runs (p : α → Bool) (l : List α) : List (List α) :=
  (l.splitOnP p).filter (!·.isEmpty)

@[simp] theorem runs_nil (p : α → Bool) : runs p [] = [] := rfl

/-- Everything about runs follows from this equation and the one for a list without separators. -/
theorem runs_append_cons {x : α} (hx : p x = true) (l m : List α) :
    runs p (l ++ x :: m) = runs p l ++ runs p m := by
  rw [runs, List.splitOnP_append_cons l m hx, List.filter_append]
  rfl

theorem runs_cons {x : α} (hx : p x = true) (l : List α) : runs p (x :: l) = runs p l := by
  simpa using runs_append_cons hx [] l

theorem runs_eq_singleton {l : List α} (hne : l ≠ []) (h : ∀ x ∈ l, p x = false) :
    runs p l = [l] := by
  rw [runs, List.splitOnP_eq_singleton h]
  simp [hne]

theorem flatMap_runs_of_free {f : List α → List β} (hf : f [] = []) {r : List α}
    (hr : ∀ x ∈ r, p x = false) : (runs p r).flatMap f = f r := by
  by_cases hne : r = []
  · rw [hne, hf, runs_nil, List.flatMap_nil]
  · rw [runs_eq_singleton hne hr, List.flatMap_singleton]

theorem runs_replicate_append {x : α} (hx : p x = true) (n : Nat) (l : List α) :
    runs p (List.replicate n x ++ l) = runs p l := by
  induction n with
  | zero => rfl
  | succ n ih =>
    rw [List.replicate_succ, List.cons_append, runs_cons hx]
    exact ih

theorem runs_replicate {x : α} (hx : p x = true) (n : Nat) : runs p (List.replicate n x) = [] := by
  rw [← List.append_nil (List.replicate n x), runs_replicate_append hx]
  rfl

theorem runs_append_replicate {r : List α} (hne : r ≠ []) (hr : ∀ y ∈ r, p y = false) {x : α}
    (hx : p x = true) (n : Nat) : runs p (r ++ List.replicate n x) = [r] := by
  cases n with
  | zero => simpa using runs_eq_singleton hne hr
  | succ n =>
    rw [List.replicate_succ, runs_append_cons hx, runs_eq_singleton hne hr, runs_replicate hx]
    rfl

/-- Induction on the separators of a list, from the first one on. -/
theorem separator_induction (p : α → Bool) {motive : List α → Prop}
    (whole : ∀ l, (∀ x ∈ l, p x = false) → motive l)
    (cut : ∀ r x m, (∀ y ∈ r, p y = false) → p x = true → motive m → motive (r ++ x :: m))
    (l : List α) : motive l := by
  suffices h : ∀ r, (∀ y ∈ r, p y = false) → motive (r ++ l) by simpa using h [] (by simp)
  induction l with
  | nil => simpa using whole
  | cons x l ih =>
    intro r hr
    cases hx : p x with
    | true => exact cut r x l hr hx (by simpa using ih [] (by simp))
    | false =>
      rw [List.append_cons]
      apply ih
      intro y hy
      rcases List.mem_append.mp hy with hy | hy
      · exact hr y hy
      · rw [List.mem_singleton.mp hy]
        exact hx

theorem runs_append_cons_of_forall {r : List α} (hne : r ≠ []) (hr : ∀ y ∈ r, p y = false)
    {x : α} (hx : p x = true) (l : List α) : runs p (r ++ x :: l) = r :: runs p l := by
  rw [runs_append_cons hx, runs_eq_singleton hne hr, List.singleton_append]

/-- What is joined comes apart again, unless it holds the separator. -/
theorem splitOnP_join {sep : Char} {p : Char → Bool} (hsep : p sep = true) {parts : List Text}
    (hne : parts ≠ []) (h : ∀ part ∈ parts, ∀ c ∈ part, p c = false) :
    (join [sep] parts).splitOnP p = parts := by
  induction parts with
  | nil => exact absurd rfl hne
  | cons part rest ih =>
    obtain ⟨hpart, hrest⟩ := List.forall_mem_cons.mp h
    cases rest with
    | nil => exact List.splitOnP_eq_singleton hpart
    | cons next rest =>
      rw [join, List.append_assoc, List.singleton_append,
        List.splitOnP_append_cons_of_forall_mem hpart sep hsep, ih (List.cons_ne_nil _ _) hrest]

theorem runs_join {sep : Char} {p : Char → Bool} (hsep : p sep = true) {parts : List Text}
    (h : ∀ part ∈ parts, part ≠ [] ∧ ∀ c ∈ part, p c = false) :
    runs p (join [sep] parts) = parts := by
  cases parts with
  | nil => rfl
  | cons part rest =>
    rw [runs, splitOnP_join hsep (List.cons_ne_nil _ _) fun part hpart => (h part hpart).2,
      List.filter_eq_self]
    intro part hpart
    simpa using (h part hpart).1

theorem splitOnP_map (f : β → α) (l : List β) :
    (l.map f).splitOnP p = (l.splitOnP (p ∘ f)).map (List.map f) := by
  induction l using separator_induction (p ∘ f) with
  | whole l h =>
    have hf : ∀ y ∈ l.map f, p y = false := by simpa using h
    rw [List.splitOnP_eq_singleton h, List.splitOnP_eq_singleton hf, List.map_singleton]
  | cut r x m hr hx ih =>
    have hf : ∀ y ∈ r.map f, p y = false := by simpa using hr
    rw [List.map_append, List.map_cons, List.splitOnP_append_cons_of_forall_mem hf _ hx, ih,
      List.splitOnP_append_cons_of_forall_mem hr _ hx, List.map_cons]

/-- Nothing but separators is lost between the runs. -/
theorem flatten_runs (p : α → Bool) (l : List α) : (runs p l).flatten = l.filter (!p ·) := by
  rw [runs, List.flatten_filter_not_isEmpty]
  induction l using separator_induction p with
  | whole l h =>
    have hf : ∀ x ∈ l, (!p x) = true := by simpa using h
    rw [List.splitOnP_eq_singleton h, List.flatten_singleton, List.filter_eq_self.mpr hf]
  | cut r x m hr hx ih =>
    have hf : ∀ y ∈ r, (!p y) = true := by simpa using hr
    rw [List.splitOnP_append_cons_of_forall_mem hr x hx, List.flatten_cons, ih,
      List.filter_append, List.filter_eq_self.mpr hf, List.filter_cons_of_neg (by simp [hx])]

theorem flatMap_filter {f : α → List β} {l : List α} (h : ∀ x ∈ l, p x = false → f x = []) :
    (l.filter p).flatMap f = l.flatMap f := by
  induction l with
  | nil => rfl
  | cons x l ih =>
    obtain ⟨hx, hl⟩ := List.forall_mem_cons.mp h
    rw [List.flatMap_cons, ← ih hl]
    cases hp : p x with
    | true => rw [List.filter_cons_of_pos hp, List.flatMap_cons]
    | false => rw [List.filter_cons_of_neg (by simp [hp]), hx hp, List.nil_append]

/-- Where each element gives something, all together give themselves only one by one. -/
theorem flatMap_eq_self_iff {f : α → List α} {l : List α} (h : ∀ x ∈ l, f x ≠ []) :
    l.flatMap f = l ↔ ∀ x ∈ l, f x = [x] := by
  have hlength {l : List α} (h : ∀ x ∈ l, f x ≠ []) : l.length ≤ (l.flatMap f).length := by
    induction l with
    | nil => exact Nat.le_refl 0
    | cons x l ih =>
      obtain ⟨hx, hl⟩ := List.forall_mem_cons.mp h
      have hx := List.length_pos_iff.mpr hx
      have hl := ih hl
      rw [List.flatMap_cons, List.length_append, List.length_cons]
      omega
  induction l with
  | nil => exact iff_of_true rfl nofun
  | cons x l ih =>
    obtain ⟨hx, hl⟩ := List.forall_mem_cons.mp h
    rw [List.flatMap_cons, List.forall_mem_cons]
    refine Iff.trans ?_ (and_congr_right' (ih hl))
    constructor
    · intro hself
      have htotal := congrArg List.length hself
      rw [List.length_append, List.length_cons] at htotal
      have hrest := hlength hl
      have hpos := List.length_pos_iff.mpr hx
      obtain ⟨y, hy⟩ := List.length_eq_one_iff.mp (show (f x).length = 1 by omega)
      rw [hy, List.singleton_append] at hself
      obtain ⟨rfl, hbehind⟩ := List.cons.inj hself
      exact ⟨hy, hbehind⟩
    · rintro ⟨hx, hself⟩
      rw [hx, hself, List.singleton_append]

theorem mem_splitOnP {piece l : List α} (h : piece ∈ l.splitOnP p) :
    piece <:+: l ∧ ∀ x ∈ piece, p x = false := by
  induction l using separator_induction p with
  | whole l hl =>
    rw [List.splitOnP_eq_singleton hl, List.mem_singleton] at h
    subst h
    exact ⟨List.infix_refl _, hl⟩
  | cut r x m hr hx ih =>
    rw [List.splitOnP_append_cons_of_forall_mem hr x hx, List.mem_cons] at h
    rcases h with rfl | h
    · exact ⟨(List.prefix_append _ _).isInfix, hr⟩
    · obtain ⟨hsub, hfree⟩ := ih h
      exact ⟨hsub.trans ((List.suffix_cons x m).trans (List.suffix_append r _)).isInfix, hfree⟩

theorem mem_runs {run l : List α} (h : run ∈ runs p l) :
    run ≠ [] ∧ run <:+: l ∧ ∀ x ∈ run, p x = false := by
  obtain ⟨hrun, hne⟩ := List.mem_filter.mp h
  exact ⟨by simpa using hne, mem_splitOnP hrun⟩

theorem runs_eq_nil_iff {l : List α} : runs p l = [] ↔ ∀ x ∈ l, p x = true := by
  have hflatten : runs p l = [] ↔ (runs p l).flatten = [] := by
    constructor
    · intro h
      rw [h]
      rfl
    · intro h
      rw [List.eq_nil_iff_forall_not_mem]
      intro run hrun
      exact (mem_runs hrun).1 (List.flatten_eq_nil_iff.mp h run hrun)
  rw [hflatten, flatten_runs, List.filter_eq_nil_iff]
  simp

end Thesaurus.Text
