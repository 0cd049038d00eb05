import Mathlib.Data.List.DropRight
import Thesaurus.Text.Blank

/-!
# Trimming

Trimming takes blanks off both ends and nothing else: `trim_append_append` says what is left of a
padded text, and `trim_eq_nil_iff` when nothing is.
-/

set_option autoImplicit false

namespace Thesaurus.Text

theorem trimStart_append {front : Text} (h : ∀ c ∈ front, isBlank c = true) (t : Text) :
    trimStart (front ++ t) = trimStart t :=
  List.dropWhile_append_of_pos h

theorem trimStart_of_head {t : Text} (h : ∀ c ∈ t.head?, isBlank c = false) :
    trimStart t = t := by
  cases t with
  | nil => rfl
  | cons c t => exact List.dropWhile_cons_of_neg (by simpa using h c rfl)

theorem trimEnd_eq (t : Text) : trimEnd t = (trimStart t.reverse).reverse := rfl

theorem trim_append_append {front t back : Text} (hfront : ∀ c ∈ front, isBlank c = true)
    (hback : ∀ c ∈ back, isBlank c = true) (hne : t ≠ [])
    (hhead : ∀ c ∈ t.head?, isBlank c = false) (hlast : ∀ c ∈ t.getLast?, isBlank c = false) :
    trim (front ++ t ++ back) = t := by
  have hstart : trimStart (front ++ t ++ back) = t ++ back := by
    rw [List.append_assoc, trimStart_append hfront]
    apply trimStart_of_head
    rwa [List.head?_append, Option.or_of_isSome (by simpa using hne)]
  have hreverse : ∀ c ∈ back.reverse, isBlank c = true := by simpa using hback
  rw [trim, hstart, trimEnd_eq, List.reverse_append, trimStart_append hreverse, trimStart_of_head,
    List.reverse_reverse]
  rwa [List.head?_reverse]

theorem trim_eq_nil_iff {t : Text} : trim t = [] ↔ ∀ c ∈ t, isBlank c = true := by
  rw [trim, trimEnd_eq, List.reverse_eq_nil_iff, trimStart, List.dropWhile_eq_nil_iff]
  constructor
  · intro h c hc
    rw [← List.takeWhile_append_dropWhile (p := isBlank) (l := t), List.mem_append] at hc
    rcases hc with hc | hc
    · exact List.mem_takeWhile_imp hc
    · exact h c (List.mem_reverse.mpr hc)
  · intro h c hc
    exact h c ((List.dropWhile_sublist isBlank).subset (List.mem_reverse.mp hc))

theorem mem_trim {t : Text} {c : Char} (h : c ∈ trim t) : c ∈ t := by
  rw [trim, trimEnd_eq, List.mem_reverse] at h
  have hstart := (List.dropWhile_sublist isBlank).subset h
  exact (List.dropWhile_sublist isBlank).subset (List.mem_reverse.mp hstart)

/-- Trimming leaves something that is not blank where there is something. -/
theorem forall_isBlank_trim {t : Text} :
    (∀ c ∈ trim t, isBlank c = true) ↔ ∀ c ∈ t, isBlank c = true := by
  constructor
  · intro h
    rw [← trim_eq_nil_iff, trim, trimEnd_eq, List.reverse_eq_nil_iff, trimStart,
      ← List.dropWhile_idempotent isBlank, List.dropWhile_eq_nil_iff]
    intro c hc
    exact h c (List.mem_reverse.mpr hc)
  · intro h c hc
    exact h c (mem_trim hc)

end Thesaurus.Text
