import Mathlib.Data.List.Chain
import Thesaurus.Unicode.Compatibility

/-!
# Canonical order

Reordering puts the marks of a text into canonical order and changes nothing else: an ordered text
stays, and marks of different classes may stand either way round before. Main facts:
`ordered_reorder`, `reorder_of_ordered` and `reorder_move`.
-/

set_option autoImplicit false

namespace Thesaurus.Unicode

open Text

/-- Whether the mark `d` stands in front of a neighbour `c` in canonical order. -/
def GoesBefore (d c : Char) : Prop := 0 < combiningClass d ∧ combiningClass d < combiningClass c

instance (d c : Char) : Decidable (GoesBefore d c) := inferInstanceAs (Decidable (_ ∧ _))

theorem GoesBefore.asymm {c d : Char} (h : GoesBefore d c) : ¬GoesBefore c d := by
  rintro ⟨-, hlt⟩
  exact Nat.lt_asymm h.2 hlt

theorem GoesBefore.trans {c d e : Char} (h : GoesBefore e d) (h' : GoesBefore d c) :
    GoesBefore e c :=
  ⟨h.1, h.2.trans h'.2⟩

/-- No character stands behind one that it goes before. -/
def Ordered (t : Text) : Prop := t.IsChain fun c d => ¬GoesBefore d c

theorem place_cons (c d : Char) (t : Text) :
    place c (d :: t) = if GoesBefore d c then d :: place c t else c :: d :: t := by
  simp only [place, Bool.and_eq_true, decide_eq_true_eq]
  rfl

theorem place_of_ordered {c : Char} {t : Text} (h : Ordered (c :: t)) : place c t = c :: t := by
  cases t with
  | nil => rfl
  | cons d t => rw [place_cons, if_neg (List.isChain_cons_cons.mp h).1]

theorem ordered_place {t : Text} (h : Ordered t) (c : Char) : Ordered (place c t) := by
  induction t with
  | nil => exact List.isChain_singleton c
  | cons d t ih =>
    rw [place_cons]
    split_ifs with hd
    · refine List.isChain_cons.mpr ⟨fun e he => ?_, ih h.tail⟩
      -- Behind `d` comes `c` or what stood behind `d` before.
      cases t with
      | nil => cases he; exact hd.asymm
      | cons e' t =>
        rw [place_cons] at he
        split_ifs at he <;> cases he
        · exact (List.isChain_cons_cons.mp h).1
        · exact hd.asymm
    · exact List.isChain_cons_cons.mpr ⟨hd, h⟩

theorem ordered_reorder (t : Text) : Ordered (reorder t) := by
  induction t with
  | nil => exact List.isChain_nil
  | cons c t ih => exact ordered_place ih c

theorem reorder_cons (c : Char) (t : Text) : reorder (c :: t) = place c (reorder t) := rfl

theorem reorder_of_ordered {t : Text} (h : Ordered t) : reorder t = t := by
  induction t with
  | nil => rfl
  | cons c t ih => rw [reorder_cons, ih h.tail, place_of_ordered h]

theorem reorder_append_congr (x : Text) {t t' : Text} (h : reorder t = reorder t') :
    reorder (x ++ t) = reorder (x ++ t') := by
  induction x with
  | nil => exact h
  | cons c x ih => rw [List.cons_append, List.cons_append, reorder_cons, reorder_cons, ih]

theorem place_comm {c d : Char} (h : GoesBefore d c) (t : Text) :
    place c (place d t) = place d (place c t) := by
  induction t with
  | nil => simp only [place, place_cons, if_pos h, if_neg h.asymm]
  | cons e t ih =>
    by_cases hed : GoesBefore e d
    · have hec := hed.trans h
      rw [place_cons d e, if_pos hed, place_cons c e, if_pos hec, ih, place_cons c e, if_pos hec,
        place_cons d e, if_pos hed]
    · rw [place_cons d e, if_neg hed, place_cons c d, if_pos h, place_cons c e]
      split_ifs
      · rw [place_cons, if_neg hed]
      · rw [place_cons, if_neg h.asymm]

/-- A mark is ordered to the same place from in front of the marks that go before it. -/
theorem reorder_move {c : Char} {x : Text} (h : ∀ d ∈ x, GoesBefore d c) (t : Text) :
    reorder (x ++ c :: t) = reorder (c :: (x ++ t)) := by
  induction x with
  | nil => rfl
  | cons d x ih =>
    obtain ⟨hd, hx⟩ := List.forall_mem_cons.mp h
    calc reorder (d :: x ++ c :: t)
      _ = place d (reorder (x ++ c :: t)) := rfl
      _ = place d (place c (reorder (x ++ t))) := by rw [ih hx, reorder_cons]
      _ = place c (place d (reorder (x ++ t))) := (place_comm hd _).symm
      _ = reorder (c :: (d :: x ++ t)) := rfl

/-- Nothing is ordered across a starter. -/
theorem reorder_append_starter {c : Char} (hc : isStarter c = true) (x t : Text) :
    reorder (x ++ c :: t) = reorder x ++ c :: reorder t := by
  have hclass : combiningClass c = 0 := beq_iff_eq.mp hc
  have hplace (t : Text) : place c t = c :: t := by
    cases t with
    | nil => rfl
    | cons d t => rw [place_cons, if_neg fun h => absurd h.2 (by omega)]
  have happend (d : Char) (t t' : Text) : place d (t ++ c :: t') = place d t ++ c :: t' := by
    induction t with
    | nil => rw [List.nil_append, place_cons, if_neg fun h => absurd h.1 (by omega)]; rfl
    | cons e t ih =>
      rw [List.cons_append, place_cons, place_cons, ih]
      split_ifs <;> rfl
  induction x with
  | nil => exact hplace _
  | cons d x ih => rw [List.cons_append, reorder_cons, ih, happend, reorder_cons]

end Thesaurus.Unicode
