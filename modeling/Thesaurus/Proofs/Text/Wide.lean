import Thesaurus.Text.Wide

/-!
# Plain and sheltered texts

A wide text that is plain is one of characters. One that is not comes out of the shelter as it went
in. Main facts: `wide_chars` and `unshelter_shelter`.
-/

set_option autoImplicit false

namespace Thesaurus

theorem Text.wide_append (s t : Text) : wide (s ++ t) = wide s ++ wide t := List.map_append

namespace WideText

@[simp] theorem isPlain_wide (t : Text) : (Text.wide t).isPlain = true := by
  rw [isPlain, Text.wide, List.all_map, List.all_eq_true]
  exact fun _ _ => rfl

@[simp] theorem chars_wide (t : Text) : (Text.wide t).chars = t := by
  rw [chars, Text.wide, List.filterMap_map]
  exact List.filterMap_some

theorem wide_chars {t : WideText} (h : t.isPlain = true) : Text.wide (chars t) = t := by
  induction t with
  | nil => rfl
  | cons point t ih =>
    rw [isPlain, List.all_cons, Bool.and_eq_true] at h
    cases point with
    | surrogate n => exact absurd h.1 Bool.false_ne_true
    | char c =>
      change CodePoint.char c :: Text.wide (chars t) = CodePoint.char c :: t
      rw [ih h.2]

theorem wide_injective : Function.Injective Text.wide :=
  Function.LeftInverse.injective chars_wide

theorem shelter_append (t u : WideText) : shelter (t ++ u) = shelter t ++ shelter u :=
  List.flatMap_append

theorem shelter_char {c : Char} (hc : c ≠ CodePoint.mark) (t : WideText) :
    shelter (.char c :: t) = c :: shelter t := by
  rw [shelter, List.flatMap_cons]
  dsimp only
  rw [if_neg hc]
  rfl

theorem shelter_wide {t : Text} (h : CodePoint.mark ∉ t) : shelter (Text.wide t) = t := by
  induction t with
  | nil => rfl
  | cons c t ih =>
    obtain ⟨hc, ht⟩ := not_or.mp (mt List.mem_cons.mpr h)
    change shelter (.char c :: Text.wide t) = c :: t
    rw [shelter_char (Ne.symm hc), ih ht]

theorem unshelter_cons {c : Char} (hc : c ≠ CodePoint.mark) (t : Text) :
    unshelter (c :: t) = .char c :: unshelter t := by
  cases t with
  | nil => rfl
  | cons d t => rw [unshelter, if_neg hc]

theorem unshelter_mark (d : Char) (t : Text) :
    unshelter (CodePoint.mark :: d :: t) = CodePoint.unshelter d :: unshelter t := by
  rw [unshelter, if_pos rfl]

theorem CodePoint.unshelter_shelter (n : Fin 0x800) :
    CodePoint.unshelter (CodePoint.shelter n) = .surrogate n := by
  have hcode : (CodePoint.shelter n).toNat = 0x100000 + n := by
    have hvalid : (0x100000 + n.val).isValidChar := .inr (by omega)
    rw [CodePoint.shelter, Char.ofNat, dif_pos hvalid]
    rfl
  rw [CodePoint.unshelter, dif_pos (by omega)]
  simp [hcode]

@[simp] theorem unshelter_shelter (t : WideText) : unshelter (shelter t) = t := by
  induction t with
  | nil => rfl
  | cons point t ih =>
    cases point with
    | surrogate n =>
      change unshelter (CodePoint.mark :: CodePoint.shelter n :: shelter t) = _
      rw [unshelter_mark, CodePoint.unshelter_shelter, ih]
    | char c =>
      by_cases hc : c = CodePoint.mark
      · subst hc
        change unshelter (CodePoint.mark :: CodePoint.mark :: shelter t) = _
        rw [unshelter_mark, ih]
        rfl
      · rw [shelter_char hc, unshelter_cons hc, ih]

theorem mem_of_char_mem_unshelter {c : Char} {t : Text} (h : .char c ∈ unshelter t) : c ∈ t := by
  have hpoint {d : Char} (h : CodePoint.char c = CodePoint.unshelter d) : c = d := by
    rw [CodePoint.unshelter] at h
    split at h
    · cases h
    · exact CodePoint.char.inj h
  fun_induction unshelter t with
  | case1 => exact absurd h List.not_mem_nil
  | case2 d => exact List.mem_singleton.mpr (CodePoint.char.inj (List.mem_singleton.mp h))
  | case3 d t ih =>
    rcases List.mem_cons.mp h with h | h
    · exact List.mem_cons_of_mem _ (hpoint h ▸ List.mem_cons_self)
    · exact List.mem_cons_of_mem _ (List.mem_cons_of_mem _ (ih h))
  | case4 d e t hd ih =>
    rcases List.mem_cons.mp h with h | h
    · exact CodePoint.char.inj h ▸ List.mem_cons_self
    · exact List.mem_cons_of_mem _ (ih h)

end WideText

end Thesaurus
