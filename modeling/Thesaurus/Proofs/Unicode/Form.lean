import Thesaurus.Proofs.Unicode.Elements
import Thesaurus.Proofs.Unicode.Order

/-!
# The compatibility form is canonical

Composition loses nothing: what was joined comes apart into the same ordered text. So a text in
compatibility form is its own. Main facts: `reorder_flatMap_compose` and
`compatibilityForm_compatibilityForm`.
-/

set_option autoImplicit false

namespace Thesaurus.Unicode

open Text

/-- What composition has before it: marks that stay, the last one first, and the rest of an ordered
text behind them. -/
structure Joining (kept t : Text) : Prop where
  marks : ∀ d ∈ kept, 0 < combiningClass d
  ordered : Ordered (kept.reverse ++ t)

namespace Joining

variable {kept t : Text} {c : Char}

theorem start (h : Ordered t) : Joining [] t := ⟨List.forall_mem_nil _, h⟩

theorem rest (h : Joining kept (c :: t)) : Ordered (c :: t) := h.ordered.right_of_append

theorem keep (h : Joining kept (c :: t)) (hc : isStarter c = false) : Joining (c :: kept) t where
  marks := by
    have hclass : combiningClass c ≠ 0 := by simpa [isStarter] using hc
    exact List.forall_mem_cons.mpr ⟨Nat.pos_of_ne_zero hclass, h.marks⟩
  ordered := by
    rw [List.reverse_cons, List.append_assoc]
    exact h.ordered

/-- The marks that stay are ascending, so what the last of them does not block goes behind all. -/
theorem goesBefore (h : Joining kept (c :: t)) (hc : isBlocked kept c = false) :
    ∀ d ∈ kept, GoesBefore d c := by
  cases kept with
  | nil => exact List.forall_mem_nil _
  | cons e kept =>
    have hlt : combiningClass e < combiningClass c := by simpa [isBlocked] using hc
    have hascending : (e :: kept).Pairwise fun d d' => combiningClass d' ≤ combiningClass d := by
      have hchain : (e :: kept).IsChain fun d d' => ¬GoesBefore d d' :=
        List.isChain_reverse.mp h.ordered.left_of_append
      have htrans : IsTrans Char fun d d' => combiningClass d' ≤ combiningClass d :=
        ⟨fun d d' d'' h h' => h'.trans h⟩
      refine List.isChain_iff_pairwise.mp (hchain.imp_of_mem_imp fun d d' hd _ hbefore => ?_)
      exact Nat.not_lt.mp fun hclass => hbefore ⟨h.marks d hd, hclass⟩
    intro d hd
    refine ⟨h.marks d hd, ?_⟩
    rcases List.mem_cons.mp hd with rfl | hd
    · exact hlt
    · exact (List.rel_of_pairwise_cons hascending hd).trans_lt hlt

theorem join (h : Joining kept (c :: t)) (hc : isBlocked kept c = false) : Joining kept t where
  marks := h.marks
  ordered := by
    refine List.isChain_append.mpr ⟨h.ordered.left_of_append, h.rest.tail, fun d hd e he => ?_⟩
    -- What does not go before `c` does not go before a mark that `c` stands behind either.
    have hce : ¬GoesBefore e c := (List.isChain_cons.mp h.rest).1 e he
    have hdc : GoesBefore d c := h.goesBefore hc d (List.mem_reverse.mp (List.mem_of_getLast? hd))
    exact fun hed => hce (hed.trans hdc)

end Joining

/-- What is joined to a starter comes apart again behind the letters of the starter. -/
theorem reorder_flatMap_joinTo {s : Char} {kept t : Text} (h : Joining kept t)
    (hkept : ∀ c ∈ kept, Atomic c) (ht : ∀ c ∈ t, Atomic c) :
    reorder ((joinTo s kept t).flatMap decomposition) =
      reorder (decomposition s ++ (kept.reverse ++ t)) := by
  induction t generalizing s kept with
  | nil =>
    have hreverse : ∀ c ∈ kept.reverse, Atomic c := by simpa using hkept
    rw [joinTo, List.flatMap_cons, flatMap_decomposition hreverse, List.append_nil]
  | cons c t ih =>
    obtain ⟨hc, ht⟩ := List.forall_mem_cons.mp ht
    rw [joinTo]
    split
    case h_1 joined hjoined =>
      obtain ⟨hblocked, hcomposite⟩ : isBlocked kept c = false ∧ composite? s c = some joined := by
        split_ifs at hjoined with hblocked
        exact ⟨Bool.of_not_eq_true hblocked, hjoined⟩
      rw [ih (h.join hblocked) hkept ht, decomposition_of_composite? hcomposite, hc,
        List.append_assoc, List.singleton_append]
      exact reorder_append_congr _ (reorder_move (by simpa using h.goesBefore hblocked) t).symm
    case h_2 =>
      split_ifs with hstarter
      · have hreverse : ∀ c ∈ kept.reverse, Atomic c := by simpa using hkept
        have hrest := ih (s := c) (.start h.rest.tail) (List.forall_mem_nil _) ht
        rw [hc] at hrest
        rw [List.flatMap_cons, List.flatMap_append, flatMap_decomposition hreverse]
        exact reorder_append_congr _ (reorder_append_congr _ hrest)
      · rw [ih (h.keep (Bool.of_not_eq_true hstarter)) (List.forall_mem_cons.mpr ⟨hc, hkept⟩) ht,
          List.reverse_cons, List.append_assoc, List.singleton_append]

theorem reorder_flatMap_compose {t : Text} (h : Ordered t) (ht : ∀ c ∈ t, Atomic c) :
    reorder ((compose t).flatMap decomposition) = t := by
  induction t with
  | nil => rfl
  | cons c t ih =>
    obtain ⟨hc, htail⟩ := List.forall_mem_cons.mp ht
    have hordered : Ordered t := h.tail
    rw [compose]
    split_ifs
    · rw [reorder_flatMap_joinTo (.start hordered) (List.forall_mem_nil _) htail, hc]
      exact reorder_of_ordered h
    · rw [List.flatMap_cons, hc, List.singleton_append, reorder_cons, ih hordered htail,
        place_of_ordered h]

theorem forall_mem_joinTo {P : Char → Prop}
    (hjoin : ∀ c d joined, composite? c d = some joined → P c → P d → P joined) {s : Char}
    {kept t : Text} (hs : P s) (hkept : ∀ c ∈ kept, P c) (ht : ∀ c ∈ t, P c) :
    ∀ c ∈ joinTo s kept t, P c := by
  induction t generalizing s kept with
  | nil =>
    rw [joinTo, List.forall_mem_cons]
    exact ⟨hs, by simpa using hkept⟩
  | cons c t ih =>
    obtain ⟨hc, ht⟩ := List.forall_mem_cons.mp ht
    rw [joinTo]
    split
    case h_1 joined hjoined =>
      have hcomposite : composite? s c = some joined := by
        split_ifs at hjoined
        exact hjoined
      exact ih (hjoin s c joined hcomposite hs hc) hkept ht
    case h_2 =>
      split_ifs
      · rw [List.forall_mem_cons, List.forall_mem_append]
        exact ⟨hs, by simpa using hkept, ih hc (List.forall_mem_nil _) ht⟩
      · exact ih hs (List.forall_mem_cons.mpr ⟨hc, hkept⟩) ht

/-- What holds of every character and of what two such are joined to holds after composition. -/
theorem forall_mem_compose {P : Char → Prop}
    (hjoin : ∀ c d joined, composite? c d = some joined → P c → P d → P joined) {t : Text}
    (ht : ∀ c ∈ t, P c) : ∀ c ∈ compose t, P c := by
  induction t with
  | nil => exact List.forall_mem_nil P
  | cons c t ih =>
    obtain ⟨hc, ht⟩ := List.forall_mem_cons.mp ht
    rw [compose]
    split_ifs
    · exact forall_mem_joinTo hjoin hc (List.forall_mem_nil P) ht
    · exact List.forall_mem_cons.mpr ⟨hc, ih ht⟩

theorem atomic_of_mem_reorder {t : Text} : ∀ c ∈ reorder (t.flatMap decomposition), Atomic c := by
  intro c hc
  obtain ⟨d, -, hd⟩ := List.mem_flatMap.mp ((reorder_perm _).mem_iff.mp hc)
  exact atomic_of_mem hd

@[simp] theorem compatibilityForm_compatibilityForm (t : Text) :
    compatibilityForm (compatibilityForm t) = compatibilityForm t := by
  rw [compatibilityForm.eq_1 t, compatibilityForm,
    reorder_flatMap_compose (ordered_reorder _) atomic_of_mem_reorder]

end Thesaurus.Unicode
