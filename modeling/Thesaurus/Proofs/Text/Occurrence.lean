import Mathlib.Data.List.Basic
import Thesaurus.Proofs.Text.Delimiter

/-!
# Places of a delimiter

Without backslashes nothing is escaped, and a scan stops wherever the delimiter stands. So splitting
cuts a text at the first place of the delimiter, then at the first place behind that, and so on, and
leaves the empty parts out. Main fact: `splitAt_of_unescaped`, for delimiters of any length.
-/

set_option autoImplicit false

namespace Thesaurus.Text

theorem length_lt_of_dropInfix? {d t front rest : Text} (hd : d ≠ [])
    (h : t.dropInfix? d = some (front, rest)) : rest.length < t.length := by
  obtain ⟨⟨place, rfl, hplace⟩, -⟩ := List.dropInfix?_eq_some_iff.mp h
  have hpositive := List.length_pos_iff.mpr hd
  rw [beq_iff_eq.mp hplace, List.length_append, List.length_append]
  omega

/-- The parts of a text between the places at which `d` stands. Each place is the first one behind
the place before, so that none lies over another. -/
def partsBetween (d t : Text) : List Text :=
  if hd : d = [] then [t]
  else
    match h : t.dropInfix? d with
    | none => [t]
    | some (front, rest) =>
      have : rest.length < t.length := length_lt_of_dropInfix? hd h
      front :: partsBetween d rest
termination_by t.length

theorem partsBetween_ne_nil (d t : Text) : partsBetween d t ≠ [] := by
  rw [partsBetween]
  split_ifs
  · exact List.cons_ne_nil _ _
  · split <;> exact List.cons_ne_nil _ _

/-- Nothing but the delimiter is lost between the parts. -/
theorem join_partsBetween (d t : Text) : join d (partsBetween d t) = t := by
  fun_induction partsBetween d t with
  | case1 => rfl
  | case2 => rfl
  | case3 t hd front rest h hshort ih =>
    obtain ⟨⟨place, rfl, hplace⟩, -⟩ := List.dropInfix?_eq_some_iff.mp h
    obtain ⟨part, parts, hparts⟩ := List.exists_cons_of_ne_nil (partsBetween_ne_nil d rest)
    rw [hparts] at ih ⊢
    rw [join, ih, beq_iff_eq.mp hplace]

theorem partsBetween_of_none {d t : Text} (hd : d ≠ []) (h : t.dropInfix? d = none) :
    partsBetween d t = [t] := by
  rw [partsBetween, dif_neg hd]
  split
  · rfl
  · next heq => exact absurd (h.symm.trans heq) nofun

theorem partsBetween_of_some {d t front rest : Text} (hd : d ≠ [])
    (h : t.dropInfix? d = some (front, rest)) :
    partsBetween d t = front :: partsBetween d rest := by
  rw [partsBetween, dif_neg hd]
  split
  · next heq => exact absurd (h.symm.trans heq) nofun
  · next heq =>
    obtain ⟨rfl, rfl⟩ := Prod.mk.inj (Option.some.inj (h.symm.trans heq))
    rfl

section Scan

variable {d r behind : Text}

/-- What a scan passes without an escape begins with the delimiter nowhere. -/
theorem Passes.not_prefix (h : Passes d behind r) (hr : '\\' ∉ r) {x y : Text} (hy : y ≠ [])
    (hxy : r = x ++ y) : ¬ d <+: y ++ behind := by
  induction h generalizing x with
  | nil => exact absurd (List.append_eq_nil_iff.mp hxy.symm).2 hy
  | lone => exact absurd List.mem_cons_self hr
  | escaped => exact absurd List.mem_cons_self hr
  | @plain c r hc h _ ih =>
    cases x with
    | nil =>
      rw [List.nil_append] at hxy
      rw [← hxy]
      exact h
    | cons c' x =>
      have hrest : r = x ++ y := (List.cons.inj hxy).2
      exact ih (fun hmem => hr (List.mem_cons_of_mem c hmem)) hrest

theorem dropInfix?_of_passes (hd : d ≠ []) (h : Passes d [] r) (hr : '\\' ∉ r) :
    r.dropInfix? d = none := by
  rw [Option.eq_none_iff_forall_not_mem]
  rintro ⟨front, rest⟩ hcut
  obtain ⟨⟨place, heq, hplace⟩, -⟩ := List.dropInfix?_eq_some_iff.mp hcut
  rw [beq_iff_eq.mp hplace, List.append_assoc] at heq
  have hne : d ++ rest ≠ [] := List.append_ne_nil_of_left_ne_nil hd rest
  exact h.not_prefix hr hne heq ⟨rest, (List.append_nil _).symm⟩

/-- The delimiter at which a scan stops is the first one of the text. -/
theorem dropInfix?_append_delimiter {t : Text} (h : Passes d (d ++ t) r) (hr : '\\' ∉ r) :
    (r ++ (d ++ t)).dropInfix? d = some (r, t) := by
  refine List.dropInfix?_eq_some_iff.mpr ⟨⟨d, (List.append_assoc r d t).symm, beq_self_eq_true d⟩, ?_⟩
  intro x place y heq hplace
  rw [beq_iff_eq.mp hplace, List.append_assoc] at heq
  by_contra hshort
  -- A place in front of that one would begin in what the scan passes.
  obtain ⟨z, rfl⟩ : x <+: r :=
    List.prefix_of_prefix_length_le ⟨d ++ y, heq.symm⟩ ⟨d ++ t, rfl⟩ (by omega)
  have hz : z ≠ [] := by
    rintro rfl
    simp at hshort
  rw [List.append_assoc, List.append_cancel_left_eq] at heq
  exact h.not_prefix hr hz rfl ⟨y, heq.symm⟩

end Scan

section Split

variable {d t : Text}

/-- Without escapes the segments are the parts that are not empty. -/
theorem splitAt_of_unescaped (hd : d ≠ []) (ht : '\\' ∉ t) :
    t.splitAt d = (partsBetween d t).filter (!·.isEmpty) := by
  induction t using delimiter_induction hd with
  | whole r hr =>
    rw [partsBetween_of_none hd (dropInfix?_of_passes hd hr ht), splitAt_of_passes hr]
  | cut r t hr ih =>
    simp only [List.mem_append, not_or] at ht
    obtain ⟨hfront, -, hbehind⟩ := ht
    rw [partsBetween_of_some hd (dropInfix?_append_delimiter hr hfront),
      splitAt_append_delimiter hd hr, ih hbehind, ← List.filter_append, List.singleton_append]

theorem unescape_of_unescaped (h : '\\' ∉ t) : t.unescape = t := by
  induction t with
  | nil => rfl
  | cons c t ih =>
    rw [List.mem_cons, not_or] at h
    obtain ⟨hfirst, hrest⟩ := h
    rw [unescape_cons (Ne.symm hfirst), ih hrest]

end Split

end Thesaurus.Text
