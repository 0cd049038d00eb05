import Mathlib.Tactic.SplitIfs
import Thesaurus.Encoding.Utf8

/-!
# Damaged UTF-8

Bytes are damaged where a part of them makes up no character. Lenient decoding has the last word:
strict decoding gives the same text or, of damaged bytes, none (`decode?_eq`). A character that is
open takes only bytes beyond ASCII in, so damage ends at an ASCII byte, and what is read behind it
does not depend on what came before. Main fact: `readFrom_append_ascii`.
-/

set_option autoImplicit false

namespace Thesaurus.Utf8

/-- Some part of the bytes makes up no character. -/
def Damaged (bytes : Bytes) : Prop := none ∈ read bytes

instance : DecidablePred Damaged := fun bytes => inferInstanceAs (Decidable (none ∈ read bytes))

theorem mapM_id_eq {α : Type} [DecidableEq α] (parts : List (Option α)) (a : α) :
    parts.mapM id = if none ∈ parts then none else some (parts.map (·.getD a)) := by
  induction parts with
  | nil => rfl
  | cons part parts ih =>
    rw [List.mapM_cons, ih]
    cases part with
    | none => rw [if_pos List.mem_cons_self]; rfl
    | some b =>
      have hmem : none ∈ some b :: parts ↔ none ∈ parts := by simp
      simp only [hmem]
      split_ifs <;> rfl

theorem decode?_eq (bytes : Bytes) :
    decode? bytes = if Damaged bytes then none else some (decodeLenient bytes) :=
  mapM_id_eq (read bytes) '\ufffd'

section Ascii

theorem begin_ascii {b : Nat} (h : b < 0x80) : begin b = ([some (Char.ofNat b)], none) := by
  rw [begin, if_pos h]

theorem low_of_begin (b : Nat) : ∀ o ∈ (begin b).2, 0x80 ≤ o.low := by
  unfold begin
  split_ifs <;> simp

theorem low_of_step (state : Option Open) (b : Nat) : ∀ o ∈ (step state b).2, 0x80 ≤ o.low := by
  cases state with
  | none => exact low_of_begin b
  | some o =>
    obtain ⟨missing, low, high, value⟩ := o
    rw [step]
    split_ifs
    · cases missing <;> simp
    · exact low_of_begin b

theorem step_ascii {o : Open} {b : Nat} (hlow : 0x80 ≤ o.low) (h : b < 0x80) :
    step (some o) b = ([none, some (Char.ofNat b)], none) := by
  have hout : (o.low ≤ b && b ≤ o.high) = false := by
    rw [Bool.and_eq_false_iff, decide_eq_false_iff_not]
    exact .inl (by omega)
  rw [step, hout, begin_ascii h]
  rfl

theorem readFrom_cons (state : Option Open) (b : UInt8) (bytes : Bytes) :
    readFrom state (b :: bytes) =
      (step state b.toNat).1 ++ readFrom (step state b.toNat).2 bytes := by
  rw [readFrom]

/-- Whatever is open before an ASCII byte ends there as it would at the end of all bytes. -/
theorem readFrom_append_ascii {b : UInt8} (h : b.toNat < 0x80) {state : Option Open}
    (hlow : ∀ o ∈ state, 0x80 ≤ o.low) (x y : Bytes) :
    readFrom state (x ++ b :: y) = readFrom state x ++ some (Char.ofNat b.toNat) :: read y := by
  induction x generalizing state with
  | nil =>
    cases state with
    | none => rw [List.nil_append, readFrom_cons, step, begin_ascii h]; rfl
    | some o => rw [List.nil_append, readFrom_cons, step_ascii (hlow o rfl) h]; rfl
  | cons a x ih =>
    rw [List.cons_append, readFrom_cons, readFrom_cons, ih (low_of_step state a.toNat),
      List.append_assoc]

end Ascii

section Newline

variable (x y : Bytes)

theorem read_append_newline : read (x ++ 0x0A :: y) = read x ++ some '\n' :: read y :=
  readFrom_append_ascii (by decide) (by simp) x y

theorem decodeLenient_append_newline :
    decodeLenient (x ++ 0x0A :: y) = decodeLenient x ++ '\n' :: decodeLenient y := by
  simp only [decodeLenient, read_append_newline, List.map_append, List.map_cons, Option.getD_some]

theorem damaged_append_newline : Damaged (x ++ 0x0A :: y) ↔ Damaged x ∨ Damaged y := by
  simp [Damaged, read_append_newline]

end Newline

section Mark

variable (bytes : Bytes)

theorem read_behind_mark : read (byteOrderMark ++ bytes) = some '\ufeff' :: read bytes := rfl

theorem decodeLenient_behind_mark :
    decodeLenient (byteOrderMark ++ bytes) = '\ufeff' :: decodeLenient bytes := by
  rw [decodeLenient, read_behind_mark]
  rfl

theorem dropMark_behind_mark : dropMark (byteOrderMark ++ bytes) = bytes := by
  have hmark : byteOrderMark.isPrefixOf (byteOrderMark ++ bytes) = true :=
    List.isPrefixOf_iff_prefix.mpr (List.prefix_append _ _)
  rw [dropMark, if_pos hmark]
  exact List.drop_left' rfl

theorem dropMark_of_not_prefix {bytes : Bytes} (h : ¬ byteOrderMark <+: bytes) :
    dropMark bytes = bytes := by
  rw [dropMark, if_neg fun hmark => h (List.isPrefixOf_iff_prefix.mp hmark)]

end Mark

end Thesaurus.Utf8
