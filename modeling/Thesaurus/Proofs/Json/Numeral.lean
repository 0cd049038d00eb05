import Mathlib.Data.List.TakeWhile
import Thesaurus.Proofs.Json.Tokens

/-!
# Numerals

Integers are written without leading zeros, with a sign if they are negative. Main facts:
`fits_ofInt` says that they are read as numbers, `ofInt_injective` that they are told apart.
-/

set_option autoImplicit false

namespace Thesaurus

open Json

namespace Text

theorem isDigit_of_mem_ofNat {n : Nat} {c : Char} (h : c ∈ ofNat n) : Json.isDigit c = true := by
  have hdigit : c.isDigit = true := Nat.isDigit_of_mem_toDigits (by decide) (by decide) h
  rw [Char.isDigit] at hdigit
  exact hdigit

theorem head?_ofNat {n : Nat} (h : 0 < n) : (ofNat n).head? ≠ some '0' := by
  induction n using Nat.strongRecOn with
  | ind n ih =>
    rw [ofNat, Nat.toDigits_eq_if (by decide)]
    split_ifs with hn
    · have hall : ∀ d < 10, 0 < d → [Nat.digitChar d].head? ≠ some '0' := by decide
      exact hall n hn h
    · rw [List.head?_append_of_ne_nil _ Nat.toDigits_ne_nil]
      exact ih (n / 10) (by omega) (by omega)

theorem ofNat_injective {m n : Nat} (h : ofNat m = ofNat n) : m = n := by
  have hvalue := congrArg (fun t => Nat.ofDigitChars 10 t 0) h
  simpa only [ofNat, Nat.ofDigitChars_ten_toDigits] using hvalue

end Text

namespace Json

open Text

variable {limit : Nat} {whole : Text}

theorem isWordChar_of_isDigit {c : Char} (h : isDigit c = true) : isWordChar c = true := by
  have hall : ∀ k < 10, isWordChar (Char.ofNat (48 + k)) = true := by decide
  have hcode : 48 ≤ c.toNat ∧ c.toNat ≤ 57 := by
    simpa [isDigit, Char.le_def, UInt32.le_iff_toNat_le] using h
  have hc := hall (c.toNat - 48) (by omega)
  rwa [Nat.add_sub_cancel' hcode.1, Char.ofNat_toNat] at hc

section Digits

variable (hne : whole ≠ []) (hdigits : ∀ c ∈ whole, isDigit c = true)
  (hzero : whole.head? ≠ some '0' ∨ whole.length = 1) (hlength : whole.length ≤ limit)

include hne hdigits hzero hlength

theorem isNumber_neg : isNumber limit ('-' :: whole) = true := by
  have htake : whole.takeWhile isDigit = whole := List.takeWhile_eq_self_iff.mpr hdigits
  have hdrop : whole.dropWhile isDigit = [] := List.dropWhile_eq_nil_iff.mpr hdigits
  rw [isNumber]
  simp only [htake, hdrop]
  simpa [hne, hlength] using hzero

theorem isNumber_of_digits : isNumber limit whole = true := by
  obtain ⟨c, rest, rfl⟩ := List.exists_cons_of_ne_nil hne
  have hc : c ≠ '-' := by
    rintro rfl
    exact absurd (hdigits '-' List.mem_cons_self) (by decide)
  rw [← isNumber_neg hne hdigits hzero hlength]
  simp only [isNumber]
  split
  · next heq => exact absurd (List.cons.inj heq).1 hc
  · rfl

end Digits

theorem ofWord?_of_isNumber {t : Text} (h : isNumber limit t = true) :
    ofWord? limit t = some (.number t) := by
  have hne (w : String) (hw : ∀ n, isNumber n w = false) : t ≠ w.toList := by
    rintro rfl
    rw [hw] at h
    exact absurd h nofun
  rw [ofWord?, if_neg (hne "null" fun _ => rfl), if_neg (hne "true" fun _ => rfl),
    if_neg (hne "false" fun _ => rfl), h]
  simp

theorem fits_ofInt {n : Int} (h : (ofNat n.natAbs).length ≤ limit) (room : Nat) :
    Fits limit room (ofInt n) := by
  have hne : ofNat n.natAbs ≠ [] := Nat.toDigits_ne_nil
  have hdigits : ∀ c ∈ ofNat n.natAbs, isDigit c = true := fun c => isDigit_of_mem_ofNat
  have hzero : (ofNat n.natAbs).head? ≠ some '0' ∨ (ofNat n.natAbs).length = 1 := by
    obtain hn | hn := Nat.eq_zero_or_pos n.natAbs
    · right
      rw [hn]
      rfl
    · exact .inl (head?_ofNat hn)
  have hword : ∀ c ∈ ofNat n.natAbs, isWordChar c = true :=
    fun c hc => isWordChar_of_isDigit (hdigits c hc)
  rw [ofInt]
  split_ifs
  · exact .number ⟨List.cons_ne_nil _ _, List.forall_mem_cons.mpr ⟨rfl, hword⟩,
      ofWord?_of_isNumber (isNumber_neg hne hdigits hzero h)⟩
  · exact .number ⟨hne, hword, ofWord?_of_isNumber (isNumber_of_digits hne hdigits hzero h)⟩

theorem ofInt_injective {m n : Int} (h : ofInt m = ofInt n) : m = n := by
  have hsign (k : Nat) (t : Text) : '-' :: t ≠ ofNat k := by
    intro heq
    have hmem : '-' ∈ ofNat k := heq ▸ List.mem_cons_self
    exact absurd (isDigit_of_mem_ofNat hmem) (by decide)
  rw [ofInt, ofInt] at h
  have hliteral := Json.number.inj h
  split_ifs at hliteral with hm hn hn
  · have habs := ofNat_injective (List.cons.inj hliteral).2
    omega
  · exact absurd hliteral (hsign _ _)
  · exact absurd hliteral.symm (hsign _ _)
  · have habs := ofNat_injective hliteral
    omega

end Json

end Thesaurus
