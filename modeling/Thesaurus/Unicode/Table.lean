/-!
# Tables over code points

Properties of characters are given as sorted lists of ranges, mappings as sorted lists of blocks of
neighbours. A look-up stops at the first entry that lies beyond the code point; what it finds
stands in the table (`mem_of_inRanges`, `mem_of_rangeValue?`, `mem_of_blockImage?`).
-/

set_option autoImplicit false

namespace Thesaurus.Unicode

/-- Whether a code point lies in one of the ranges `(first, last)`. -/
def inRanges (n : Nat) : List (Nat × Nat) → Bool
  | [] => false
  | (first, last) :: rest => if n < first then false else n ≤ last || inRanges n rest

/-- The value of the range `(first, last, value)` that holds a code point. -/
def rangeValue? (n : Nat) : List (Nat × Nat × Nat) → Option Nat
  | [] => none
  | (first, last, value) :: rest =>
    if n < first then none else if n ≤ last then some value else rangeValue? n rest

/-- Images of neighbouring code points, from the first one on. -/
abbrev Block := Nat × List (List Nat)

def blockImage? (n : Nat) : List Block → Option (List Nat)
  | [] => none
  | (first, images) :: rest =>
    if n < first then none
    else
      match images[n - first]? with
      | some image => some image
      | none => blockImage? n rest

theorem mem_of_inRanges {n : Nat} {table : List (Nat × Nat)} (h : inRanges n table = true) :
    ∃ r ∈ table, r.1 ≤ n ∧ n ≤ r.2 := by
  induction table with
  | nil => simp [inRanges] at h
  | cons r rest ih => grind [inRanges]

theorem mem_of_rangeValue? {n value : Nat} {table : List (Nat × Nat × Nat)}
    (h : rangeValue? n table = some value) : ∃ r ∈ table, r.1 ≤ n ∧ n ≤ r.2.1 ∧ r.2.2 = value := by
  induction table with
  | nil => simp [rangeValue?] at h
  | cons r rest ih => grind [rangeValue?]

theorem mem_of_blockImage? {n : Nat} {image : List Nat} {table : List Block}
    (h : blockImage? n table = some image) :
    ∃ block ∈ table, block.1 ≤ n ∧ block.2[n - block.1]? = some image := by
  induction table with
  | nil => simp [blockImage?] at h
  | cons block rest ih => grind [blockImage?]

end Thesaurus.Unicode
