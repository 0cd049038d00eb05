import Mathlib.Data.List.Chain
import Thesaurus.Unicode.Decomposition
import Thesaurus.Unicode.Lowercase

/-!
# Looking up by halves

A table is walked from its front, so what stands late in it costs many steps. Where all entries of
one table are looked up in another, that one is cut into halves first. Main fact: a search through
the halves of a sorted table gives what the walk gives (`search_halve`). The decompositions and the
small letters are read both ways (`image?_eq_searched`, `lowerImage?_eq_searched`).
-/

set_option autoImplicit false
set_option maxRecDepth 10000

namespace Thesaurus.Unicode

/-- A table cut into halves again and again; a leaf holds what is left uncut. -/
inductive Halves (α : Type) where
  | leaf (rest : List α)
  | node (left : Halves α) (middle : α) (right : Halves α)

def Halves.ofList {α : Type} : Nat → List α → Halves α
  | 0, l => .leaf l
  | depth + 1, l =>
    match l.drop (l.length / 2) with
    | [] => .leaf l
    | x :: behind => .node (ofList depth (l.take (l.length / 2))) x (ofList depth behind)

/-- As deep as is needed to leave nothing uncut. -/
def halve {α : Type} (l : List α) : Halves α := .ofList (l.length.log2 + 1) l

/-- How a table is read: an entry answers for code points from its first one on, up to its end. -/
structure Reading (α β : Type) where
  first : α → Nat
  stop : α → Nat
  answer : α → Nat → Option β
  answer_eq_none : ∀ x n, stop x ≤ n → answer x n = none

namespace Reading

variable {α β : Type} (r : Reading α β)

def walk (n : Nat) : List α → Option β
  | [] => none
  | x :: rest =>
    if n < r.first x then none
    else
      match r.answer x n with
      | some y => some y
      | none => walk n rest

def search (n : Nat) : Halves α → Option β
  | .leaf rest => r.walk n rest
  | .node left x right =>
    if n < r.first x then search n left
    else if n < r.stop x then r.answer x n
    else search n right

/-- The entries stand in order and do not overlap. -/
def Sorted (table : List α) : Prop :=
  table.IsChain fun x y => r.first x ≤ r.stop x ∧ r.stop x ≤ r.first y

instance (table : List α) : Decidable (r.Sorted table) :=
  inferInstanceAs (Decidable (table.IsChain _))

variable {r}

theorem Sorted.pairwise {table : List α} (h : r.Sorted table) :
    table.Pairwise fun x y => r.first x ≤ r.stop x ∧ r.stop x ≤ r.first y := by
  have htrans : IsTrans α fun x y => r.first x ≤ r.stop x ∧ r.stop x ≤ r.first y :=
    ⟨fun x y z hxy hyz => ⟨hxy.1, by omega⟩⟩
  exact List.isChain_iff_pairwise.mp h

theorem walk_cons (n : Nat) (x : α) (rest : List α) :
    r.walk n (x :: rest) =
      if n < r.first x then none
      else
        match r.answer x n with
        | some y => some y
        | none => r.walk n rest :=
  rfl

theorem walk_of_lt {n : Nat} {table : List α} (h : ∀ x ∈ table.head?, n < r.first x) :
    r.walk n table = none := by
  cases table with
  | nil => rfl
  | cons x rest => rw [walk_cons, if_pos (h x rfl)]

theorem walk_cons_of_stop_le {n : Nat} {x : α} (hfirst : r.first x ≤ n) (hstop : r.stop x ≤ n)
    (rest : List α) : r.walk n (x :: rest) = r.walk n rest := by
  rw [walk_cons, if_neg (by omega), r.answer_eq_none x n hstop]

/-- One entry of a sorted table tells on which side of it a code point has to be looked for. -/
theorem walk_append_cons {l m : List α} {x : α} (h : r.Sorted (l ++ x :: m)) (n : Nat) :
    r.walk n (l ++ x :: m) =
      if n < r.first x then r.walk n l
      else if n < r.stop x then r.answer x n
      else r.walk n m := by
  induction l with
  | nil =>
    rw [List.nil_append, walk_cons]
    split_ifs with hfirst hstop
    · rfl
    · have hm : r.walk n m = none := by
        refine walk_of_lt fun y hy => ?_
        have hxy := (List.isChain_cons.mp h).1 y hy
        omega
      cases r.answer x n with
      | none => exact hm
      | some y => rfl
    · rw [r.answer_eq_none x n (by omega)]
  | cons y l ih =>
    obtain ⟨hy, hyx⟩ := List.rel_of_pairwise_cons h.pairwise
      (List.mem_append_right l List.mem_cons_self)
    rw [List.cons_append]
    by_cases hx : n < r.first x
    · rw [walk_cons, ih h.tail, if_pos hx, if_pos hx, walk_cons]
    · rw [walk_cons_of_stop_le (by omega) (by omega), ih h.tail, if_neg hx, if_neg hx]

theorem search_ofList {table : List α} (h : r.Sorted table) (depth n : Nat) :
    r.search n (.ofList depth table) = r.walk n table := by
  induction depth generalizing table with
  | zero => rfl
  | succ depth ih =>
    rw [Halves.ofList]
    cases hbehind : table.drop (table.length / 2) with
    | nil => rfl
    | cons x behind =>
      have htable : table.take (table.length / 2) ++ x :: behind = table := by
        rw [← hbehind, List.take_append_drop]
      have hsorted := htable ▸ h
      have hleft : r.Sorted (table.take (table.length / 2)) := hsorted.left_of_append
      have hright : r.Sorted behind := hsorted.right_of_append.tail
      rw [search, ih hleft, ih hright, ← walk_append_cons hsorted, htable]

theorem search_halve {table : List α} (h : r.Sorted table) (n : Nat) :
    r.search n (halve table) = r.walk n table :=
  search_ofList h _ n

end Reading

/-- Blocks, read for images. -/
def blockReading : Reading Block (List Nat) where
  first block := block.1
  stop block := block.1 + block.2.length
  answer block n := block.2[n - block.1]?
  answer_eq_none block n h := List.getElem?_eq_none (by omega)

theorem blockImage?_eq_walk (n : Nat) (table : List Block) :
    blockImage? n table = blockReading.walk n table := by
  induction table with
  | nil => rfl
  | cons block rest ih =>
    rw [blockImage?, Reading.walk_cons, ih]
    cases hget : block.2[n - block.1]? <;> simp only [blockReading, hget]

/-- Runs of capitals, read for small letters. -/
def runReading : Reading CaseRun Nat where
  first run := run.first
  stop run := run.last + 1
  answer run n :=
    if n ≤ run.last ∧ (n - run.first) % run.step = 0 then some (run.image + (n - run.first))
    else none
  answer_eq_none run n h := if_neg (by omega)

theorem lowerImage?_eq_walk {table : List CaseRun} (h : runReading.Sorted table) (n : Nat) :
    lowerImage? n table = runReading.walk n table := by
  induction table with
  | nil => rfl
  | cons run rest ih =>
    rw [lowerImage?, ih h.tail]
    by_cases hlast : n ≤ run.last
    · -- A small letter between the capitals of a run ends one walk, and the other one entry later.
      have hrest : runReading.walk n rest = none := by
        refine Reading.walk_of_lt fun run' hrun' => ?_
        have hstop : run.last + 1 ≤ run'.first := ((List.isChain_cons.mp h).1 run' hrun').2
        exact Nat.lt_of_lt_of_le (Nat.lt_succ_of_le hlast) hstop
      rw [Reading.walk_cons, hrest, if_pos hlast]
      simp only [runReading, hlast, true_and]
      split_ifs <;> rfl
    · by_cases hfirst : n < run.first
      · rw [if_pos hfirst, Reading.walk_cons]
        exact (if_pos hfirst).symm
      · rw [if_neg hfirst, if_neg hlast, Reading.walk_cons_of_stop_le (Nat.not_lt.mp hfirst)
          (Nat.not_le.mp hlast)]

namespace Decomposition

/-- What `image?` gives, looked up by halves. -/
def searched (n : Nat) : Option (List Nat) :=
  if n < 0x2000 then blockReading.search n (halve letters)
  else if n < 0x3000 then blockReading.search n (halve symbols)
  else if n < 0xFB00 then
    if Hangul.isSyllable n then some (Hangul.letters n)
    else blockReading.search n (halve eastAsian)
  else if n < 0x10000 then blockReading.search n (halve presentation)
  else blockReading.search n (halve supplementary)

theorem sorted_tables : blockReading.Sorted letters ∧ blockReading.Sorted symbols ∧
    blockReading.Sorted eastAsian ∧ blockReading.Sorted presentation ∧
    blockReading.Sorted supplementary := by
  decide +kernel

theorem image?_eq_searched (n : Nat) : image? n = searched n := by
  simp only [image?, searched, blockImage?_eq_walk, Reading.search_halve, sorted_tables]

end Decomposition

theorem sorted_lowerRuns : runReading.Sorted lowerRuns := by decide +kernel

theorem lowerImage?_eq_searched (n : Nat) :
    lowerImage? n lowerRuns = runReading.search n (halve lowerRuns) := by
  rw [Reading.search_halve sorted_lowerRuns, lowerImage?_eq_walk sorted_lowerRuns]

end Thesaurus.Unicode
