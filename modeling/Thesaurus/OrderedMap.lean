/-!
# Ordered maps

A map that keeps its keys in the order in which they first came. A change to a key that is
present leaves the key in its place. Main facts: `keys_alter` gives the keys after a change and
`get?_alter` what is found under every key.
-/

set_option autoImplicit false

namespace Thesaurus

/-- Entries with pairwise distinct keys, in order of their first arrival. -/
structure OrderedMap (κ α : Type) where
  entries : List (κ × α)
  nodup : (entries.map Prod.fst).Nodup

namespace OrderedMap

variable {κ α β : Type}

instance [DecidableEq κ] [DecidableEq α] : DecidableEq (OrderedMap κ α) := fun m n =>
  decidable_of_iff (m.entries = n.entries) <| by
    cases m; cases n; simp

def empty : OrderedMap κ α := ⟨[], List.nodup_nil⟩

instance : EmptyCollection (OrderedMap κ α) := ⟨empty⟩

instance : Inhabited (OrderedMap κ α) := ⟨empty⟩

def keys (m : OrderedMap κ α) : List κ := m.entries.map Prod.fst

def values (m : OrderedMap κ α) : List α := m.entries.map Prod.snd

def size (m : OrderedMap κ α) : Nat := m.entries.length

/-- What the values weigh together. -/
def total (weight : α → Nat) (m : OrderedMap κ α) : Nat :=
  m.values.foldr (fun v n => weight v + n) 0

/-- The same keys with changed values. -/
def mapValues (f : α → β) (m : OrderedMap κ α) : OrderedMap κ β where
  entries := m.entries.map fun entry => (entry.1, f entry.2)
  nodup := by simpa [Function.comp_def] using m.nodup

variable [DecidableEq κ]

def lookup (k : κ) : List (κ × α) → Option α
  | [] => none
  | (k', v) :: rest => if k' = k then some v else lookup k rest

/-- Replaces the value under `k`, or adds one at the end, by `f` of what was there. -/
def alterEntries (f : Option α → α) (k : κ) : List (κ × α) → List (κ × α)
  | [] => [(k, f none)]
  | (k', v) :: rest =>
    if k' = k then (k', f (some v)) :: rest else (k', v) :: alterEntries f k rest

theorem map_fst_alterEntries (f : Option α → α) (k : κ) (entries : List (κ × α)) :
    (alterEntries f k entries).map Prod.fst =
      if k ∈ entries.map Prod.fst then entries.map Prod.fst
      else entries.map Prod.fst ++ [k] := by
  induction entries with
  | nil => simp [alterEntries]
  | cons entry rest ih =>
    obtain ⟨k', v⟩ := entry
    by_cases h : k' = k
    · simp [alterEntries, h]
    · have h' : ¬ k = k' := fun e => h e.symm
      by_cases hk : k ∈ rest.map Prod.fst
      · rw [if_pos hk] at ih
        rw [alterEntries, if_neg h, List.map_cons, ih, if_pos (by rw [List.map_cons]; grind)]
        rfl
      · rw [if_neg hk] at ih
        rw [alterEntries, if_neg h, List.map_cons, ih, if_neg (by rw [List.map_cons]; grind)]
        rfl

theorem lookup_alterEntries (f : Option α → α) (k j : κ) (entries : List (κ × α)) :
    lookup j (alterEntries f k entries) =
      if j = k then some (f (lookup k entries)) else lookup j entries := by
  induction entries with
  | nil => grind [alterEntries, lookup]
  | cons entry rest ih => grind [alterEntries, lookup]

def get? (m : OrderedMap κ α) (k : κ) : Option α := lookup k m.entries

def contains (m : OrderedMap κ α) (k : κ) : Bool := (m.get? k).isSome

def alter (f : Option α → α) (k : κ) (m : OrderedMap κ α) : OrderedMap κ α where
  entries := alterEntries f k m.entries
  nodup := by
    rw [map_fst_alterEntries]
    by_cases h : k ∈ m.entries.map Prod.fst
    · rw [if_pos h]; exact m.nodup
    · rw [if_neg h, List.nodup_append]
      exact ⟨m.nodup, by simp, by grind⟩

def insert (k : κ) (v : α) (m : OrderedMap κ α) : OrderedMap κ α := m.alter (fun _ => v) k

/-- The map of a list of pairs: the first place of a key counts, and its last value. -/
def ofList (entries : List (κ × α)) : OrderedMap κ α :=
  entries.foldl (fun m entry => m.insert entry.1 entry.2) ∅

theorem keys_alter (f : Option α → α) (k : κ) (m : OrderedMap κ α) :
    (m.alter f k).keys = if k ∈ m.keys then m.keys else m.keys ++ [k] :=
  map_fst_alterEntries f k m.entries

theorem get?_alter (f : Option α → α) (k j : κ) (m : OrderedMap κ α) :
    (m.alter f k).get? j = if j = k then some (f (m.get? k)) else m.get? j :=
  lookup_alterEntries f k j m.entries

end OrderedMap

end Thesaurus
