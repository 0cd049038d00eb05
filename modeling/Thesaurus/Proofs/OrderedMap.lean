import Mathlib.Data.List.Induction
import Mathlib.Data.List.Nodup
import Thesaurus.OrderedMap

/-!
# Ordered maps by their keys

An ordered map is its keys, in order, and what is found under them (`ext_get?`). Main facts:
`alter_tabulate` says that a change to a table of values is the table with one more key, and
`total_alter` how the total of the values moves.
-/

set_option autoImplicit false

namespace Thesaurus

variable {κ α : Type} [DecidableEq κ]

/-- The elements of a list in order of their first occurrence. -/
def firsts (l : List κ) : List κ := l.eraseDups

@[simp] theorem mem_firsts {x : κ} {l : List κ} : x ∈ firsts l ↔ x ∈ l := List.mem_eraseDups

theorem firsts_concat (l : List κ) (x : κ) :
    firsts (l ++ [x]) = if x ∈ l then firsts l else firsts l ++ [x] := by
  rw [firsts, List.eraseDups_append, firsts]
  by_cases h : x ∈ l
  · rw [if_pos h, List.removeAll, List.filter_cons_of_neg (by simpa using h)]
    simp
  · rw [if_neg h, List.removeAll, List.filter_cons_of_pos (by simpa using h)]
    rfl

theorem nodup_firsts (l : List κ) : (firsts l).Nodup := by
  induction l using List.reverseRecOn with
  | nil => exact List.nodup_nil
  | append_singleton l x ih =>
    rw [firsts_concat]
    split_ifs with h
    · exact ih
    · refine List.nodup_append.mpr ⟨ih, List.nodup_singleton x, ?_⟩
      rintro a ha b hb rfl
      rw [List.mem_singleton.mp hb] at ha
      exact h (mem_firsts.mp ha)

theorem firsts_append_self (l : List κ) : firsts (l ++ l) = firsts l := by
  have hall (m : List κ) (h : m ⊆ l) : firsts (l ++ m) = firsts l := by
    induction m using List.reverseRecOn with
    | nil => rw [List.append_nil]
    | append_singleton m x ih =>
      obtain ⟨hm, hx⟩ := List.append_subset.mp h
      rw [← List.append_assoc, firsts_concat, ih hm,
        if_pos (List.mem_append_left _ (hx (List.mem_singleton_self x)))]
  exact hall l (List.Subset.refl l)

theorem length_firsts_le (l : List κ) : (firsts l).length ≤ l.length := by
  induction l using List.reverseRecOn with
  | nil => exact Nat.le_refl 0
  | append_singleton l x ih =>
    rw [firsts_concat, List.length_append]
    split_ifs
    · omega
    · simpa using ih

namespace OrderedMap

/-- The keys of a list in order of first occurrence, each with the value that `g` gives it. -/
def tabulate (g : κ → α) (l : List κ) : OrderedMap κ α where
  entries := (firsts l).map fun k => (k, g k)
  nodup := by simpa [Function.comp_def] using nodup_firsts l

theorem keys_tabulate (g : κ → α) (l : List κ) : (tabulate g l).keys = firsts l := by
  simp [keys, tabulate, Function.comp_def]

theorem lookup_map (g : κ → α) (j : κ) (ks : List κ) :
    lookup j (ks.map fun k => (k, g k)) = if j ∈ ks then some (g j) else none := by
  induction ks with
  | nil => rfl
  | cons k ks ih =>
    rw [List.map_cons, lookup, ih]
    by_cases h : k = j
    · simp [h]
    · simp [h, Ne.symm h]

theorem get?_tabulate (g : κ → α) (l : List κ) (j : κ) :
    (tabulate g l).get? j = if j ∈ l then some (g j) else none := by
  rw [get?, tabulate, lookup_map]
  simp only [mem_firsts]

theorem mapValues_tabulate {β : Type} (f : α → β) (g : κ → α) (l : List κ) :
    (tabulate g l).mapValues f = tabulate (fun k => f (g k)) l := by
  simp only [mapValues, tabulate, List.map_map]
  rfl

theorem lookup_eq_some_of_mem {k : κ} {v : α} {entries : List (κ × α)}
    (hnodup : (entries.map Prod.fst).Nodup) (h : (k, v) ∈ entries) :
    lookup k entries = some v := by
  induction entries with
  | nil => simp at h
  | cons entry rest ih =>
    obtain ⟨k', v'⟩ := entry
    rw [List.map_cons, List.nodup_cons] at hnodup
    rcases List.mem_cons.mp h with heq | hmem
    · obtain ⟨rfl, rfl⟩ := Prod.mk.inj heq
      simp [lookup]
    · have hk : k ∈ rest.map Prod.fst := List.mem_map_of_mem hmem
      have hne : ¬ k' = k := fun e => hnodup.1 (e ▸ hk)
      rw [lookup, if_neg hne]
      exact ih hnodup.2 hmem

theorem mem_of_lookup {k : κ} {v : α} {entries : List (κ × α)} (h : lookup k entries = some v) :
    (k, v) ∈ entries := by
  induction entries with
  | nil => exact absurd h nofun
  | cons entry rest ih =>
    rw [lookup] at h
    split_ifs at h with hk
    · rw [← hk, ← Option.some.inj h]
      exact List.mem_cons_self
    · exact List.mem_cons_of_mem _ (ih h)

theorem get?_eq_some_iff {m : OrderedMap κ α} {k : κ} {v : α} :
    m.get? k = some v ↔ (k, v) ∈ m.entries :=
  ⟨mem_of_lookup, lookup_eq_some_of_mem m.nodup⟩

theorem entries_eq_map (m : OrderedMap κ α) :
    m.entries.map (fun entry => (entry.1, some entry.2)) = m.keys.map fun k => (k, m.get? k) := by
  rw [keys, List.map_map]
  apply List.map_congr_left
  intro entry hentry
  rw [Function.comp_apply, get?, lookup_eq_some_of_mem m.nodup hentry]

omit [DecidableEq κ] in
theorem ext_entries {m n : OrderedMap κ α} (h : m.entries = n.entries) : m = n := by
  cases m
  cases n
  cases h
  rfl

theorem ext_get? {m n : OrderedMap κ α} (hkeys : m.keys = n.keys)
    (hget : ∀ k, m.get? k = n.get? k) : m = n := by
  have hentries : m.entries.map (fun entry => (entry.1, some entry.2)) =
      n.entries.map fun entry => (entry.1, some entry.2) := by
    rw [entries_eq_map, entries_eq_map, hkeys]
    exact List.map_congr_left fun k _ => congrArg (Prod.mk k) (hget k)
  have hinj : Function.Injective fun entry : κ × α => (entry.1, some entry.2) := by
    rintro ⟨k, v⟩ ⟨k', v'⟩ h
    simpa using h
  exact ext_entries (List.map_injective_iff.mpr hinj hentries)

/-- A change to a table of values is the table of one key more, with another value there. -/
theorem alter_tabulate (f : Option α → α) (g g' : κ → α) (l : List κ) (k : κ)
    (hk : f (if k ∈ l then some (g k) else none) = g' k) (hne : ∀ j, j ≠ k → g j = g' j) :
    (tabulate g l).alter f k = tabulate g' (l ++ [k]) := by
  apply ext_get?
  · rw [keys_alter, keys_tabulate, keys_tabulate, firsts_concat]
    simp only [mem_firsts]
  · intro j
    rw [get?_alter, get?_tabulate, get?_tabulate, get?_tabulate]
    by_cases hj : j = k
    · subst hj
      simp [hk]
    · simp [hj, hne j hj]

/-- Two changes to the same key are one. -/
theorem alter_alter (f g : Option α → α) (k : κ) (m : OrderedMap κ α) :
    (m.alter f k).alter g k = m.alter (fun v => g (some (f v))) k := by
  apply ext_get?
  · have hmem : k ∈ (m.alter f k).keys := by
      rw [keys_alter]
      split_ifs with h
      · exact h
      · exact List.mem_append_right _ (List.mem_singleton_self k)
    rw [keys_alter, if_pos hmem, keys_alter, keys_alter]
  · intro j
    simp only [get?_alter]
    split_ifs <;> rfl

theorem alterEntries_of_not_mem (f : Option α → α) {k : κ} {entries : List (κ × α)}
    (h : k ∉ entries.map Prod.fst) : alterEntries f k entries = entries ++ [(k, f none)] := by
  induction entries with
  | nil => rfl
  | cons entry rest ih =>
    obtain ⟨hne, hrest⟩ := not_or.mp (mt List.mem_cons.mpr h)
    rw [alterEntries, if_neg (Ne.symm hne), ih hrest, List.cons_append]

theorem entries_ofList {entries : List (κ × α)} (h : (entries.map Prod.fst).Nodup) :
    (ofList entries).entries = entries := by
  induction entries using List.reverseRecOn with
  | nil => rfl
  | append_singleton entries entry ih =>
    rw [List.map_append, List.nodup_append] at h
    have hfresh : entry.1 ∉ entries.map Prod.fst :=
      fun hmem => h.2.2 entry.1 hmem entry.1 (List.mem_singleton_self _) rfl
    rw [ofList, List.foldl_append]
    change alterEntries (fun _ => entry.2) entry.1 (ofList entries).entries = _
    rw [ih h.1, alterEntries_of_not_mem _ hfresh]

theorem mem_alterEntries {k : κ} {v : α} {entries : List (κ × α)} {entry : κ × α}
    (h : entry ∈ alterEntries (fun _ => v) k entries) : entry ∈ entries ∨ entry = (k, v) := by
  induction entries with
  | nil => exact .inr (List.mem_singleton.mp h)
  | cons first rest ih =>
    rw [alterEntries] at h
    split_ifs at h with hk
    · exact (List.mem_cons.mp h).elim (fun heq => .inr (hk ▸ heq)) fun hrest =>
        .inl (List.mem_cons_of_mem _ hrest)
    · rcases List.mem_cons.mp h with rfl | hrest
      · exact .inl List.mem_cons_self
      · exact (ih hrest).imp_left (List.mem_cons_of_mem _)

theorem mem_of_mem_ofList {entries : List (κ × α)} {entry : κ × α}
    (h : entry ∈ (ofList entries).entries) : entry ∈ entries := by
  induction entries using List.reverseRecOn with
  | nil => exact h
  | append_singleton entries last ih =>
    rw [ofList, List.foldl_append] at h
    rcases mem_alterEntries h with hmem | rfl
    · exact List.mem_append_left _ (ih hmem)
    · exact List.mem_append_right _ (List.mem_singleton_self _)

theorem ofList_entries (m : OrderedMap κ α) : ofList m.entries = m :=
  ext_entries (entries_ofList m.nodup)

section Map

variable {κ' β : Type} [DecidableEq κ'] {f : κ → κ'} (hf : Function.Injective f) (g : α → β)

include hf

theorem alterEntries_map (k : κ) (v : α) (entries : List (κ × α)) :
    alterEntries (fun _ => g v) (f k) (entries.map (Prod.map f g)) =
      (alterEntries (fun _ => v) k entries).map (Prod.map f g) := by
  induction entries with
  | nil => rfl
  | cons entry rest ih =>
    rw [List.map_cons, Prod.map, alterEntries, alterEntries, ih]
    by_cases hk : entry.1 = k
    · rw [if_pos (congrArg f hk), if_pos hk, List.map_cons]
      rfl
    · rw [if_neg (hf.ne hk), if_neg hk, List.map_cons]
      rfl

/-- Keys that stay apart under `f` keep their places and values. -/
theorem entries_ofList_map (entries : List (κ × α)) :
    (ofList (entries.map (Prod.map f g))).entries =
      (ofList entries).entries.map (Prod.map f g) := by
  induction entries using List.reverseRecOn with
  | nil => rfl
  | append_singleton entries last ih =>
    rw [List.map_append, ofList, ofList, List.foldl_append, List.foldl_append]
    change alterEntries (fun _ => g last.2) (f last.1) (ofList (entries.map _)).entries = _
    rw [ih, alterEntries_map hf]
    rfl

end Map

theorem foldr_alterEntries (f : Option α → α) (w : α → Nat) (k : κ) (entries : List (κ × α)) :
    ((alterEntries f k entries).map Prod.snd).foldr (fun v n => w v + n) 0 +
        (lookup k entries).elim 0 w =
      (entries.map Prod.snd).foldr (fun v n => w v + n) 0 + w (f (lookup k entries)) := by
  induction entries with
  | nil => simp [alterEntries, lookup]
  | cons entry rest ih =>
    by_cases h : entry.1 = k
    · simp only [alterEntries, lookup, h, if_true, List.map_cons, List.foldr_cons, Option.elim_some]
      omega
    · simp only [alterEntries, lookup, h, if_false, List.map_cons, List.foldr_cons]
      omega

/-- A change to one key moves the total by what it does to the value there. -/
theorem total_alter (f : Option α → α) (w : α → Nat) (k : κ) (m : OrderedMap κ α) :
    (m.alter f k).total w + (m.get? k).elim 0 w = m.total w + w (f (m.get? k)) :=
  foldr_alterEntries f w k m.entries

end OrderedMap

end Thesaurus
