import Thesaurus.Json.Writer
import Thesaurus.Proofs.OrderedMap

/-!
# Sorted members

An object whose members are sorted by name has the same members. Main facts: `sortMembers_object`,
and `sortMembers_mapValues` for an object whose names are the keys of a map.
-/

set_option autoImplicit false

namespace Thesaurus

namespace Json

theorem sortItems_eq_map (items : List Json) : sortItems items = items.map sortMembers := by
  induction items with
  | nil => rfl
  | cons item items ih => rw [sortItems, ih, List.map_cons]

theorem sortValues_eq_map (members : List (Text × Json)) :
    sortValues members = members.map fun member => (member.1, member.2.sortMembers) := by
  induction members with
  | nil => rfl
  | cons member members ih => rw [sortValues, ih, List.map_cons]

theorem sortMembers_array (items : List Json) :
    (Json.array items).sortMembers = .array (items.map sortMembers) := by
  rw [sortMembers, sortItems_eq_map]

/-- Entries are sorted by their names, whatever stands under them. -/
theorem map_sort_entries {α β : Type} (f : α → β) (entries : List (Text × α)) :
    (entries.mergeSort fun a b => nameLe a.1 b.1).map (fun entry => (entry.1, f entry.2)) =
      (entries.map fun entry => (entry.1, f entry.2)).mergeSort fun a b => nameLe a.1 b.1 :=
  List.map_mergeSort fun _ _ _ _ => rfl

theorem sortMembers_object (members : List (Text × Json)) :
    (Json.object members).sortMembers =
      .object ((members.mergeSort fun a b => nameLe a.1 b.1).map
        fun member => (member.1, member.2.sortMembers)) := by
  rw [sortMembers, sortValues_eq_map, map_sort_entries]

theorem sortMembers_pair {a b : Text} (x y : Json) :
    (Json.object [(a, x), (b, y)]).sortMembers =
      .object (if nameLe a b then [(a, x.sortMembers), (b, y.sortMembers)]
        else [(b, y.sortMembers), (a, x.sortMembers)]) := by
  rw [sortMembers_object]
  by_cases h : nameLe a b <;> simp [List.mergeSort, List.MergeSort.Internal.splitInTwo, h]

end Json

namespace OrderedMap

variable {α : Type}

/-- The same map with its keys in the order of names. -/
def byName (m : OrderedMap Text α) : OrderedMap Text α where
  entries := m.entries.mergeSort fun a b => Json.nameLe a.1 b.1
  nodup := ((List.mergeSort_perm _ _).map Prod.fst).nodup_iff.mpr m.nodup

theorem byName_perm (m : OrderedMap Text α) : m.byName.entries.Perm m.entries :=
  List.mergeSort_perm _ _

theorem sortMembers_mapValues (m : OrderedMap Text α) (f : α → Json) :
    (Json.object (m.mapValues f).entries).sortMembers =
      .object (m.byName.mapValues fun v => (f v).sortMembers).entries := by
  rw [Json.sortMembers_object, mapValues, mapValues, byName]
  dsimp only
  rw [← Json.map_sort_entries, List.map_map]
  rfl

end OrderedMap

end Thesaurus
