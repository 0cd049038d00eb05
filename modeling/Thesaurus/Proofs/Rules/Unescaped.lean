import Thesaurus.Proofs.Text.Occurrence
import Thesaurus.Rules.Group

/-!
# Rules without escapes

Where a line holds no backslash its groups and their terms are what stands between the delimiters,
and nothing has to be taken away from them but blanks. Main fact: `split_where_unescaped`, which is
about delimiters of any length.
-/

set_option autoImplicit false

namespace Thesaurus.Rules

open Text

/-- The terms of a group without escapes are its parts as they stand, trimmed. -/
theorem terms_of_unescaped {group : Text} (h : '\\' ∉ group) :
    terms group =
      match (partsBetween termDelimiter group).filter (!·.isEmpty) with
      | [first, second] => .ok [first.trim, second.trim]
      | _ => .error (.notPair group) := by
  have hdelimiter : termDelimiter ≠ [] := List.cons_ne_nil _ _
  have hparts : (group.splitAt termDelimiter).map (fun part => part.unescape.trim) =
      (group.splitAt termDelimiter).map trim := by
    apply List.map_congr_left
    intro part hpart
    have hwithin : part <:+: group := (of_mem_splitAt hdelimiter hpart).2.1
    rw [unescape_of_unescaped fun hmem => h (hwithin.subset hmem)]
  rw [terms, hparts, splitAt_of_unescaped hdelimiter h]
  generalize (partsBetween termDelimiter group).filter (!·.isEmpty) = parts
  match parts with
  | [] => rfl
  | [_] => rfl
  | [_, _] => rfl
  | _ :: _ :: _ :: _ => simp

/-- Where nothing is escaped, splitting cuts a text at the first place of the delimiter and each time
at the first place behind that, and leaves empty parts out; no escape is taken away; and the terms
of a group are what stands between its commas, trimmed. -/
theorem split_where_unescaped {d t : Text} (hd : d ≠ []) (ht : '\\' ∉ t) :
    join d (partsBetween d t) = t ∧
    t.split d = .ok ((partsBetween d t).filter (!·.isEmpty)) ∧
    t.unescape = t ∧
    terms t =
      match (partsBetween termDelimiter t).filter (!·.isEmpty) with
      | [first, second] => .ok [first.trim, second.trim]
      | _ => .error (.notPair t) := by
  refine ⟨join_partsBetween d t, ?_, unescape_of_unescaped ht, terms_of_unescaped ht⟩
  rw [split, if_neg (by simpa using hd), splitAt_of_unescaped hd ht]

theorem split_where_unescaped_overlapping :
    let d : Text := "aba"
    let t : Text := "ababa,, abab aba"
    let parts : List Text := ["", "ba,, ", "b ", ""]
    d ≠ [] ∧ '\\' ∉ t ∧ partsBetween d t = parts ∧ t.split d = .ok ["ba,, ", "b "] ∧
      t.unescape = t ∧ terms t = .ok ["ababa", "abab aba"] := by
  intro d t parts
  have hd : d ≠ [] := by decide
  have ht : '\\' ∉ t := by decide
  have hparts : partsBetween d t = parts := by decide +kernel
  have hcommas : partsBetween termDelimiter t = (["ababa", "", " abab aba"] : List Text) := by
    decide +kernel
  obtain ⟨-, hsplit, hunescape, hterms⟩ := split_where_unescaped hd ht
  rw [hparts] at hsplit
  rw [hcommas] at hterms
  exact ⟨hd, ht, hparts, hsplit.trans (by decide), hunescape, hterms.trans (by decide)⟩

end Thesaurus.Rules
