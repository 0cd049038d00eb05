import Thesaurus.Proofs.Encoding.Damage
import Thesaurus.Proofs.RuleFile.Load

/-!
# Damaged rule files

What is read of a file without a byte order mark is its bytes decoded leniently, and a warning tells
whether they are damaged. A line ends all damage, so files that are joined with a newline are read
as each of them alone (`read_joined_lines`). A mark in front of the bytes is left out, but only if
they are not damaged (`read_and_load_marked`): else it becomes a part of the first line.
-/

set_option autoImplicit false

namespace Thesaurus.RuleFile

open Rules Utf8

/-- What rule files may begin with to announce their encoding. -/
def byteOrderMarks : List Bytes := [byteOrderMark, [0xFF, 0xFE], [0xFE, 0xFF]]

/-- The bytes announce no encoding. -/
def Unmarked (bytes : Bytes) : Prop := ∀ mark ∈ byteOrderMarks, ¬ mark <+: bytes

instance : DecidablePred Unmarked := fun bytes =>
  inferInstanceAs (Decidable (∀ mark ∈ byteOrderMarks, ¬ mark <+: bytes))

/-- What is reported of a file that was read. -/
def replacements (replaced : Bool) (path : Path) : List Event :=
  if replaced then [.charactersReplaced path.text] else []

theorem replacements_inj {replaced replaced' : Bool} {path : Path} :
    replacements replaced path = replacements replaced' path ↔ replaced = replaced' := by
  cases replaced <;> cases replaced' <;> simp [replacements]

section Decode

variable {bytes : Bytes}

theorem marked?_of_unmarked (h : Unmarked bytes) : Utf16.marked? bytes = none := by
  unfold Utf16.marked?
  split
  · exact absurd (List.prefix_append [0xFF, 0xFE] _) (h _ (by decide))
  · exact absurd (List.prefix_append [0xFE, 0xFF] _) (h _ (by decide))
  · rfl

theorem decode_of_unmarked (h : Unmarked bytes) :
    decode bytes = some (decodeLenient bytes, decide (Damaged bytes)) := by
  rw [decode, marked?_of_unmarked h, dropMark_of_not_prefix (h _ (by decide)), decode?_eq]
  by_cases hdamaged : Damaged bytes <;> simp [hdamaged]

/-- The mark is left out by the strict decoder, and not by the lenient one. -/
theorem decode_behind_mark (bytes : Bytes) :
    decode (byteOrderMark ++ bytes) =
      some (if Damaged bytes then '\ufeff' :: decodeLenient bytes else decodeLenient bytes,
        decide (Damaged bytes)) := by
  have hmarked : Utf16.marked? (byteOrderMark ++ bytes) = none := rfl
  rw [decode, hmarked, dropMark_behind_mark, decode?_eq, decodeLenient_behind_mark]
  by_cases hdamaged : Damaged bytes <;> simp [hdamaged]

theorem prefix_of_append_newline {mark x y : Bytes} (hmark : 0x0A ∉ mark)
    (h : mark <+: x ++ 0x0A :: y) : mark <+: x := by
  induction x generalizing mark with
  | nil =>
    cases mark with
    | nil => exact List.nil_prefix
    | cons b mark =>
      have hb : b = 0x0A := (List.cons_prefix_cons.mp h).1
      exact absurd (hb ▸ List.mem_cons_self) hmark
  | cons a x ih =>
    cases mark with
    | nil => exact List.nil_prefix
    | cons b mark =>
      obtain ⟨hb, hrest⟩ := List.cons_prefix_cons.mp h
      exact List.cons_prefix_cons.mpr ⟨hb, ih (fun hmem => hmark (List.mem_cons_of_mem b hmem)) hrest⟩

theorem Unmarked.append_newline (h : Unmarked bytes) (y : Bytes) :
    Unmarked (bytes ++ 0x0A :: y) := by
  have hnone : ∀ mark ∈ byteOrderMarks, 0x0A ∉ mark := by decide
  exact fun mark hmark hprefix => h mark hmark (prefix_of_append_newline (hnone mark hmark) hprefix)

end Decode

section Read

variable {tree : FileTree} {path : Path} {bytes : Bytes}

theorem readText_of_unmarked (h : Unmarked bytes) (hread : tree.read path = .ok bytes) :
    (readText tree path).outcome =
      (.ok (decodeLenient bytes), replacements (decide (Damaged bytes)) path) :=
  readText_outcome hread (decode_of_unmarked h)

theorem readText_behind_mark (hread : tree.read path = .ok (byteOrderMark ++ bytes)) :
    (readText tree path).outcome =
      (.ok (if Damaged bytes then '\ufeff' :: decodeLenient bytes else decodeLenient bytes),
        replacements (decide (Damaged bytes)) path) :=
  readText_outcome hread (decode_behind_mark bytes)

end Read

/-- Two files joined by a newline are read as each of them alone, and it is reported that characters
had to be replaced if it is reported of one of them. -/
theorem read_joined_lines {tree₁ tree₂ tree : FileTree} {path₁ path₂ path : Path} {b₁ b₂ : Bytes}
    (h₁ : Unmarked b₁) (h₂ : Unmarked b₂) (hread₁ : tree₁.read path₁ = .ok b₁)
    (hread₂ : tree₂.read path₂ = .ok b₂) (hread : tree.read path = .ok (b₁ ++ 0x0A :: b₂)) :
    ∃ (t₁ t₂ : Text) (replaced₁ replaced₂ : Bool),
      (readText tree₁ path₁).outcome = (.ok t₁, replacements replaced₁ path₁) ∧
      (readText tree₂ path₂).outcome = (.ok t₂, replacements replaced₂ path₂) ∧
      (readText tree path).outcome =
        (.ok (t₁ ++ '\n' :: t₂), replacements (replaced₁ || replaced₂) path) := by
  refine ⟨_, _, _, _, readText_of_unmarked h₁ hread₁, readText_of_unmarked h₂ hread₂, ?_⟩
  rw [readText_of_unmarked (h₁.append_newline b₂) hread, decodeLenient_append_newline]
  simp only [damaged_append_newline, Bool.decide_or]

/-- The first file breaks off within a character, which the second would go on with. -/
theorem read_joined_lines_within_character :
    let tree : FileTree :=
      { workingDirectory := []
        files := ⟨[
          (["first"], [0x61, 0xE2, 0x82]), (["second"], [0x80, 0x62]),
          (["both"], [0x61, 0xE2, 0x82, 0x0A, 0x80, 0x62])], by decide⟩ }
    (readText tree (.ofText "first")).outcome =
      (.ok "a\ufffd", [.charactersReplaced "first"]) ∧
    (readText tree (.ofText "both")).outcome =
      (.ok "a\ufffd\n\ufffdb", [.charactersReplaced "both"]) := by
  intro tree
  have hread₁ : tree.read (.ofText "first") = .ok [0x61, 0xE2, 0x82] := by decide +kernel
  have hread₂ : tree.read (.ofText "second") = .ok [0x80, 0x62] := by decide +kernel
  have hread : tree.read (.ofText "both") = .ok ([0x61, 0xE2, 0x82] ++ 0x0A :: [0x80, 0x62]) := by
    decide +kernel
  have hfirst : (readText tree (.ofText "first")).outcome =
      (.ok "a\ufffd", replacements true (.ofText "first")) := by decide +kernel
  have hsecond : (readText tree (.ofText "second")).outcome =
      (.ok "\ufffdb", replacements true (.ofText "second")) := by decide +kernel
  obtain ⟨t₁, t₂, replaced₁, replaced₂, h₁, h₂, hboth⟩ :=
    read_joined_lines (by decide) (by decide) hread₁ hread₂ hread
  rw [hfirst] at h₁
  rw [hsecond] at h₂
  obtain ⟨ht₁, hreplaced⟩ := Prod.mk.inj h₁
  obtain ⟨ht₂, -⟩ := Prod.mk.inj h₂
  rw [← Except.ok.inj ht₁, ← Except.ok.inj ht₂, ← replacements_inj.mp hreplaced] at hboth
  exact ⟨hfirst, hboth⟩

/-- With a byte order mark of UTF-8 in front the same is read, and the same loaded, unless the bytes
are damaged. Then the mark is taken for a character of the first line. -/
theorem read_and_load_marked {tree tree' : FileTree} {path path' : Text} {bytes : Bytes}
    (h : Unmarked bytes) (hread : tree.read (.ofText path) = .ok bytes)
    (hread' : tree'.read (.ofText path') = .ok (byteOrderMark ++ bytes)) :
    ∃ t : Text,
      (readText tree (.ofText path)).outcome =
        (.ok t, replacements (decide (Damaged bytes)) (.ofText path)) ∧
      (readText tree' (.ofText path')).outcome =
        (.ok (if Damaged bytes then '\ufeff' :: t else t),
          replacements (decide (Damaged bytes)) (.ofText path')) ∧
      ∀ (p : Parser) (comment : Option Text),
        (load tree' path' p comment).outcome.1 =
          if Damaged bytes then
            (p.run (.items (contentLines comment ('\ufeff' :: t)) none)).mapError .parse
          else (load tree path p comment).outcome.1 := by
  have hplain := readText_of_unmarked h hread
  have hmarked := readText_behind_mark hread'
  refine ⟨_, hplain, hmarked, fun p comment => ?_⟩
  rw [outcome_load (congrArg Prod.fst hmarked)]
  split_ifs
  · rfl
  · rw [outcome_load (congrArg Prod.fst hplain)]

theorem read_and_load_marked_first_term :
    let tree : FileTree :=
      { workingDirectory := []
        files := ⟨[
          (["plain"], [0x61, 0x2C, 0x20, 0xE4]),
          (["marked"], [0xEF, 0xBB, 0xBF, 0x61, 0x2C, 0x20, 0xE4])], by decide⟩ }
    (readText tree (.ofText "plain")).outcome =
      (.ok "a, \ufffd", [.charactersReplaced "plain"]) ∧
    (readText tree (.ofText "marked")).outcome =
      (.ok "\ufeffa, \ufffd", [.charactersReplaced "marked"]) ∧
    (load tree "marked" {}).outcome.1 =
      .ok (Graph.ofEdges true
        [⟨["\ufeffa"], ["\ufeffa"], false⟩, ⟨["\ufffd"], ["\ufeffa"], false⟩]) := by
  intro tree
  have hread : tree.read (.ofText "plain") = .ok [0x61, 0x2C, 0x20, 0xE4] := by decide +kernel
  have hread' : tree.read (.ofText "marked") =
      .ok (byteOrderMark ++ [0x61, 0x2C, 0x20, 0xE4]) := by decide +kernel
  have hplain : (readText tree (.ofText "plain")).outcome =
      (.ok "a, \ufffd", [.charactersReplaced "plain"]) := by decide +kernel
  have hdamaged : Damaged [0x61, 0x2C, 0x20, 0xE4] := by decide
  obtain ⟨t, ht, hmarked, hload⟩ := read_and_load_marked (by decide) hread hread'
  rw [hplain] at ht
  obtain rfl := Except.ok.inj (congrArg Prod.fst ht)
  rw [if_pos hdamaged, decide_eq_true hdamaged] at hmarked
  refine ⟨hplain, hmarked, (hload {} defaultCommentMark).trans ?_⟩
  rw [if_pos hdamaged]
  decide +kernel

/-- A comment at the head of a damaged file is none any more behind a mark, and as a rule it is
refused. -/
theorem marked_and_plain_part :
    (¬ ∀ (tree tree' : FileTree) (path path' : Text) (bytes : Bytes), Unmarked bytes →
      tree.read (.ofText path) = .ok bytes →
      tree'.read (.ofText path') = .ok (byteOrderMark ++ bytes) →
      (readText tree' (.ofText path')).outcome.1 = (readText tree (.ofText path)).outcome.1) ∧
    ¬ ∀ (tree tree' : FileTree) (path path' : Text) (bytes : Bytes), Unmarked bytes →
      tree.read (.ofText path) = .ok bytes →
      tree'.read (.ofText path') = .ok (byteOrderMark ++ bytes) →
      (load tree' path' {}).outcome.1 = (load tree path {}).outcome.1 := by
  let bytes : Bytes := [0x23, 0x20, 0xE4, 0x0A, 0x61, 0x2C, 0x62]
  let tree : FileTree :=
    { workingDirectory := []
      files := ⟨[(["plain"], bytes), (["marked"], byteOrderMark ++ bytes)], by decide⟩ }
  have hunmarked : Unmarked bytes := by decide
  have hplain : tree.read (.ofText "plain") = .ok bytes := by decide +kernel
  have hmarked : tree.read (.ofText "marked") = .ok (byteOrderMark ++ bytes) := by decide +kernel
  constructor
  · intro h
    exact absurd (h tree tree "plain" "marked" bytes hunmarked hplain hmarked) (by decide +kernel)
  · intro h
    have hload := h tree tree "plain" "marked" bytes hunmarked hplain hmarked
    have hrefused : (load tree "marked" {}).outcome.1 =
        .error (.parse (.rule (.notPair "\ufeff# \ufffd"))) := by decide +kernel
    have haccepted : (load tree "plain" {}).outcome.1 =
        .ok (Graph.ofEdges true [⟨["a"], ["a"], false⟩, ⟨["b"], ["a"], false⟩]) := by
      decide +kernel
    rw [hrefused, haccepted] at hload
    exact absurd hload nofun

end Thesaurus.RuleFile
