import Thesaurus.Proofs.Text.Glyph
import Thesaurus.Rules.Group

/-!
# One reading of a rule line

A line is scanned for bars, each group for commas, and each term once more for its escapes. All
three agree with one reading of the line into glyphs: cutting it at the plain bars gives the groups
and cutting a group's stretch of it at the plain commas gives the terms.
-/

set_option autoImplicit false

namespace Thesaurus.Rules

open Text

/-- The stretches of a reading that are groups. -/
def groupRuns (l : List Glyph) : List (List Glyph) := runs (Glyph.isPlain '|') l

/-- The stretches of a group's reading that are terms. -/
def termRuns (l : List Glyph) : List (List Glyph) := runs (Glyph.isPlain ',') l

theorem groups_eq (line : Text) : groups line = (groupRuns (glyphs line)).map written :=
  splitAt_eq_runs (by decide) line

theorem splitAt_written {piece : List Glyph} (h : Settled piece) :
    (written piece).splitAt termDelimiter = (termRuns piece).map written := by
  rw [termDelimiter, splitAt_eq_runs (by decide), glyphs_written h, termRuns]

theorem flatten_map_written (d : Char) (l : List Glyph) :
    ((runs (Glyph.isPlain d) l).map written).flatten = written (l.filter (!·.isPlain d)) := by
  rw [← written_flatten, flatten_runs]

theorem settled_of_mem_groupRuns {line : Text} {piece : List Glyph}
    (h : piece ∈ groupRuns (glyphs line)) : Settled piece :=
  (settled_glyphs line).of_isInfix (mem_runs h).2.1

theorem settled_of_mem_termRuns {piece part : List Glyph} (hpiece : Settled piece)
    (h : part ∈ termRuns piece) : Settled part :=
  hpiece.of_isInfix (mem_runs h).2.1

/-- The parts of a group, escapes and blanks at the ends taken away. -/
theorem parts_eq {piece : List Glyph} (h : Settled piece) :
    ((written piece).splitAt termDelimiter).map (fun part => part.unescape.trim) =
      (termRuns piece).map fun part => (chars part).trim := by
  rw [splitAt_written h, List.map_map]
  apply List.map_congr_left
  intro part hpart
  rw [Function.comp_apply, unescape_written (settled_of_mem_termRuns h hpart)]

theorem terms_written {piece : List Glyph} (h : Settled piece) :
    terms (written piece) =
      match termRuns piece with
      | [first, second] => .ok [(chars first).trim, (chars second).trim]
      | _ => .error (.notPair (written piece)) := by
  have hparts := parts_eq h
  have hlength : ((written piece).splitAt termDelimiter).length = (termRuns piece).length := by
    rw [splitAt_written h, List.length_map]
  rw [terms, hlength, hparts]
  match termRuns piece with
  | [] => rfl
  | [_] => rfl
  | [_, _] => rfl
  | _ :: _ :: _ :: _ => simp

/-- Splitting a line into groups and a group into terms is cutting one reading of the line. The
reading loses nothing, the groups lose the plain bars only, and a group is read as the line reads
it: its parts lose the plain commas only, and its terms are the characters of the parts. -/
theorem groups_terms_of_one_reading (line : Text) :
    written (glyphs line) = line ∧
    groups line = (groupRuns (glyphs line)).map written ∧
    (groups line).flatten = written ((glyphs line).filter (!·.isPlain '|')) ∧
    ∀ piece ∈ groupRuns (glyphs line),
      glyphs (written piece) = piece ∧
      (∀ part ∈ termRuns piece, glyphs (written part) = part) ∧
      ((written piece).splitAt termDelimiter).flatten =
        written (piece.filter (!·.isPlain ',')) ∧
      terms (written piece) =
        match termRuns piece with
        | [first, second] => .ok [(chars first).trim, (chars second).trim]
        | _ => .error (.notPair (written piece)) := by
  refine ⟨written_glyphs line, groups_eq line, ?_, ?_⟩
  · rw [groups_eq, groupRuns, flatten_map_written]
  · intro piece hpiece
    have h : Settled piece := settled_of_mem_groupRuns hpiece
    refine ⟨glyphs_written h, ?_, ?_, terms_written h⟩
    · intro part hpart
      exact glyphs_written (settled_of_mem_termRuns h hpart)
    · rw [splitAt_written h, termRuns, flatten_map_written]

theorem groups_terms_of_escaped_comma :
    let line : Text := "a\\|b,c\\\\|\\,,d\\"
    let piece : List Glyph := [⟨',', true⟩, ⟨',', false⟩, ⟨'d', false⟩, ⟨'\\', false⟩]
    groups line = ["a\\|b,c\\\\", "\\,,d\\"] ∧ piece ∈ groupRuns (glyphs line) ∧
      terms (written piece) = .ok [",", "d\\"] := by
  intro line piece
  have hmem : piece ∈ groupRuns (glyphs line) := by decide
  obtain ⟨-, hgroups, -, hpieces⟩ := groups_terms_of_one_reading line
  obtain ⟨-, -, -, hterms⟩ := hpieces piece hmem
  exact ⟨hgroups.trans (by decide), hmem, hterms.trans (by decide)⟩

end Thesaurus.Rules
