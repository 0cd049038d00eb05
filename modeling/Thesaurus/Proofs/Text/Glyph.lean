import Mathlib.Data.List.Basic
import Thesaurus.Proofs.Text.Runs
import Thesaurus.Text.Escape

/-!
# Glyphs

A glyph is a character of a text together with whether a backslash takes it out of its role. One
pass from left to right reads a text into glyphs, whatever the delimiters are. Main facts: splitting
at a character is cutting the glyphs where it stands plainly (`splitAt_eq_runs`), taking escapes
away is reading off the characters (`unescape_eq_chars`), and a stretch of a reading that is written
out reads back as itself (`glyphs_written`), so that a delimiter has one role at every level.
-/

set_option autoImplicit false

namespace Thesaurus.Text

structure Glyph where
  char : Char
  escaped : Bool
deriving DecidableEq, Repr

namespace Glyph

/-- The text that a glyph was read from. -/
def source (g : Glyph) : Text := if g.escaped then ['\\', g.char] else [g.char]

/-- Whether a glyph is the given character without a backslash. -/
def isPlain (c : Char) (g : Glyph) : Bool := g == ⟨c, false⟩

/-- What a scan for one delimiter makes of a glyph. -/
def mark (delimiter : Char) (g : Glyph) : Mark :=
  if g.isPlain delimiter then .delimiter
  else if g.escaped then .escaped g.char else .plain g.char

theorem isPlain_self (c : Char) : isPlain c ⟨c, false⟩ = true := by simp [isPlain]

theorem isPlain_escaped (c d : Char) : isPlain c ⟨d, true⟩ = false := by simp [isPlain]

theorem isPlain_of_ne {c d : Char} (h : d ≠ c) (escaped : Bool) :
    isPlain c ⟨d, escaped⟩ = false := by
  simp [isPlain, h]

theorem isDelimiter_mark (d : Char) (g : Glyph) : (g.mark d).isDelimiter = g.isPlain d := by
  unfold mark
  split_ifs with h h' <;> simp [Mark.isDelimiter, h]

theorem source_mark {d : Char} {g : Glyph} (h : g.isPlain d = false) :
    (g.mark d).source = g.source := by
  unfold mark source
  rw [if_neg (by simp [h])]
  split_ifs <;> rfl

theorem source_ne_nil (g : Glyph) : g.source ≠ [] := by
  unfold source
  split_ifs <;> simp

end Glyph

/-- The glyphs of a text. A backslash at the very end has nothing to escape and is plain. -/
def glyphs : Text → List Glyph
  | [] => []
  | ['\\'] => [⟨'\\', false⟩]
  | '\\' :: c :: t => ⟨c, true⟩ :: glyphs t
  | c :: t => ⟨c, false⟩ :: glyphs t

def written (l : List Glyph) : Text := l.flatMap Glyph.source

def chars (l : List Glyph) : Text := l.map Glyph.char

theorem glyphs_cons {c : Char} (h : c ≠ '\\') (t : Text) :
    glyphs (c :: t) = ⟨c, false⟩ :: glyphs t := by
  cases t <;> simp [glyphs, h]

theorem unescape_cons {c : Char} (h : c ≠ '\\') (t : Text) :
    unescape (c :: t) = c :: unescape t := by
  cases t <;> simp [unescape, h]

/-- Induction along the reading of a text: one step for each glyph. -/
theorem glyph_induction {motive : Text → Prop} (nil : motive []) (lone : motive ['\\'])
    (escaped : ∀ c t, motive t → motive ('\\' :: c :: t))
    (plain : ∀ c t, c ≠ '\\' → motive t → motive (c :: t)) (t : Text) : motive t := by
  induction t using glyphs.induct with
  | case1 => exact nil
  | case2 => exact lone
  | case3 c t ih => exact escaped c t ih
  | case4 c t hlone hpair ih =>
    by_cases hc : c = '\\'
    · cases t with
      | nil => exact absurd rfl (hlone hc)
      | cons d u => exact absurd rfl (hpair d u hc)
    · exact plain c t hc ih

theorem written_glyphs (t : Text) : written (glyphs t) = t := by
  induction t using glyph_induction with
  | nil => rfl
  | lone => rfl
  | escaped c t ih => exact congrArg ('\\' :: c :: ·) ih
  | plain c t hc ih =>
    rw [glyphs_cons hc]
    exact congrArg (c :: ·) ih

theorem unescape_eq_chars (t : Text) : unescape t = chars (glyphs t) := by
  induction t using glyph_induction with
  | nil => rfl
  | lone => rfl
  | escaped c t ih => exact congrArg (c :: ·) ih
  | plain c t hc ih =>
    rw [glyphs_cons hc, unescape_cons hc]
    exact congrArg (c :: ·) ih

theorem marks_cons {c : Char} (hc : c ≠ '\\') (d : Char) (t : Text) :
    marks [d] (c :: t) = Glyph.mark d ⟨c, false⟩ :: marks [d] t := by
  have hmark : Glyph.mark d ⟨c, false⟩ = if d = c then .delimiter else .plain c := by
    simp [Glyph.mark, Glyph.isPlain, eq_comm (a := d)]
  rw [hmark]
  cases t <;> by_cases h : d = c <;> simp [marks, marksFrom, h, hc]

theorem marks_eq_map {d : Char} (hd : d ≠ '\\') (t : Text) :
    marks [d] t = (glyphs t).map (Glyph.mark d) := by
  induction t using glyph_induction with
  | nil => rfl
  | lone =>
    simp [marks, marksFrom, glyphs, Glyph.mark, Glyph.isPlain, hd, hd.symm]
  | escaped c t ih =>
    simpa [marks, marksFrom, glyphs, Glyph.mark, Glyph.isPlain, hd] using ih
  | plain c t hc ih => rw [glyphs_cons hc, marks_cons hc, ih, List.map_cons]

theorem written_flatten (ls : List (List Glyph)) :
    written ls.flatten = (ls.map written).flatten := by
  induction ls with
  | nil => rfl
  | cons l ls ih => rw [List.flatten_cons, written, List.flatMap_append, List.map_cons,
      List.flatten_cons, ← ih, written, written]

theorem isEmpty_written (l : List Glyph) : (written l).isEmpty = l.isEmpty := by
  cases l with
  | nil => rfl
  | cons g l => simp [written, g.source_ne_nil]

theorem source_marks {d : Char} {l : List Glyph} (h : ∀ g ∈ l, g.isPlain d = false) :
    (l.map (Glyph.mark d)).flatMap Mark.source = written l := by
  rw [List.flatMap_map]
  exact List.flatMap_congr fun g hg => Glyph.source_mark (h g hg)

/-- Splitting at a character is cutting the one reading of the text where it stands plainly. -/
theorem splitAt_eq_runs {d : Char} (hd : d ≠ '\\') (t : Text) :
    t.splitAt [d] = (runs (Glyph.isPlain d) (glyphs t)).map written := by
  have hmark : Mark.isDelimiter ∘ Glyph.mark d = Glyph.isPlain d :=
    funext (Glyph.isDelimiter_mark d)
  have hsource : ∀ piece ∈ (glyphs t).splitOnP (Glyph.isPlain d),
      ((·.flatMap Mark.source) ∘ List.map (Glyph.mark d)) piece = written piece :=
    fun piece h => source_marks (mem_splitOnP h).2
  rw [splitAt, marks_eq_map hd, pieces_eq_splitOnP, splitOnP_map, hmark, List.map_map,
    List.map_congr_left hsource, List.filter_map, runs]
  congr 2
  exact funext fun piece => congrArg (!·) (isEmpty_written piece)

/-- A plain backslash has nothing behind it. -/
def Settled (l : List Glyph) : Prop :=
  ∀ before behind, l = before ++ ⟨'\\', false⟩ :: behind → behind = []

theorem settled_nil : Settled [] := by
  intro before behind h
  simp at h

theorem Settled.cons {g : Glyph} {l : List Glyph} (h : Settled l)
    (hg : g = ⟨'\\', false⟩ → l = []) : Settled (g :: l) := by
  intro before behind hl
  cases before with
  | nil =>
    obtain ⟨rfl, rfl⟩ := List.cons.inj hl
    exact hg rfl
  | cons g' before => exact h before behind (List.cons.inj hl).2

/-- No stretch of a settled reading ends inside an escape. -/
theorem Settled.of_isInfix {l m : List Glyph} (h : Settled m) (hl : l <:+: m) : Settled l := by
  obtain ⟨front, back, rfl⟩ := hl
  intro before behind hlone
  have hbehind := h (front ++ before) (behind ++ back) (by simp [hlone])
  exact (List.append_eq_nil_iff.mp hbehind).1

theorem settled_glyphs (t : Text) : Settled (glyphs t) := by
  induction t using glyph_induction with
  | nil => exact settled_nil
  | lone => exact settled_nil.cons fun _ => rfl
  | escaped c t ih => exact ih.cons fun h => by simp at h
  | plain c t hc ih =>
    rw [glyphs_cons hc]
    exact ih.cons fun h => absurd (congrArg Glyph.char h) hc

/-- A stretch of a reading that is written out reads back as itself. -/
theorem glyphs_written {l : List Glyph} (h : Settled l) : glyphs (written l) = l := by
  induction l with
  | nil => rfl
  | cons g l ih =>
    have hl : glyphs (written l) = l := ih (h.of_isInfix (List.suffix_cons g l).isInfix)
    obtain ⟨c, escaped⟩ := g
    cases escaped with
    | true => exact congrArg (⟨c, true⟩ :: ·) hl
    | false =>
      by_cases hc : c = '\\'
      -- A plain backslash would escape what follows; being settled, it is the last glyph.
      · subst hc
        rw [h [] l rfl]
        rfl
      · exact (glyphs_cons hc (written l)).trans (congrArg (⟨c, false⟩ :: ·) hl)

theorem unescape_written {l : List Glyph} (h : Settled l) : unescape (written l) = chars l := by
  rw [unescape_eq_chars, glyphs_written h]

end Thesaurus.Text
