import Thesaurus.Proofs.Rules.FirstFault
import Thesaurus.Proofs.Rules.OnePass
import Thesaurus.Proofs.Text.Lines
import Thesaurus.Proofs.Text.Trim

/-!
# Renderings of a document

A document is what a rule text is about: lines of groups of two terms. A rendering chooses how its
characters are escaped, how terms are padded, how often delimiters are repeated and how lines end.
Main facts: `RendersGroup.exists_reading` reads one group back, `map_termPair_groups` one line, and
`map_termPair_of_renders` a whole text.
-/

set_option autoImplicit false

namespace Thesaurus.Rules

open Text

/-- What a term of a document can be: a text with something in it, on one line, that neither begins
nor ends with a blank. -/
structure Phrase where
  text : Text
  ne_nil : text ≠ []
  head_not_blank : ∀ c ∈ text.head?, isBlank c = false
  last_not_blank : ∀ c ∈ text.getLast?, isBlank c = false
  one_line : OneLine text

abbrev Pair := Phrase × Phrase

def Pair.texts (pair : Pair) : Text × Text := (pair.1.text, pair.2.text)

abbrev Document := List (List Pair)

/-- A character stands plainly or behind a backslash; a backslash and the delimiters always stand
behind one. -/
inductive Spells : Text → Text → Prop
  | nil : Spells [] []
  | plain {c : Char} {t raw : Text} (h : c ≠ '\\' ∧ c ≠ ',' ∧ c ≠ '|') (tail : Spells t raw) :
      Spells (c :: t) (c :: raw)
  | escaped (c : Char) {t raw : Text} (tail : Spells t raw) : Spells (c :: t) ('\\' :: c :: raw)

/-- Blanks that do not end a line. -/
def IsPadding (t : Text) : Prop := (∀ c ∈ t, isBlank c = true) ∧ OneLine t

instance (t : Text) : Decidable (IsPadding t) :=
  haveI : Decidable (∀ c ∈ t, isBlank c = true) := List.decidableBAll _ t
  inferInstanceAs (Decidable (_ ∧ OneLine t))

inductive RendersTerm (phrase : Phrase) : Text → Prop
  | padded {front raw back : Text} (hfront : IsPadding front) (h : Spells phrase.text raw)
      (hback : IsPadding back) : RendersTerm phrase (front ++ raw ++ back)

def commas (n : Nat) : Text := List.replicate n ','

def bars (n : Nat) : Text := List.replicate n '|'

inductive RendersGroup (pair : Pair) : Text → Prop
  | terms (before between behind : Nat) {first second : Text} (hfirst : RendersTerm pair.1 first)
      (hsecond : RendersTerm pair.2 second) :
      RendersGroup pair
        (commas before ++ (first ++ (commas (between + 1) ++ (second ++ commas behind))))

inductive RendersLine : List Pair → Text → Prop
  | nil (n : Nat) : RendersLine [] (bars n)
  | last (before : Nat) {pair : Pair} {raw : Text} (h : RendersGroup pair raw) :
      RendersLine [pair] (bars before ++ raw)
  | cons (before : Nat) {pair : Pair} {line : List Pair} {raw tail : Text}
      (h : RendersGroup pair raw) (htail : RendersLine line tail) :
      RendersLine (pair :: line) (bars before ++ (raw ++ '|' :: tail))

inductive IsLineEnd : Text → Prop
  | single {c : Char} (h : isLineBreak c = true) : IsLineEnd [c]
  | pair : IsLineEnd ['\r', '\n']

/-- The lines of a document one after the other, each with an end of its own; the last may lack one,
and empty lines may stand anywhere. -/
inductive Renders : Document → Text → Prop
  | nil : Renders [] []
  | empty {doc : Document} {lineEnd t : Text} (hend : IsLineEnd lineEnd) (h : Renders doc t) :
      Renders doc (lineEnd ++ t)
  | last {line : List Pair} {raw : Text} (h : RendersLine line raw) : Renders [line] raw
  | cons {line : List Pair} {doc : Document} {raw lineEnd t : Text} (hline : RendersLine line raw)
      (hend : IsLineEnd lineEnd) (h : Renders doc t) : Renders (line :: doc) (raw ++ (lineEnd ++ t))

/-- Whatever stands behind a text, it is read as these glyphs. -/
def ReadsAs (raw : Text) (l : List Glyph) : Prop := ∀ rest, glyphs (raw ++ rest) = l ++ glyphs rest

theorem ReadsAs.append {raw raw' : Text} {l l' : List Glyph} (h : ReadsAs raw l)
    (h' : ReadsAs raw' l') : ReadsAs (raw ++ raw') (l ++ l') := by
  intro rest
  rw [List.append_assoc, h, h', List.append_assoc]

theorem ReadsAs.glyphs_eq {raw : Text} {l : List Glyph} (h : ReadsAs raw l) : glyphs raw = l := by
  simpa [glyphs] using h []

theorem ReadsAs.written_eq {raw : Text} {l : List Glyph} (h : ReadsAs raw l) : written l = raw := by
  rw [← h.glyphs_eq, written_glyphs]

theorem readsAs_replicate {c : Char} (hc : c ≠ '\\') (n : Nat) :
    ReadsAs (List.replicate n c) (List.replicate n ⟨c, false⟩) := by
  intro rest
  induction n with
  | zero => rfl
  | succ n ih => rw [List.replicate_succ, List.cons_append, glyphs_cons hc, ih]; rfl

/-- Glyphs without a delimiter among them. -/
def NoDelimiter (l : List Glyph) : Prop :=
  ∀ g ∈ l, g.isPlain ',' = false ∧ g.isPlain '|' = false

theorem Spells.exists_reading {t raw : Text} (h : Spells t raw) :
    ∃ l, ReadsAs raw l ∧ NoDelimiter l ∧ chars l = t := by
  induction h with
  | nil => exact ⟨[], fun _ => rfl, by simp [NoDelimiter], rfl⟩
  | @plain c t raw hc _ ih =>
    obtain ⟨l, hreads, hno, hchars⟩ := ih
    refine ⟨⟨c, false⟩ :: l, ?_, ?_, congrArg (c :: ·) hchars⟩
    · intro rest
      rw [List.cons_append, glyphs_cons hc.1, hreads rest, List.cons_append]
    · refine List.forall_mem_cons.mpr ⟨⟨?_, ?_⟩, hno⟩
      · exact Glyph.isPlain_of_ne hc.2.1 false
      · exact Glyph.isPlain_of_ne hc.2.2 false
  | escaped c _ ih =>
    obtain ⟨l, hreads, hno, hchars⟩ := ih
    refine ⟨⟨c, true⟩ :: l, ?_, ?_, congrArg (c :: ·) hchars⟩
    · intro rest
      exact congrArg (⟨c, true⟩ :: ·) (hreads rest)
    · exact List.forall_mem_cons.mpr ⟨⟨Glyph.isPlain_escaped _ c, Glyph.isPlain_escaped _ c⟩, hno⟩

theorem Spells.append {t raw t' raw' : Text} (h : Spells t raw) (h' : Spells t' raw') :
    Spells (t ++ t') (raw ++ raw') := by
  induction h with
  | nil => exact h'
  | plain hc _ ih => exact .plain hc ih
  | escaped c _ ih => exact .escaped c ih

theorem spells_padding {t : Text} (h : ∀ c ∈ t, isBlank c = true) : Spells t t := by
  induction t with
  | nil => exact .nil
  | cons c t ih =>
    obtain ⟨hc, ht⟩ := List.forall_mem_cons.mp h
    refine .plain ⟨?_, ?_, ?_⟩ (ih ht)
    all_goals
      rintro rfl
      exact absurd hc (by decide)

theorem Spells.oneLine {t raw : Text} (h : Spells t raw) (ht : OneLine t) : OneLine raw := by
  induction h with
  | nil => exact ht
  | plain hc _ ih =>
    obtain ⟨hc, ht⟩ := oneLine_cons.mp ht
    exact oneLine_cons.mpr ⟨hc, ih ht⟩
  | escaped c _ ih =>
    obtain ⟨hc, ht⟩ := oneLine_cons.mp ht
    exact oneLine_cons.mpr ⟨by decide, oneLine_cons.mpr ⟨hc, ih ht⟩⟩

/-- A rendered term is read without a delimiter, and trimming its characters gives its text. -/
theorem RendersTerm.exists_reading {phrase : Phrase} {raw : Text} (h : RendersTerm phrase raw) :
    ∃ l, ReadsAs raw l ∧ l ≠ [] ∧ NoDelimiter l ∧ (chars l).trim = phrase.text := by
  cases h with
  | @padded front raw back hfront h hback =>
    have hspells : Spells (front ++ phrase.text ++ back) (front ++ raw ++ back) :=
      ((spells_padding hfront.1).append h).append (spells_padding hback.1)
    obtain ⟨l, hreads, hno, hchars⟩ := hspells.exists_reading
    refine ⟨l, hreads, ?_, hno, ?_⟩
    · rintro rfl
      have hnil : front ++ phrase.text ++ back = [] := hchars.symm
      exact phrase.ne_nil (by simp_all)
    · rw [hchars]
      exact trim_append_append hfront.1 hback.1 phrase.ne_nil phrase.head_not_blank
        phrase.last_not_blank

theorem RendersTerm.oneLine {phrase : Phrase} {raw : Text} (h : RendersTerm phrase raw) :
    OneLine raw := by
  cases h with
  | padded hfront h hback =>
    exact oneLine_append.mpr ⟨oneLine_append.mpr ⟨hfront.2, h.oneLine phrase.one_line⟩, hback.2⟩

theorem termPair_eq (group : Text) :
    termPair group =
      match termRuns (glyphs group) with
      | [first, second] => some ((chars first).trim, (chars second).trim)
      | _ => none := by
  have hparts : group.splitAt termDelimiter = (termRuns (glyphs group)).map written := by
    simpa only [written_glyphs] using splitAt_written (settled_glyphs group)
  have hsettled {part : List Glyph} (h : part ∈ termRuns (glyphs group)) : Settled part :=
    settled_of_mem_termRuns (settled_glyphs group) h
  rw [termPair, hparts]
  rcases hruns : termRuns (glyphs group) with _ | ⟨first, _ | ⟨second, _ | ⟨third, rest⟩⟩⟩
  · rfl
  · rfl
  · have hfirst : Settled first := hsettled (by simp [hruns])
    have hsecond : Settled second := hsettled (by simp [hruns])
    simp only [List.map_cons, List.map_nil, unescape_written hfirst, unescape_written hsecond]
  · rfl

/-- A rendered group is read without a plain bar, and its terms are those of the pair. -/
theorem RendersGroup.exists_reading {pair : Pair} {raw : Text} (h : RendersGroup pair raw) :
    ∃ l, ReadsAs raw l ∧ l ≠ [] ∧ (∀ g ∈ l, g.isPlain '|' = false) ∧
      termPair raw = some pair.texts := by
  cases h with
  | terms before between behind hfirst hsecond =>
    obtain ⟨l, hreads, hne, hno, htext⟩ := hfirst.exists_reading
    obtain ⟨m, hreads', hne', hno', htext'⟩ := hsecond.exists_reading
    have hcommas (n : Nat) : ReadsAs (commas n) (List.replicate n ⟨',', false⟩) :=
      readsAs_replicate (by decide) n
    have hplain : Glyph.isPlain ',' ⟨',', false⟩ = true := Glyph.isPlain_self ','
    have hall := (hcommas before).append
      (hreads.append ((hcommas (between + 1)).append (hreads'.append (hcommas behind))))
    refine ⟨_, hall, by simp [hne], ?_, ?_⟩
    · have hcomma (n : Nat) : ∀ g ∈ List.replicate n (⟨',', false⟩ : Glyph),
          g.isPlain '|' = false := by
        intro g hg
        rw [List.eq_of_mem_replicate hg]
        exact Glyph.isPlain_of_ne (by decide) false
      simp only [List.forall_mem_append]
      exact ⟨hcomma before, fun g hg => (hno g hg).2, hcomma (between + 1),
        fun g hg => (hno' g hg).2, hcomma behind⟩
    · rw [termPair_eq, hall.glyphs_eq, termRuns, runs_replicate_append hplain,
        List.replicate_succ, List.cons_append,
        runs_append_cons_of_forall hne (fun g hg => (hno g hg).1) hplain,
        runs_replicate_append hplain,
        runs_append_replicate hne' (fun g hg => (hno' g hg).1) hplain]
      simp only [htext, htext', Pair.texts]

theorem RendersGroup.oneLine {pair : Pair} {raw : Text} (h : RendersGroup pair raw) :
    OneLine raw := by
  cases h with
  | terms before between behind hfirst hsecond =>
    have hcommas (n : Nat) : OneLine (commas n) := oneLine_replicate (by decide) n
    simp only [oneLine_append]
    exact ⟨hcommas before, hfirst.oneLine, hcommas (between + 1), hsecond.oneLine, hcommas behind⟩

theorem readsAs_bars (n : Nat) : ReadsAs (bars n) (List.replicate n ⟨'|', false⟩) :=
  readsAs_replicate (by decide) n

/-- The groups of a rendered line have the terms of its pairs. -/
theorem map_termPair_groups {line : List Pair} {raw : Text} (h : RendersLine line raw) :
    (groups raw).map termPair = line.map fun pair => some pair.texts := by
  have hplain : Glyph.isPlain '|' ⟨'|', false⟩ = true := Glyph.isPlain_self '|'
  induction h with
  | nil n =>
    rw [groups_eq, (readsAs_bars n).glyphs_eq, groupRuns, runs_replicate hplain]
    rfl
  | @last before pair raw h =>
    obtain ⟨l, hreads, hne, hbars, hpair⟩ := h.exists_reading
    rw [groups_eq, ((readsAs_bars before).append hreads).glyphs_eq, groupRuns,
      runs_replicate_append hplain, runs_eq_singleton hne hbars, List.map_singleton,
      hreads.written_eq, List.map_singleton, hpair]
    rfl
  | @cons before pair line raw tail h htail ih =>
    obtain ⟨l, hreads, hne, hbars, hpair⟩ := h.exists_reading
    have htail : glyphs ('|' :: tail) = ⟨'|', false⟩ :: glyphs tail := glyphs_cons (by decide) tail
    have hgroups : groups (bars before ++ (raw ++ '|' :: tail)) = raw :: groups tail := by
      rw [groups_eq, groups_eq, readsAs_bars, hreads, htail, groupRuns,
        runs_replicate_append hplain, runs_append_cons_of_forall hne hbars hplain, List.map_cons,
        hreads.written_eq, groupRuns]
    rw [hgroups, List.map_cons, hpair, ih, List.map_cons]

theorem RendersLine.oneLine {line : List Pair} {raw : Text} (h : RendersLine line raw) :
    OneLine raw := by
  have hbars (n : Nat) : OneLine (bars n) := oneLine_replicate (by decide) n
  induction h with
  | nil n => exact hbars n
  | last before h => exact oneLine_append.mpr ⟨hbars before, h.oneLine⟩
  | cons before h _ ih =>
    simp only [oneLine_append, oneLine_cons]
    exact ⟨hbars before, h.oneLine, by decide, ih⟩

theorem runs_append_lineEnd {lineEnd : Text} (h : IsLineEnd lineEnd) (r t : Text) :
    runs isLineBreak (r ++ (lineEnd ++ t)) = runs isLineBreak r ++ runs isLineBreak t := by
  cases h with
  | single h => exact runs_append_cons h r t
  | pair =>
    have hnewline : runs isLineBreak ('\n' :: t) = runs isLineBreak t := runs_cons (by decide) t
    rw [← hnewline]
    exact runs_append_cons (by decide) r ('\n' :: t)

theorem flatMap_groups_runs {raw : Text} (h : OneLine raw) :
    (runs isLineBreak raw).flatMap groups = groups raw := by
  cases raw with
  | nil => rfl
  | cons c raw => rw [runs_eq_singleton (by simp) h, List.flatMap_singleton]

/-- Lines without anything in them do not count. -/
theorem flatMap_groups_lines (t : Text) :
    (lines t).flatMap groups = (runs isLineBreak t).flatMap groups := by
  rw [← filter_lines, flatMap_filter]
  intro line _ hempty
  have hnil : line = [] := by simpa using hempty
  rw [hnil]
  rfl

/-- The groups of a rendering have the terms of the document, whichever rendering it is. -/
theorem map_termPair_of_renders {doc : Document} {t : Text} (h : Renders doc t) :
    ((lines t).flatMap groups).map termPair = doc.flatten.map fun pair => some pair.texts := by
  rw [flatMap_groups_lines]
  induction h with
  | nil => rfl
  | @empty doc lineEnd t hend _ ih =>
    have hruns : runs isLineBreak (lineEnd ++ t) = runs isLineBreak t :=
      runs_append_lineEnd hend [] t
    rw [hruns, ih]
  | last h => rw [flatMap_groups_runs h.oneLine, map_termPair_groups h, List.flatten_singleton]
  | cons h hend _ ih =>
    rw [runs_append_lineEnd hend, List.flatMap_append, flatMap_groups_runs h.oneLine,
      List.map_append, map_termPair_groups h, ih, List.flatten_cons, List.map_append]

end Thesaurus.Rules
