import Thesaurus.Proofs.RuleFile.Load

/-!
# One text in several encodings

Each encoding of a rule file is a byte order mark, or nothing, in front of the bytes of a text. What
is read is the text, and nothing has to be replaced. Main facts: `decode_content` for the bytes and
`read_in_every_form` for files.
-/

set_option autoImplicit false

namespace Thesaurus.RuleFile

open Rules

/-- The encodings in which rule files are written. -/
inductive Form where
  | plain
  | markedUtf8
  | utf16 (order : Utf16.ByteOrder)
deriving DecidableEq, Repr

namespace Form

/-- What is written in front of a text. -/
def mark : Form → Bytes
  | .plain => []
  | .markedUtf8 => [0xEF, 0xBB, 0xBF]
  | .utf16 .littleEndian => [0xFF, 0xFE]
  | .utf16 .bigEndian => [0xFE, 0xFF]

/-- The content of a rule file that holds a text. -/
def content (form : Form) (t : Text) : Bytes :=
  form.mark ++
    match form with
    | .plain | .markedUtf8 => Utf8.encode t
    | .utf16 order => Utf16.encode order t

/-- The text that is read. Only where nothing is written in front of a text may its own first
character be taken for a mark. -/
def shown (form : Form) (t : Text) : Text :=
  if form = .plain ∧ t.head? = some '\ufeff' then t.tail else t

theorem decode_markedUtf8 (t : Text) : decode (content .markedUtf8 t) = some (t, false) := by
  have hmarked : Utf16.marked? (content .markedUtf8 t) = none := rfl
  have hbehind : Utf8.dropMark (content .markedUtf8 t) = Utf8.encode t := rfl
  rw [decode, hmarked, hbehind, Utf8.decode?_encode]

theorem decode_utf16 (order : Utf16.ByteOrder) (t : Text) :
    decode (content (.utf16 order) t) = some (t, false) := by
  have hbehind : decode (content (.utf16 order) t) =
      (Utf16.decode? order (Utf16.encode order t)).map (·, false) := by
    cases order <;> rfl
  rw [hbehind, Utf16.decode?_encode]
  rfl

theorem decode_content (form : Form) (t : Text) :
    decode (form.content t) = some (form.shown t, false) := by
  rw [shown]
  split_ifs with h
  · obtain ⟨rfl, hhead⟩ := h
    -- The bytes of that character are those of the mark, so a marked text is left.
    obtain ⟨u, rfl⟩ : ∃ u, t = '\ufeff' :: u := List.head?_eq_some_iff.mp hhead
    exact decode_markedUtf8 u
  · cases form with
    | plain => exact decode_encode fun hhead => h ⟨rfl, hhead⟩
    | markedUtf8 => exact decode_markedUtf8 t
    | utf16 order => exact decode_utf16 order t

end Form

/-- Of a rule file in any encoding the text is read that was written, and nothing is reported; only
of plain UTF-8 a byte order mark that begins the text is left out. So files that hold the same text
in two encodings load alike, to the same graph or with the same error of the rules, unless one of
them is plain and the text begins with such a mark. -/
theorem read_in_every_form (t : Text) :
    (∀ (form : Form) (tree : FileTree) (path : Path), tree.read path = .ok (form.content t) →
      (readText tree path).outcome = (.ok (form.shown t), [])) ∧
    ∀ (form form' : Form) (tree tree' : FileTree) (path path' : Text),
      tree.read (.ofText path) = .ok (form.content t) →
      tree'.read (.ofText path') = .ok (form'.content t) →
      (t.head? = some '\ufeff' → form ≠ .plain ∧ form' ≠ .plain) →
      ∀ (p : Parser) (mark : Option Text), ∃ outcome : Except ParseError Graph,
        (load tree path p mark).outcome.1 = outcome.mapError .parse ∧
          (load tree' path' p mark).outcome.1 = outcome.mapError .parse := by
  have htext (form : Form) (tree : FileTree) (path : Path)
      (hread : tree.read path = .ok (form.content t)) :
      (readText tree path).outcome = (.ok (form.shown t), []) :=
    readText_outcome hread (form.decode_content t)
  refine ⟨htext, fun form form' tree tree' path path' hread hread' hplain p mark => ?_⟩
  have hshown : form.shown t = t := if_neg fun h => (hplain h.2).1 h.1
  have hshown' : form'.shown t = t := if_neg fun h => (hplain h.2).2 h.1
  have hfirst := congrArg Prod.fst (htext form tree _ hread)
  have hsecond := congrArg Prod.fst (htext form' tree' _ hread')
  rw [hshown] at hfirst
  rw [hshown'] at hsecond
  exact ⟨_, outcome_load hfirst, outcome_load hsecond⟩

theorem read_in_every_form_surrogates :
    let t : Text := "\ufeff😀,é"
    let tree : FileTree :=
      { workingDirectory := []
        files := ⟨[
          (["big"], [0xFE, 0xFF, 0xFE, 0xFF, 0xD8, 0x3D, 0xDE, 0x00, 0x00, 0x2C, 0x00, 0xE9]),
          (["marked"],
            [0xEF, 0xBB, 0xBF, 0xEF, 0xBB, 0xBF, 0xF0, 0x9F, 0x98, 0x80, 0x2C, 0xC3, 0xA9]),
          (["plain"], [0xEF, 0xBB, 0xBF, 0xF0, 0x9F, 0x98, 0x80, 0x2C, 0xC3, 0xA9])], by decide⟩ }
    (readText tree (.ofText "big")).outcome = (.ok t, []) ∧
    (readText tree (.ofText "plain")).outcome = (.ok "😀,é", []) ∧
    (load tree "big" {}).outcome.1 =
      .ok (Graph.ofEdges true [⟨["\ufeff😀"], ["\ufeff😀"], false⟩, ⟨["é"], ["\ufeff😀"], false⟩]) ∧
    (load tree "marked" {}).outcome.1 = (load tree "big" {}).outcome.1 := by
  intro t tree
  have hbig : tree.read (.ofText "big") = .ok (Form.content (.utf16 .bigEndian) t) := by
    decide +kernel
  have hmarked : tree.read (.ofText "marked") = .ok (Form.content .markedUtf8 t) := by
    decide +kernel
  have hplain : tree.read (.ofText "plain") = .ok (Form.content .plain t) := by decide +kernel
  obtain ⟨hread, hload⟩ := read_in_every_form t
  obtain ⟨outcome, hfirst, hsecond⟩ := hload _ _ tree tree "big" "marked" hbig hmarked
    (fun _ => ⟨nofun, nofun⟩) {} defaultCommentMark
  refine ⟨hread _ tree _ hbig, hread _ tree _ hplain, by decide +kernel, ?_⟩
  rw [hfirst, hsecond]

end Thesaurus.RuleFile
