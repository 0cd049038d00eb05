import Thesaurus.Proofs.Graph.Wide
import Thesaurus.Rules.Wide

/-!
# Saving a graph

The export of a graph that may hold surrogates is written only if it holds none, so that what is
read back is a graph of characters. Main facts: `save_cases` says all that can become of an export,
`separable_of_wideGraph?` which graphs come of rules, and `save_lossless` what is found in the file.
-/

set_option autoImplicit false

namespace Thesaurus

open Text

namespace WideGraph

/-! ### When an export is written -/

section Save

variable {g : WideGraph} {tree : FileTree} {path : Path}

theorem save_of_digits (h : Json.digitLimit < (ofNat g.lookahead.natAbs).length) :
    g.save tree path = (.error .tooManyDigits, tree) := by
  rw [save, if_pos h]

theorem save_of_surrogate (hdigits : (ofNat g.lookahead.natAbs).length ≤ Json.digitLimit)
    (h : g.catalog? = none) (tree : FileTree) (path : Path) :
    g.save tree path = match tree.write path [] with
      | .error cause => (.error (.file cause), tree)
      | .ok after => (.error .surrogate, after) := by
  cases hwrite : tree.write path [] <;>
    simp only [save, if_neg (Nat.not_lt.mpr hdigits), h, hwrite]

/-- On the command line, where no text holds a surrogate and no lookahead has many digits, an
export fails only with the file. -/
theorem save_wide {g : Graph} (hdigits : (ofNat g.lookahead.natAbs).length ≤ Json.digitLimit)
    (tree : FileTree) (path : Path) :
    g.wide.save tree path = match g.save tree path with
      | .error cause => (.error (.file cause), tree)
      | .ok after => (.ok (), after) := by
  have hwide : ¬ Json.digitLimit < (ofNat g.wide.lookahead.natAbs).length := Nat.not_lt.mpr hdigits
  rw [save, if_neg hwide, catalog?_wide]
  rfl

/-- All that can become of an export. -/
theorem save_cases (hg : g.Separable) (tree : FileTree) (path : Path) :
    (Json.digitLimit < (ofNat g.lookahead.natAbs).length ∧
      g.save tree path = (.error .tooManyDigits, tree)) ∨
    (ofNat g.lookahead.natAbs).length ≤ Json.digitLimit ∧
      ((∃ cause, tree.write path [] = .error cause ∧
        g.save tree path = (.error (.file cause), tree)) ∨
      (∃ emptied, ¬ g.IsPlain ∧ tree.write path [] = .ok emptied ∧
        g.save tree path = (.error .surrogate, emptied)) ∨
      ∃ (plain : Graph) (after : FileTree), g = plain.wide ∧ plain.save tree path = .ok after ∧
        (tree.write path []).isOk = true ∧ g.save tree path = (.ok (), after)) := by
  by_cases hdigits : Json.digitLimit < (ofNat g.lookahead.natAbs).length
  · exact .inl ⟨hdigits, save_of_digits hdigits⟩
  have hfew := Nat.not_lt.mp hdigits
  refine .inr ⟨hfew, ?_⟩
  by_cases hplain : g.IsPlain
  · have hsave := save_wide (g := g.chars) hfew tree path
    rw [wide_chars hplain] at hsave
    cases hwritten : g.chars.save tree path with
    | error cause =>
      rw [hwritten] at hsave
      have hwrite : tree.write path _ = .error cause := hwritten
      exact .inl ⟨cause, FileTree.update_error hwrite _, hsave⟩
    | ok after =>
      rw [hwritten] at hsave
      have hwrite : tree.write path _ = .ok after := hwritten
      have hok : (tree.write path []).isOk = true := by
        rw [FileTree.isOk_write tree path [], hwrite]
        rfl
      exact .inr (.inr ⟨g.chars, after, (wide_chars hplain).symm, hwritten, hok, hsave⟩)
  · have hsave := save_of_surrogate hfew (catalog?_eq_none hg hplain) tree path
    cases hwrite : tree.write path [] with
    | error cause =>
      rw [hwrite] at hsave
      exact .inl ⟨cause, rfl, hsave⟩
    | ok emptied =>
      rw [hwrite] at hsave
      exact .inr (.inl ⟨emptied, hplain, rfl, hsave⟩)

theorem exists_plain_of_save (hg : g.Separable) {after : FileTree}
    (h : g.save tree path = (.ok (), after)) :
    ∃ plain : Graph, g = plain.wide ∧ plain.save tree path = .ok after := by
  rcases save_cases hg tree path with
    ⟨-, hsave⟩ | ⟨-, ⟨_, -, hsave⟩ | ⟨_, -, -, hsave⟩ | ⟨plain, after', hplain, hwritten, -, hsave⟩⟩
  · cases hsave.symm.trans h
  · cases hsave.symm.trans h
  · cases hsave.symm.trans h
  · rw [hsave] at h
    exact ⟨plain, hplain, (Prod.mk.inj h).2 ▸ hwritten⟩

/-- An export that is refused leaves the file as it was, or empty. -/
theorem after_of_save (hg : g.Separable) {outcome : Except SaveError Unit} {after : FileTree}
    (h : g.save tree path = (outcome, after)) (hrefused : outcome ≠ .ok ()) :
    after = tree ∨ tree.write path [] = .ok after := by
  rcases save_cases hg tree path with
    ⟨-, hsave⟩ | ⟨-, ⟨_, -, hsave⟩ | ⟨_, -, hemptied, hsave⟩ | ⟨_, _, -, -, -, hsave⟩⟩ <;>
    obtain ⟨rfl, rfl⟩ := Prod.mk.inj (hsave.symm.trans h)
  · exact .inl rfl
  · exact .inl rfl
  · exact .inr hemptied
  · exact absurd rfl hrefused

theorem save_fst_eq_ok_iff (hg : g.Separable) : (g.save tree path).1 = .ok () ↔
    g.IsPlain ∧ (ofNat g.lookahead.natAbs).length ≤ Json.digitLimit ∧
      (tree.write path []).isOk = true := by
  rcases save_cases hg tree path with ⟨hdigits, hsave⟩ | ⟨hdigits, hcases⟩
  · rw [hsave]
    exact iff_of_false nofun fun h => absurd h.2.1 (Nat.not_le.mpr hdigits)
  · rcases hcases with
      ⟨_, hwrite, hsave⟩ | ⟨_, hplain, -, hsave⟩ | ⟨plain, _, rfl, -, hwrite, hsave⟩ <;> rw [hsave]
    · rw [hwrite]
      exact iff_of_false nofun fun h => absurd h.2.2 nofun
    · exact iff_of_false nofun fun h => hplain h.1
    · exact iff_of_true rfl ⟨isPlain_wide plain, hdigits, hwrite⟩

end Save

end WideGraph

/-! ### Graphs of the analyzer -/

theorem Term.Separable.unshelter {term : Term} (h : term.Separable) :
    WideTerm.Separable (term.map WideText.unshelter) := by
  refine ⟨fun hnil => h.1 (List.map_eq_nil_iff.mp hnil), List.forall_mem_map.mpr ?_⟩
  exact fun token htoken hspace => h.2 token htoken (WideText.mem_of_char_mem_unshelter hspace)

theorem Graph.Separable.unshelter {g : Graph} (h : g.Separable) : g.unshelter.Separable := by
  refine WideGraph.forall_mem_terms.mpr fun entry hentry => ?_
  obtain ⟨entry, hmem, rfl⟩ := List.mem_map.mp (OrderedMap.mem_of_mem_ofList hentry)
  obtain ⟨hinput, houtputs⟩ := mem_terms_of_entry hmem
  refine ⟨(h _ hinput).unshelter, List.forall_mem_map.mpr fun output houtput => ?_⟩
  exact (h output (houtputs output houtput)).unshelter

theorem Rules.separable_of_wideGraph? {p : Parser} {a : Analyzer}
    (hp : p.normalizer = a.normalizer) {source : WideSource} {g : WideGraph}
    (h : p.wideGraph? source = some g) : g.Separable := by
  have hrun {source : Source} {plain : Graph} (h : (p.run source).toOption = some plain) :
      plain.Separable := by
    cases hresult : p.run source with
    | error e =>
      rw [hresult] at h
      cases h
    | ok result =>
      rw [hresult] at h
      exact separable_of_run hp (hresult.trans (congrArg Except.ok (Option.some.inj h)))
  rw [Parser.wideGraph?] at h
  split_ifs at h
  · obtain ⟨plain, hplain, rfl⟩ := Option.map_eq_some_iff.mp h
    exact WideGraph.separable_wide.mpr (hrun hplain)
  · obtain ⟨sheltered, hsheltered, rfl⟩ := Option.map_eq_some_iff.mp h
    exact (hrun hsheltered).unshelter

theorem Rules.isPlain_of_wideGraph? {p : Parser} {source : WideSource} {g : WideGraph}
    (h : p.wideGraph? source = some g) (hsource : source.isPlain = true) : g.IsPlain := by
  rw [Parser.wideGraph?, if_pos hsource] at h
  obtain ⟨plain, -, rfl⟩ := Option.map_eq_some_iff.mp h
  exact WideGraph.isPlain_wide plain

/-! ### What is written can be read back -/

/-- The export of a graph of separable terms is written just if no surrogate stands in a term, the
lookahead has no more digits than are written, and the file can be. If not, the file is as it was
or empty. The file that is written holds an object with a member for each rule, in order, under a
name of its own, and with the lookahead; names that are split at single spaces are the terms again.
So graphs whose files are the same are the same. All this goes for the graphs of the analyzer, and
those of sources without surrogates have none either. -/
theorem save_lossless :
    (∀ g : WideGraph, g.Separable → ∀ (tree after : FileTree) (path : Path)
      (outcome : Except SaveError Unit), g.save tree path = (outcome, after) →
      (outcome = .ok () ↔ g.IsPlain ∧ (ofNat g.lookahead.natAbs).length ≤ Json.digitLimit ∧
        (tree.write path []).isOk = true) ∧
      (outcome ≠ .ok () → after = tree ∨ tree.write path [] = .ok after) ∧
      (outcome = .ok () → ∃ (plain : Graph) (bytes : Bytes) (t : Text), g = plain.wide ∧
        after.read path = .ok bytes ∧ Utf8.decode? bytes = some t ∧
        (∀ limits : Json.Limits, (ofNat g.lookahead.natAbs).length ≤ limits.digits →
          4 ≤ limits.depth → Json.readWithin limits t = .ok (.object
            [("rules", .object (plain.rules.entries.map Rule.member)),
              ("max_horizontal_context", .ofInt g.lookahead)])) ∧
        ((plain.rules.entries.map Rule.member).map Prod.fst).Nodup ∧
        (plain.rules.entries.map Rule.member).map Rule.ofMember = plain.rules.entries ∧
        ∀ term ∈ plain.terms, pieces (· == ' ') term.display = term)) ∧
    (∀ g g' : WideGraph, g.Separable → g'.Separable →
      ∀ (tree tree' after after' : FileTree) (path path' : Path) (bytes : Bytes),
      g.save tree path = (.ok (), after) → after.read path = .ok bytes →
      g'.save tree' path' = (.ok (), after') → after'.read path' = .ok bytes → g = g') ∧
    ∀ (a : Analyzer) (expand dedup : Bool) (source : Rules.WideSource) (g : WideGraph),
      ({ expand, dedup, normalizer := a.normalizer } : Rules.Parser).wideGraph? source = some g →
      g.Separable ∧ (source.isPlain = true → g.IsPlain) := by
  refine ⟨fun g hg tree after path outcome hsave => ⟨?_, WideGraph.after_of_save hg hsave, ?_⟩, ?_,
    fun a expand dedup source g hgraph =>
      ⟨Rules.separable_of_wideGraph? rfl hgraph, Rules.isPlain_of_wideGraph? hgraph⟩⟩
  · rw [← WideGraph.save_fst_eq_ok_iff hg, hsave]
  · rintro rfl
    obtain ⟨plain, rfl, hwrite⟩ := WideGraph.exists_plain_of_save hg hsave
    have hplain := WideGraph.separable_wide.mp hg
    refine ⟨plain, _, _, rfl, FileTree.read_of_write hwrite, Utf8.decode?_encode _, ?_, ?_,
      Graph.map_ofMember hplain, fun term hterm => (hplain term hterm).pieces_display⟩
    · intro limits hdigits hdepth
      rw [Graph.read_exportText hplain hdigits hdepth, Graph.json_catalog hplain]
      rfl
    · have hnames : (plain.rules.entries.map Rule.member).map Prod.fst =
          plain.rules.keys.map Term.display := by
        rw [List.map_map, OrderedMap.keys, List.map_map]
        rfl
      rw [hnames]
      exact Graph.nodup_names hplain
  · intro g g' hg hg' tree tree' after after' path path' bytes hsave hread hsave' hread'
    obtain ⟨plain, rfl, hwrite⟩ := WideGraph.exists_plain_of_save hg hsave
    obtain ⟨plain', rfl, hwrite'⟩ := WideGraph.exists_plain_of_save hg' hsave'
    have hbytes := Except.ok.inj ((FileTree.read_of_write hwrite).symm.trans hread)
    have hbytes' := Except.ok.inj ((FileTree.read_of_write hwrite').symm.trans hread')
    have htext : some plain.catalog.exportText = some plain'.catalog.exportText := by
      rw [← Utf8.decode?_encode, ← Utf8.decode?_encode plain'.catalog.exportText, hbytes, hbytes']
    exact congrArg Graph.wide (Graph.eq_of_exportText (WideGraph.separable_wide.mp hg)
      (WideGraph.separable_wide.mp hg') (Option.some.inj htext))

/-- Tokens with quotes, control characters and characters of two bytes, and one graph of a source
in which a surrogate stands alone. -/
theorem save_lossless_escaped :
    let rules : OrderedMap Term Rule :=
      ⟨[(["\"", "\\\x01"], ⟨[["é"], ["é"]], true⟩), (["a"], ⟨[], false⟩)], by decide⟩
    let members : List (Text × Json) :=
      [("\" \\\x01", .object [("outputs", .array [.string "é", .string "é"]),
        ("include_original", .bool true)]),
       ("a", .object [("outputs", .array []), ("include_original", .bool false)])]
    let g : WideGraph := ({ rules, lookahead := -7 } : Graph).wide
    let other : WideGraph := ({ rules, lookahead := 7 } : Graph).wide
    let tree : FileTree := { workingDirectory := [] }
    let path : Path := .ofText "out"
    let source : Rules.WideSource := .text (.surrogate 0 :: Text.wide ", b")
    (∃ after bytes t, g.save tree path = (.ok (), after) ∧ after.read path = .ok bytes ∧
      Utf8.decode? bytes = some t ∧
      Json.readWithin ⟨4300, 977⟩ t = .ok (.object
        [("rules", .object members), ("max_horizontal_context", .number "-7")])) ∧
    (g.save tree path).2.read path ≠ (other.save tree path).2.read path ∧
    ∃ wide, ({ normalizer := ({} : Analyzer).normalizer } : Rules.Parser).wideGraph? source =
      some wide ∧ wide.Separable := by
  intro rules members g other tree path source
  obtain ⟨hread, hinjective, hseparable⟩ := save_lossless
  have hg : g.Separable := WideGraph.separable_wide.mpr (by decide)
  have hother : other.Separable := WideGraph.separable_wide.mpr (by decide)
  have hsave : (g.save tree path).1 = .ok () := by decide +kernel
  have hsave' : (other.save tree path).1 = .ok () := by decide +kernel
  obtain ⟨-, -, hwritten⟩ := hread g hg tree (g.save tree path).2 path _ rfl
  obtain ⟨plain, bytes, t, hplain, hbytes, ht, hjson, -⟩ := hwritten hsave
  refine ⟨⟨_, bytes, t, Prod.ext hsave rfl, hbytes, ht, ?_⟩, fun hsame => ?_, ?_⟩
  · obtain rfl := WideGraph.wide_injective hplain
    have hdefault : Json.readWithin ⟨4300, 977⟩ t = .ok (.object
        [("rules", .object members), ("max_horizontal_context", .ofInt (-7))]) :=
      hjson ⟨4300, 977⟩ (by decide) (by decide)
    exact hdefault
  · have heq := hinjective g other hg hother tree tree _ _ path path bytes (Prod.ext hsave rfl)
      hbytes (Prod.ext hsave' rfl) (hsame ▸ hbytes)
    exact absurd (congrArg WideGraph.lookahead heq) (by decide)
  · have hsome : (({ normalizer := ({} : Analyzer).normalizer } : Rules.Parser).wideGraph?
        source).isSome = true := by decide +kernel
    obtain ⟨wide, hwide⟩ := Option.isSome_iff_exists.mp hsome
    exact ⟨wide, hwide, (hseparable {} false true source wide hwide).1⟩

/-- A surrogate that stands alone in a source reaches a graph of separable terms, and its file is
left empty, which is no JSON. A lookahead of too many digits keeps any file from being opened. -/
theorem save_lossless_only_of_plain :
    let source : Rules.WideSource := .text (.surrogate 0 :: Text.wide ", b")
    let lone : WideTerm := [[.surrogate 0]]
    let g : WideGraph :=
      { rules := ⟨[(lone, ⟨[lone], false⟩), ([[.char 'b']], ⟨[lone], false⟩)], by decide⟩
        lookahead := 1 }
    let large : WideGraph := { lookahead := .ofNat (Nat.pow 10 4300) }
    let tree : FileTree := { workingDirectory := [] }
    let path : Path := .ofText "out.json"
    (({ normalizer := ({} : Analyzer).normalizer } : Rules.Parser).wideGraph? source = some g ∧
      g.Separable ∧ (g.save tree path).1 = .error .surrogate ∧
      (g.save tree path).2.read path = .ok [] ∧
      ∀ limits, Json.readWithin limits [] = .error .malformed) ∧
    large.Separable ∧ large.save tree path = (.error .tooManyDigits, tree) := by
  intro source lone g large tree path
  refine ⟨⟨by decide +kernel, by decide, by decide +kernel, by decide +kernel, fun _ => rfl⟩,
    by decide, WideGraph.save_of_digits ?_⟩
  decide +kernel

end Thesaurus
