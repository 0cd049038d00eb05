import Thesaurus.Graph.Catalog
import Thesaurus.Proofs.Encoding.Utf8
import Thesaurus.Proofs.Files.Tree
import Thesaurus.Proofs.Json.Numeral
import Thesaurus.Proofs.Json.RoundTrip
import Thesaurus.Proofs.Rules.SelfEdges
import Thesaurus.Proofs.Term.Analysis

/-!
# Reading an export back

The export of a graph shows terms as names. As long as no token holds a space, no two terms share a
name, and the whole graph can be read back. Main facts: `json_catalog` for the value that is
written, `map_ofMember` and `eq_of_exportText` for what comes back, `separable_of_run` for the
graphs of a parser.
-/

set_option autoImplicit false

namespace Thesaurus

open Text

/-- The term has tokens, and every space in its name stands between two of them. -/
def Term.Separable (term : Term) : Prop := term ≠ [] ∧ ∀ token ∈ term, ' ' ∉ token

def Graph.Separable (g : Graph) : Prop := ∀ term ∈ g.terms, term.Separable

instance : DecidablePred Term.Separable := fun _ => inferInstanceAs (Decidable (_ ∧ _))

instance : DecidablePred Graph.Separable := fun g => List.decidableBAll _ g.terms

theorem Term.Separable.pieces_display {term : Term} (h : term.Separable) :
    pieces (· == ' ') term.display = term := by
  rw [pieces_eq_splitOnP]
  refine splitOnP_join (p := (· == ' ')) (beq_self_eq_true ' ') h.1 fun token htoken c hc => ?_
  rw [beq_eq_false_iff_ne]
  rintro rfl
  exact h.2 token htoken hc

theorem Term.Separable.eq_of_display {term other : Term} (h : term.Separable)
    (hother : other.Separable) (heq : term.display = other.display) : term = other := by
  rw [← h.pieces_display, heq, hother.pieces_display]

def Rule.member (entry : Term × Rule) : Text × Json :=
  (entry.1.display, .object [("outputs", .array (entry.2.outputs.map fun t => .string t.display)),
    ("include_original", .bool entry.2.keepsInput)])

/-- What a member of an exported object says, its names split at single spaces. -/
def Rule.ofMember : Text × Json → Term × Rule
  | (name, .object [(_, .array outputs), (_, .bool keepsInput)]) =>
    (pieces (· == ' ') name,
      { outputs := outputs.map fun
          | .string output => pieces (· == ' ') output
          | _ => []
        keepsInput })
  | (name, _) => (pieces (· == ' ') name, {})

namespace Graph

variable {g : Graph}

theorem mem_terms_of_entry {entry : Term × Rule} (h : entry ∈ g.rules.entries) :
    entry.1 ∈ g.terms ∧ ∀ output ∈ entry.2.outputs, output ∈ g.terms := by
  rw [terms]
  refine ⟨List.mem_append_left _ (List.mem_map_of_mem h), fun output houtput => ?_⟩
  exact List.mem_append_right _ (List.mem_flatMap.mpr ⟨entry.2, List.mem_map_of_mem h, houtput⟩)

section Separable

variable (hg : g.Separable)

include hg

theorem nodup_names : (g.rules.keys.map Term.display).Nodup := by
  refine List.Nodup.map_on ?_ g.rules.nodup
  intro term hterm other hother heq
  exact (hg term (List.mem_append_left _ hterm)).eq_of_display
    (hg other (List.mem_append_left _ hother)) heq

theorem entries_catalog : g.catalog.rules.entries =
    g.rules.entries.map fun entry => (entry.1.display, entry.2.named) := by
  refine OrderedMap.entries_ofList ?_
  have hnodup := nodup_names hg
  rw [OrderedMap.keys, List.map_map] at hnodup
  rwa [List.map_map]

theorem json_catalog : g.catalog.json =
    .object [("rules", .object (g.rules.entries.map Rule.member)),
      ("max_horizontal_context", .ofInt g.lookahead)] := by
  have hmembers : (g.catalog.rules.mapValues NamedRule.json).entries =
      g.rules.entries.map Rule.member := by
    rw [OrderedMap.mapValues]
    dsimp only
    rw [entries_catalog hg, List.map_map]
    apply List.map_congr_left
    intro entry _
    simp [Rule.member, Rule.named, NamedRule.json]
  rw [Catalog.json, hmembers]
  rfl

theorem size_catalog : g.catalog.rules.size = g.size := by
  rw [OrderedMap.size, entries_catalog hg, List.length_map]
  rfl

theorem total_catalog : g.catalog.rules.total (·.outputs.length) = g.countEdges := by
  rw [countEdges, OrderedMap.total, OrderedMap.values, entries_catalog hg, List.map_map,
    OrderedMap.total, OrderedMap.values, List.foldr_map, List.foldr_map]
  simp [Rule.named]

theorem map_ofMember : (g.rules.entries.map Rule.member).map Rule.ofMember = g.rules.entries := by
  rw [List.map_map, List.map_congr_left, List.map_id]
  intro entry hentry
  obtain ⟨hinput, houtputs⟩ := mem_terms_of_entry hentry
  have hpieces : entry.2.outputs.map (fun t => pieces (· == ' ') t.display) = entry.2.outputs := by
    rw [List.map_congr_left fun t ht => (hg t (houtputs t ht)).pieces_display, List.map_id']
  rw [Function.comp_apply, Rule.member, Rule.ofMember, List.map_map, (hg _ hinput).pieces_display]
  exact congrArg (fun outputs => (entry.1, { entry.2 with outputs })) hpieces

theorem fits_json {limit : Nat} (h : (ofNat g.lookahead.natAbs).length ≤ limit) :
    Json.Fits limit 4 g.catalog.json := by
  have hmember (entry : Term × Rule) : Json.Fits limit 2 (Rule.member entry).2 := by
    refine .object (List.forall_mem_cons.mpr ⟨.array fun item hitem => ?_,
      List.forall_mem_singleton.mpr (.bool _)⟩)
    obtain ⟨output, -, rfl⟩ := List.mem_map.mp hitem
    exact .string _
  rw [json_catalog hg]
  refine .object (List.forall_mem_cons.mpr ⟨.object (List.forall_mem_map.mpr ?_),
    List.forall_mem_singleton.mpr (Json.fits_ofInt h 3)⟩)
  exact fun entry _ => hmember entry

theorem read_exportText {limits : Json.Limits}
    (hdigits : (ofNat g.lookahead.natAbs).length ≤ limits.digits) (hdepth : 4 ≤ limits.depth) :
    Json.readWithin limits g.catalog.exportText = .ok g.catalog.json :=
  Json.read_write Json.proper_indented hdepth (fits_json hg hdigits)

theorem read_exportText_newline {limits : Json.Limits}
    (hdigits : (ofNat g.lookahead.natAbs).length ≤ limits.digits) (hdepth : 4 ≤ limits.depth) :
    Json.readWithin limits (g.catalog.exportText ++ "\n") = .ok g.catalog.json :=
  Json.read_write_newline Json.proper_indented hdepth (fits_json hg hdigits)

theorem eq_of_exportText {g' : Graph} (hg' : g'.Separable)
    (h : g.catalog.exportText = g'.catalog.exportText) : g = g' := by
  -- Both are read back by a reader that takes the digits of either.
  let limits : Json.Limits :=
    { digits := max (ofNat g.lookahead.natAbs).length (ofNat g'.lookahead.natAbs).length, depth := 4 }
  have hread : Json.readWithin limits g.catalog.exportText = .ok g.catalog.json :=
    read_exportText hg (le_max_left _ _) (le_refl 4)
  have hread' : Json.readWithin limits g'.catalog.exportText = .ok g'.catalog.json :=
    read_exportText hg' (le_max_right _ _) (le_refl 4)
  rw [h, hread', json_catalog hg, json_catalog hg'] at hread
  obtain ⟨hmembers, hlookahead⟩ : g'.rules.entries.map Rule.member = g.rules.entries.map Rule.member ∧
      Json.ofInt g'.lookahead = Json.ofInt g.lookahead := by
    simpa using hread
  have hentries : g'.rules.entries = g.rules.entries := by
    rw [← map_ofMember hg', hmembers, map_ofMember hg]
  exact congrArg₂ Graph.mk (OrderedMap.ext_entries hentries.symm)
    (Json.ofInt_injective hlookahead.symm)

end Separable

end Graph

namespace Rules

theorem separable_of_run {p : Parser} {a : Analyzer} (hp : p.normalizer = a.normalizer)
    {source : Source} {g : Graph} (h : p.run source = .ok g) : g.Separable := by
  obtain ⟨pairs, hpairs, rfl⟩ := exists_pairs_of_run h
  intro term hterm
  rw [mem_terms_ofEdges, mem_terms_pairEdges, pairTerms, List.mem_flatMap] at hterm
  obtain ⟨pair, hpair, hterm⟩ := hterm
  have hmem : Except.ok pair ∈ (source.lines.flatMap groups).map (resolve p.normalizer) :=
    hpairs ▸ List.mem_map_of_mem hpair
  obtain ⟨group, -, hgroup⟩ := List.mem_map.mp hmem
  obtain ⟨first, second, -, hfirst, hsecond⟩ := resolve_eq_ok_iff.mp hgroup
  rw [hp] at hfirst hsecond
  have hnormalized {t : Text} {u : Term} (hu : a.normalizer t = .ok u) : u.Separable := by
    refine ⟨a.neverEmpty_normalizer t u hu, fun token htoken hspace => ?_⟩
    exact absurd ((Analyzer.mem_normalizer hu htoken).2 ' ' hspace) (by decide)
  rcases List.mem_pair.mp hterm with rfl | rfl
  · exact hnormalized hfirst
  · exact hnormalized hsecond

end Rules

end Thesaurus
