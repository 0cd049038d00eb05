import Thesaurus.Graph.Wide
import Thesaurus.Proofs.Graph.Export
import Thesaurus.Proofs.Text.Wide

/-!
# Graphs of wide texts

What is plain is a text, a term or a graph of characters. A graph of separable terms has a catalog
just if it is plain, and then the catalog is that of the graph of characters. Main facts:
`wide_chars`, `catalog?_wide` and `catalog?_eq_none`.
-/

set_option autoImplicit false

namespace Thesaurus

open Text

namespace WideTerm

def isPlain (term : WideTerm) : Bool := term.all (·.isPlain)

def chars (term : WideTerm) : Term := term.map (·.chars)

theorem wide_chars {term : WideTerm} (h : term.isPlain = true) : term.chars.wide = term := by
  rw [chars, Term.wide, List.map_map, List.map_congr_left, List.map_id]
  exact fun token htoken => WideText.wide_chars (List.all_eq_true.mp h token htoken)

@[simp] theorem isPlain_wide (term : Term) : term.wide.isPlain = true := by
  rw [isPlain, Term.wide, List.all_map, List.all_eq_true]
  exact fun token _ => WideText.isPlain_wide token

theorem wide_injective : Function.Injective Term.wide :=
  List.map_injective_iff.mpr WideText.wide_injective

theorem display_wide (term : Term) : term.wide.display = term.display.wide := by
  induction term with
  | nil => rfl
  | cons token rest ih =>
    cases rest with
    | nil => exact List.intercalate_singleton
    | cons next rest =>
      have hdisplay : Term.display (token :: next :: rest) =
          token ++ [' '] ++ Term.display (next :: rest) := rfl
      rw [hdisplay, Text.wide_append, Text.wide_append, ← ih]
      exact List.intercalate_cons_cons

theorem isPlain_display (term : WideTerm) : term.display.isPlain = term.isPlain := by
  induction term with
  | nil => rfl
  | cons token rest ih =>
    cases rest with
    | nil =>
      rw [display, List.intercalate_singleton]
      exact (Bool.and_true _).symm
    | cons next rest =>
      have hspace : WideText.isPlain [CodePoint.char ' '] = true := rfl
      rw [display, List.intercalate_cons_cons, WideText.isPlain, List.all_append, List.all_append]
      change (token.isPlain && WideText.isPlain [.char ' '] && (display (next :: rest)).isPlain) = _
      rw [hspace, ih, Bool.and_true]
      rfl

/-- The term has tokens, and every space in its name stands between two of them. -/
def Separable (term : WideTerm) : Prop := term ≠ [] ∧ ∀ token ∈ term, CodePoint.char ' ' ∉ token

instance : DecidablePred Separable := fun _ => inferInstanceAs (Decidable (_ ∧ _))

theorem separable_wide {term : Term} : term.wide.Separable ↔ term.Separable := by
  refine and_congr (not_congr List.map_eq_nil_iff) ?_
  rw [Term.wide, List.forall_mem_map]
  refine forall₂_congr fun token _ => not_congr ⟨fun h => ?_, List.mem_map_of_mem⟩
  obtain ⟨c, hc, heq⟩ := List.mem_map.mp h
  exact CodePoint.char.inj heq ▸ hc

theorem Separable.pieces_display {term : WideTerm} (h : term.Separable) :
    pieces (· == .char ' ') term.display = term := by
  rw [pieces_eq_splitOnP, display, ← List.splitOn_eq_splitOnP]
  exact List.splitOn_intercalate _ h.2 h.1

theorem Separable.eq_of_display {term other : WideTerm} (h : term.Separable)
    (hother : other.Separable) (heq : term.display = other.display) : term = other := by
  rw [← h.pieces_display, heq, hother.pieces_display]

end WideTerm

def NamedRule.wide (rule : NamedRule) : WideNamedRule :=
  ⟨rule.outputs.map Text.wide, rule.keepsInput⟩

theorem WideRule.named_wide (rule : Rule) : rule.wide.named = rule.named.wide := by
  simp [WideRule.named, Rule.wide, Rule.named, NamedRule.wide, WideTerm.display_wide]

@[simp] theorem WideNamedRule.isPlain_wide (rule : NamedRule) : rule.wide.isPlain = true := by
  simp [WideNamedRule.isPlain, NamedRule.wide]

@[simp] theorem WideNamedRule.chars_wide (rule : NamedRule) : rule.wide.chars = rule := by
  simp [WideNamedRule.chars, NamedRule.wide, Function.comp_def]

namespace WideGraph

/-- The terms that appear in a graph, as inputs or as outputs. -/
def terms (g : WideGraph) : List WideTerm := g.rules.keys ++ g.rules.values.flatMap (·.outputs)

def Separable (g : WideGraph) : Prop := ∀ term ∈ g.terms, term.Separable

instance : DecidablePred Separable := fun g => List.decidableBAll _ g.terms

/-- No term of the graph holds a surrogate. -/
def IsPlain (g : WideGraph) : Prop := ∀ term ∈ g.terms, term.isPlain = true

instance : DecidablePred IsPlain := fun g => List.decidableBAll _ g.terms

theorem forall_mem_terms {g : WideGraph} {P : WideTerm → Prop} :
    (∀ term ∈ g.terms, P term) ↔
      ∀ entry ∈ g.rules.entries, P entry.1 ∧ ∀ output ∈ entry.2.outputs, P output := by
  rw [terms, List.forall_mem_append, OrderedMap.keys, OrderedMap.values, List.forall_mem_map,
    List.forall_mem_flatMap, List.forall_mem_map]
  exact forall₂_and.symm

theorem entries_wide (g : Graph) :
    g.wide.rules.entries = g.rules.entries.map fun entry => (entry.1.wide, entry.2.wide) := by
  refine OrderedMap.entries_ofList ?_
  rw [List.map_map]
  have hnodup := g.rules.nodup.map WideTerm.wide_injective
  rwa [List.map_map] at hnodup

theorem wide_injective : Function.Injective Graph.wide := by
  have hentry : Function.Injective fun entry : Term × Rule => (entry.1.wide, entry.2.wide) := by
    intro entry other heq
    obtain ⟨hinput, hrule⟩ := Prod.mk.inj heq
    obtain ⟨houtputs, hkeeps⟩ := WideRule.mk.inj hrule
    refine Prod.ext (WideTerm.wide_injective hinput) ?_
    exact congrArg₂ Rule.mk (List.map_injective_iff.mpr WideTerm.wide_injective houtputs) hkeeps
  intro g g' heq
  have hentries : g.wide.rules.entries = g'.wide.rules.entries := by rw [heq]
  rw [entries_wide, entries_wide] at hentries
  exact congrArg₂ Graph.mk (OrderedMap.ext_entries (List.map_injective_iff.mpr hentry hentries))
    (congrArg WideGraph.lookahead heq)

theorem terms_wide (g : Graph) : g.wide.terms = g.terms.map Term.wide := by
  rw [terms, Graph.terms, OrderedMap.keys, OrderedMap.values, entries_wide, List.map_append]
  simp only [OrderedMap.keys, OrderedMap.values, List.map_map, List.flatMap_map, List.map_flatMap]
  rfl

theorem separable_wide {g : Graph} : g.wide.Separable ↔ g.Separable := by
  rw [Separable, terms_wide, List.forall_mem_map]
  exact forall₂_congr fun _ _ => WideTerm.separable_wide

theorem isPlain_wide (g : Graph) : g.wide.IsPlain := by
  rw [IsPlain, terms_wide, List.forall_mem_map]
  exact fun term _ => WideTerm.isPlain_wide term

/-- The graph of the characters alone. -/
def chars (g : WideGraph) : Graph where
  rules := .ofList (g.rules.entries.map fun (input, rule) =>
    (input.chars, ⟨rule.outputs.map WideTerm.chars, rule.keepsInput⟩))
  lookahead := g.lookahead

theorem wide_chars {g : WideGraph} (h : g.IsPlain) : g.chars.wide = g := by
  have hplain := forall_mem_terms.mp h
  have hinputs : (g.rules.entries.map fun entry => entry.1.chars.wide) =
      g.rules.entries.map Prod.fst :=
    List.map_congr_left fun entry hentry => WideTerm.wide_chars (hplain entry hentry).1
  have hentries : g.chars.rules.entries = g.rules.entries.map fun (input, rule) =>
      (input.chars, ⟨rule.outputs.map WideTerm.chars, rule.keepsInput⟩) := by
    refine OrderedMap.entries_ofList (List.Nodup.of_map Term.wide ?_)
    rw [List.map_map, List.map_map]
    exact hinputs ▸ g.rules.nodup
  have hrules : g.chars.wide.rules = g.rules := by
    refine OrderedMap.ext_entries ?_
    rw [entries_wide, hentries, List.map_map, List.map_congr_left, List.map_id]
    intro entry hentry
    obtain ⟨hinput, houtputs⟩ := hplain entry hentry
    have hwide : (entry.2.outputs.map WideTerm.chars).map Term.wide = entry.2.outputs := by
      rw [List.map_map, List.map_congr_left, List.map_id]
      exact fun output houtput => WideTerm.wide_chars (houtputs output houtput)
    change (entry.1.chars.wide, (⟨_, entry.2.keepsInput⟩ : WideRule)) = entry
    rw [WideTerm.wide_chars hinput, hwide]
  exact congrArg (WideGraph.mk · g.lookahead) hrules

/-! ### Which graphs have a catalog -/

theorem entries_named_wide (g : Graph) :
    g.wide.named.entries = g.catalog.rules.entries.map (Prod.map Text.wide NamedRule.wide) := by
  have hnames : g.wide.rules.entries.map (fun entry => (entry.1.display, entry.2.named)) =
      (g.rules.entries.map fun entry => (entry.1.display, entry.2.named)).map
        (Prod.map Text.wide NamedRule.wide) := by
    rw [entries_wide, List.map_map, List.map_map]
    refine List.map_congr_left fun entry _ => Prod.ext (WideTerm.display_wide entry.1) ?_
    exact WideRule.named_wide entry.2
  change (OrderedMap.ofList (g.wide.rules.entries.map _)).entries = _
  rw [hnames, OrderedMap.entries_ofList_map WideText.wide_injective]
  rfl

/-- The catalog of a graph of characters is the one that the command line writes. -/
theorem catalog?_wide (g : Graph) : g.wide.catalog? = some g.catalog := by
  have hplain : (g.catalog.rules.entries.map (Prod.map Text.wide NamedRule.wide)).all
      (fun entry => entry.1.isPlain && entry.2.isPlain) = true := by
    simp
  have hchars : (g.catalog.rules.entries.map (Prod.map Text.wide NamedRule.wide)).map
      (Prod.map WideText.chars WideNamedRule.chars) = g.catalog.rules.entries := by
    simp [Function.comp_def, Prod.map]
  rw [catalog?, entries_named_wide, if_pos hplain, hchars, OrderedMap.ofList_entries]
  rfl

section Separable

variable {g : WideGraph} (hg : g.Separable)

include hg

theorem entries_named : g.named.entries =
    g.rules.entries.map fun entry => (entry.1.display, entry.2.named) := by
  refine OrderedMap.entries_ofList ?_
  have hnames : (g.rules.keys.map WideTerm.display).Nodup := by
    refine List.Nodup.map_on ?_ g.rules.nodup
    intro term hterm other hother heq
    exact (hg term (List.mem_append_left _ hterm)).eq_of_display
      (hg other (List.mem_append_left _ hother)) heq
  rw [OrderedMap.keys, List.map_map] at hnames
  rwa [List.map_map]

/-- A surrogate in any term keeps the names from being written. -/
theorem catalog?_eq_none (h : ¬ g.IsPlain) : g.catalog? = none := by
  rw [catalog?, entries_named hg, if_neg]
  contrapose! h
  rw [List.all_map, List.all_eq_true] at h
  refine forall_mem_terms.mpr fun entry hentry => ?_
  have hplain := h entry hentry
  simpa [WideRule.named, WideNamedRule.isPlain, WideTerm.isPlain_display] using hplain

end Separable

end WideGraph

end Thesaurus
