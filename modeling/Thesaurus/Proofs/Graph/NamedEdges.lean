import Thesaurus.Proofs.Graph.EdgeOrder
import Thesaurus.Proofs.Graph.Export

/-!
# Edges and rules by name

A graph is shown as a list of edges between names and as rules under names. Both say the same if no
two inputs share a name and no rule is empty. Main facts: `describes_edgesOfEntries` for rules
under names, `describes_of_run` for the graphs of a parser.
-/

set_option autoImplicit false

namespace Thesaurus

/-- An edge with its terms written out as names. -/
structure NamedEdge where
  input : Text
  output : Text
  keepsInput : Bool
deriving DecidableEq, Repr

def Edge.named (e : Edge) : NamedEdge := ⟨e.input.display, e.output.display, e.keepsInput⟩

/-- The edges say what the rules say: their inputs are the names of the rules, the outputs of a name
stand in the order of its rule, every edge has the mark of its rule, and the edges of a name stand
together. -/
structure Describes (edges : List NamedEdge) (rules : OrderedMap Text NamedRule) : Prop where
  inputs : ∀ name, name ∈ edges.map (·.input) ↔ name ∈ rules.keys
  outputs : ∀ name rule, rules.get? name = some rule →
    (edges.filter (·.input = name)).map (·.output) = rule.outputs
  keepsInput : ∀ e ∈ edges, ∀ rule, rules.get? e.input = some rule →
    e.keepsInput = rule.keepsInput
  together : KeysTogether (edges.map fun e => (e.input, e.output))

theorem Describes.of_perm {edges : List NamedEdge} {rules rules' : OrderedMap Text NamedRule}
    (h : Describes edges rules) (hperm : rules'.entries.Perm rules.entries) :
    Describes edges rules' := by
  have hget (name : Text) (rule : NamedRule) (hrule : rules'.get? name = some rule) :
      rules.get? name = some rule :=
    OrderedMap.get?_eq_some_iff.mpr (hperm.mem_iff.mp (OrderedMap.get?_eq_some_iff.mp hrule))
  exact
    { inputs := fun name => (h.inputs name).trans (hperm.map Prod.fst).mem_iff.symm
      outputs := fun name rule hrule => h.outputs name rule (hget name rule hrule)
      keepsInput := fun e he rule hrule => h.keepsInput e he rule (hget e.input rule hrule)
      together := h.together }

def edgesOfEntry (entry : Text × NamedRule) : List NamedEdge :=
  entry.2.outputs.map fun output => ⟨entry.1, output, entry.2.keepsInput⟩

/-- The edges of rules under names, rule by rule. -/
def edgesOfEntries (entries : List (Text × NamedRule)) : List NamedEdge :=
  entries.flatMap edgesOfEntry

section Entries

variable {entries : List (Text × NamedRule)} {entry : Text × NamedRule} {e : NamedEdge}

theorem input_of_mem_edgesOfEntry (h : e ∈ edgesOfEntry entry) : e.input = entry.1 := by
  obtain ⟨output, -, rfl⟩ := List.mem_map.mp h
  rfl

theorem exists_entry_of_mem_edgesOfEntries (h : e ∈ edgesOfEntries entries) :
    ∃ entry ∈ entries, e.input = entry.1 ∧ e.keepsInput = entry.2.keepsInput := by
  obtain ⟨entry, hentry, he⟩ := List.mem_flatMap.mp h
  obtain ⟨output, -, rfl⟩ := List.mem_map.mp he
  exact ⟨entry, hentry, rfl, rfl⟩

variable (hnodup : (entries.map Prod.fst).Nodup)

include hnodup

theorem filter_edgesOfEntries (hentry : entry ∈ entries) :
    (edgesOfEntries entries).filter (·.input = entry.1) = edgesOfEntry entry := by
  induction entries with
  | nil => exact absurd hentry List.not_mem_nil
  | cons first rest ih =>
    rw [List.map_cons, List.nodup_cons] at hnodup
    rw [edgesOfEntries, List.flatMap_cons, List.filter_append]
    rcases List.mem_cons.mp hentry with rfl | hrest
    · have hall : (edgesOfEntry entry).filter (·.input = entry.1) = edgesOfEntry entry :=
        List.filter_eq_self.mpr fun e he => by simpa using input_of_mem_edgesOfEntry he
      have hnone : (edgesOfEntries rest).filter (·.input = entry.1) = [] := by
        refine List.filter_eq_nil_iff.mpr fun e he heq => hnodup.1 ?_
        obtain ⟨other, hother, hinput, -⟩ := exists_entry_of_mem_edgesOfEntries he
        exact List.mem_map.mpr ⟨other, hother, hinput.symm.trans (by simpa using heq)⟩
      rw [hall, ← edgesOfEntries, hnone, List.append_nil]
    · have hnone : (edgesOfEntry first).filter (·.input = entry.1) = [] := by
        refine List.filter_eq_nil_iff.mpr fun e he heq => hnodup.1 ?_
        rw [← input_of_mem_edgesOfEntry he, of_decide_eq_true heq]
        exact List.mem_map_of_mem hrest
      rw [hnone, List.nil_append]
      exact ih hnodup.2 hrest

theorem keysTogether_edgesOfEntries :
    KeysTogether ((edgesOfEntries entries).map fun e => (e.input, e.output)) := by
  induction entries with
  | nil => exact fun x y z hsub => absurd hsub (by simp [edgesOfEntries])
  | cons first rest ih =>
    rw [List.map_cons, List.nodup_cons] at hnodup
    rw [edgesOfEntries, List.flatMap_cons, List.map_append]
    refine keysTogether_append (k := first.1) ?_ ?_ (ih hnodup.2)
    · exact List.forall_mem_map.mpr fun e he => input_of_mem_edgesOfEntry he
    · refine List.forall_mem_map.mpr fun e he heq => hnodup.1 ?_
      obtain ⟨other, hother, hinput, -⟩ := exists_entry_of_mem_edgesOfEntries he
      exact List.mem_map.mpr ⟨other, hother, hinput.symm.trans heq⟩

end Entries

theorem describes_edgesOfEntries {rules : OrderedMap Text NamedRule}
    (h : ∀ entry ∈ rules.entries, entry.2.outputs ≠ []) :
    Describes (edgesOfEntries rules.entries) rules where
  inputs := by
    intro name
    constructor
    · intro hname
      obtain ⟨e, he, rfl⟩ := List.mem_map.mp hname
      obtain ⟨entry, hentry, hinput, -⟩ := exists_entry_of_mem_edgesOfEntries he
      exact hinput ▸ List.mem_map_of_mem hentry
    · intro hname
      obtain ⟨entry, hentry, rfl⟩ := List.mem_map.mp hname
      obtain ⟨output, houtput⟩ := List.exists_mem_of_ne_nil _ (h entry hentry)
      refine List.mem_map.mpr ⟨⟨entry.1, output, entry.2.keepsInput⟩, ?_, rfl⟩
      exact List.mem_flatMap.mpr ⟨entry, hentry, List.mem_map_of_mem houtput⟩
  outputs := by
    intro name rule hrule
    have hentry := OrderedMap.get?_eq_some_iff.mp hrule
    rw [filter_edgesOfEntries rules.nodup hentry, edgesOfEntry, List.map_map]
    exact List.map_id' _
  keepsInput := by
    intro e he rule hrule
    obtain ⟨entry, hentry, hinput, hkeeps⟩ := exists_entry_of_mem_edgesOfEntries he
    rw [hinput, OrderedMap.get?_eq_some_iff.mpr hentry] at hrule
    rw [hkeeps, Option.some.inj hrule]
  together := keysTogether_edgesOfEntries rules.nodup

namespace Graph

variable {g : Graph}

theorem map_named_edges (hg : g.Separable) :
    g.edges.map Edge.named = edgesOfEntries g.catalog.rules.entries := by
  rw [edges, edgesOfEntries, entries_catalog hg, List.map_flatMap, List.flatMap_map]
  refine List.flatMap_congr fun entry _ => ?_
  rw [edgesOfEntry, Rule.named, List.map_map, List.map_map]
  rfl

theorem describes_catalog (hg : g.Separable) (h : ∀ entry ∈ g.rules.entries, entry.2.outputs ≠ []) :
    Describes (g.edges.map Edge.named) g.catalog.rules := by
  rw [map_named_edges hg]
  apply describes_edgesOfEntries
  rw [entries_catalog hg]
  refine List.forall_mem_map.mpr fun entry hentry hnone => h entry hentry ?_
  exact List.map_eq_nil_iff.mp hnone

end Graph

theorem outputs_ne_nil_ofEdges {dedup : Bool} {edges : List Edge} :
    ∀ entry ∈ (Graph.ofEdges dedup edges).rules.entries, entry.2.outputs ≠ [] := by
  intro entry hentry
  obtain ⟨input, hinput, rfl⟩ := List.mem_map.mp hentry
  obtain ⟨e, he, rfl⟩ := List.mem_map.mp (mem_firsts.mp hinput)
  have houtput : e.output ∈ outputsOf edges e.input := mem_outputsOf.mpr (List.mem_map_of_mem he)
  exact List.ne_nil_of_mem (mem_outputs_ofEdges.mpr houtput)

theorem Rules.describes_of_run {p : Parser} {a : Analyzer} (hp : p.normalizer = a.normalizer)
    {source : Source} {g : Graph} (h : p.run source = .ok g) :
    Describes (g.edges.map Edge.named) g.catalog.rules := by
  have hne : p.normalizer.NeverEmpty := hp ▸ Analyzer.neverEmpty_normalizer a
  have hg := separable_of_run hp h
  obtain ⟨pairs, -, rfl⟩ := exists_verdict_of_run hne h
  exact Graph.describes_catalog hg outputs_ne_nil_ofEdges

end Thesaurus
