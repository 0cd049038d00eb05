import Thesaurus.Proofs.Rules.Outcome

/-!
# Rules that are rejected

A parser that rejects its rules stops within a group, and what it reported until then is for
debugging only: whoever runs it has to say that they were rejected. Main fact: `exists_rejected`.
-/

set_option autoImplicit false

namespace Thesaurus.Rules

/-- All that was reported in a session is for debugging. -/
def Session.OnlyDebug (s : Session) : Prop := ∀ event ∈ s.events.toList, event.level = .debug

namespace Session

variable {s : Session}

theorem OnlyDebug.put (h : s.OnlyDebug) (e : Edge) : (s.put e).OnlyDebug := by
  intro event hevent
  rw [Session.put, Array.toList_appendList] at hevent
  rcases List.mem_append.mp hevent with hevent | hevent
  · exact h event hevent
  · rw [Draft.notices] at hevent
    split_ifs at hevent
    · rw [List.mem_singleton.mp hevent]
      rfl
    · exact absurd hevent List.not_mem_nil

theorem OnlyDebug.foldl_put (h : s.OnlyDebug) (edges : List Edge) :
    (edges.foldl Session.put s).OnlyDebug := by
  induction edges generalizing s with
  | nil => exact h
  | cons e edges ih => exact ih (h.put e)

theorem OnlyDebug.foldl_after (h : s.OnlyDebug) (p : Parser) (all : List Text) :
    (all.foldl (Session.after p) s).OnlyDebug := by
  induction all generalizing s with
  | nil => exact h
  | cons group all ih =>
    have hconsulted : (s.consult (asked p.normalizer group)).OnlyDebug := h
    exact ih (hconsulted.foldl_put _)

/-- What is for debugging does not show among the warnings. -/
theorem OnlyDebug.atLeast (h : s.OnlyDebug) : Event.atLeast .warning s.events.toList = [] := by
  rw [Event.atLeast, List.filter_eq_nil_iff]
  intro event hevent
  rw [h event hevent]
  decide

end Session

/-- Whether rules are taken or made a graph of, they are rejected in the same way and at the same
place. -/
theorem exists_rejected {p : Parser} (hne : p.normalizer.NeverEmpty) {source : Source}
    {e : RuleError} (h : p.run source = .error (.rule e)) :
    ∃ after : Session, after.OnlyDebug ∧
      (p.take source).runFrom p.start = (.error (.rule e), after) ∧
      (p.graph source).runFrom p.start = (.error (.rule e), after) := by
  rw [run_eq hne, verdict] at h
  cases hall : (source.lines.flatMap groups).mapM (resolve p.normalizer) with
  | ok pairs =>
    rw [hall] at h
    cases hfailure : source.failure with
    | none =>
      rw [hfailure] at h
      cases h
    | some reason =>
      rw [hfailure] at h
      cases h
  | error cause =>
    rw [hall] at h
    obtain rfl : cause = e := ParseError.rule.inj (Except.error.inj h)
    obtain ⟨before, group, rest, hsplit, hbefore, hgroup⟩ := exists_fault_of_mapM hall
    have hlines := runFrom_forM_takeGroup_fault hne hbefore hgroup rest p.start
    rw [← hsplit, ← takeLines_eq_forM] at hlines
    have htake : (p.take source).runFrom p.start = _ := Step.runFrom_bind_error hlines _
    have hstart : p.start.OnlyDebug := fun event hevent => absurd hevent List.not_mem_nil
    exact ⟨_, hstart.foldl_after p _, htake, Step.runFrom_bind_error htake _⟩

end Thesaurus.Rules
