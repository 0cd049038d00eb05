import Thesaurus.Proofs.Graph.OfEdges
import Thesaurus.Rules.Parser

/-!
# Runs of steps

What each step of a session does, and how the runs of steps follow one another. Main facts:
`runFrom_mapM_normalize` for the terms of a group, `runFrom_forM_submit` for edges that are all
accepted, `runFrom_relate` for both, and `takeLines_eq_forM`, which makes the loops over lines and
over groups one.
-/

set_option autoImplicit false

namespace Thesaurus.Rules

namespace Session

/-- The session after an edge that its draft accepts. -/
def put (s : Session) (e : Edge) : Session :=
  { s with
    draft := s.draft.put e
    submitted := s.submitted.push e
    events := s.events ++ Draft.notices (s.draft.drops e) e }

/-- The session after some texts were given to the normalizer. -/
def consult (s : Session) (ts : List Text) : Session :=
  { s with normalized := s.normalized ++ ts }

theorem consult_nil (s : Session) : s.consult [] = s := by
  cases s
  simp [consult]

theorem consult_cons (s : Session) (t : Text) (ts : List Text) :
    s.consult (t :: ts) = ({ s with normalized := s.normalized.push t } : Session).consult ts := by
  simp [consult]

theorem draft_foldl_put (edges : List Edge) (s : Session) :
    (edges.foldl put s).draft = edges.foldl Draft.put s.draft := by
  induction edges generalizing s with
  | nil => rfl
  | cons e edges ih => exact ih (s.put e)

theorem normalized_foldl_put (edges : List Edge) (s : Session) :
    (edges.foldl put s).normalized = s.normalized := by
  induction edges generalizing s with
  | nil => rfl
  | cons e edges ih => exact ih (s.put e)

theorem submitted_foldl_put (edges : List Edge) (s : Session) :
    (edges.foldl put s).submitted.toList = s.submitted.toList ++ edges := by
  induction edges generalizing s with
  | nil => exact (List.append_nil _).symm
  | cons e edges ih =>
    rw [List.foldl_cons, ih, put, Array.toList_push, List.append_assoc, List.singleton_append]

end Session

section Bind

variable {ε σ α β : Type} {first : ExceptT ε (StateM σ) α} {s s' : σ}

theorem run_bind_ok {a : α} (h : first.run.run s = (.ok a, s'))
    (next : α → ExceptT ε (StateM σ) β) :
    (first >>= next).run.run s = (next a).run.run s' := by
  simp only [ExceptT.run_bind, StateT.run_bind, h]
  rfl

theorem run_bind_error {cause : ε} (h : first.run.run s = (.error cause, s'))
    (next : α → ExceptT ε (StateM σ) β) : (first >>= next).run.run s = (.error cause, s') := by
  simp only [ExceptT.run_bind, StateT.run_bind, h]
  rfl

theorem exists_of_run_bind_ok {next : α → ExceptT ε (StateM σ) β} {b : β}
    (h : (first >>= next).run.run s = (.ok b, s')) :
    ∃ a middle, first.run.run s = (.ok a, middle) ∧ (next a).run.run middle = (.ok b, s') := by
  cases hfirst : first.run.run s with
  | mk outcome middle =>
    cases outcome with
    | error cause =>
      rw [run_bind_error hfirst] at h
      exact absurd h nofun
    | ok a =>
      rw [run_bind_ok hfirst] at h
      exact ⟨a, middle, rfl, h⟩

/-- An activity with its failures renamed, at the beginning of another one. -/
theorem run_adapt {ε' : Type} {activity : Reporting ε α} {outcome : Except ε α}
    {events : List Event} (h : activity.outcome = (outcome, events)) (f : ε → ε') :
    (activity.adapt f).run.run #[] = (outcome.mapError f, events.toArray) := by
  obtain ⟨houtcome, hevents⟩ := Prod.mk.inj h
  rw [← houtcome, ← hevents]
  rfl

end Bind

namespace Step

variable {α β : Type} {s s' : Session}

theorem runFrom_bind_ok {step : Step α} {a : α} (h : step.runFrom s = (.ok a, s'))
    (next : α → Step β) : (step >>= next).runFrom s = (next a).runFrom s' :=
  run_bind_ok h next

theorem runFrom_bind_error {step : Step α} {cause : ParseError}
    (h : step.runFrom s = (.error cause, s')) (next : α → Step β) :
    (step >>= next).runFrom s = (.error cause, s') :=
  run_bind_error h next

theorem runFrom_modify (f : Session → Session) (s : Session) :
    (modify f : Step Unit).runFrom s = (.ok (), f s) := rfl

theorem runFrom_normalize (normalizer : Normalizer) (t : Text) (s : Session) :
    (normalize normalizer t).runFrom s =
      ((normalizer t).mapError (.rule ∘ .term),
        { s with normalized := s.normalized.push t }) := by
  rw [normalize, runFrom_bind_ok (runFrom_modify _ s)]
  cases normalizer t <;> rfl

theorem runFrom_get_bind (next : Session → Step α) (s : Session) :
    (get >>= next).runFrom s = (next s).runFrom s := rfl

theorem runFrom_submit_error {e : Edge} {cause : EdgeError} (h : s.draft.add e = .error cause) :
    (submit e).runFrom s = (.error (.edge cause), { s with submitted := s.submitted.push e }) := by
  rw [submit, runFrom_bind_ok (runFrom_modify _ s), runFrom_get_bind]
  simp only [h]
  rfl

theorem runFrom_submit {e : Edge} (h : e.IsProper) (s : Session) :
    (submit e).runFrom s = (.ok (), s.put e) := by
  rw [submit, runFrom_bind_ok (runFrom_modify _ s), runFrom_get_bind]
  simp only [Draft.add_of_proper h]
  rfl

theorem runFrom_forM_cons_ok {f : α → Step Unit} {x : α}
    (h : (f x).runFrom s = (.ok (), s')) (xs : List α) :
    ((x :: xs).forM f).runFrom s = (xs.forM f).runFrom s' :=
  runFrom_bind_ok h fun _ => xs.forM f

theorem runFrom_forM_cons_error {f : α → Step Unit} {x : α} {cause : ParseError}
    (h : (f x).runFrom s = (.error cause, s')) (xs : List α) :
    ((x :: xs).forM f).runFrom s = (.error cause, s') :=
  runFrom_bind_error h fun _ => xs.forM f

theorem runFrom_forM_append_ok {f : α → Step Unit} {xs : List α}
    (h : (xs.forM f).runFrom s = (.ok (), s')) (ys : List α) :
    ((xs ++ ys).forM f).runFrom s = (ys.forM f).runFrom s' := by
  simp only [List.forM_eq_forM, List.forM_append] at h ⊢
  exact runFrom_bind_ok h _

theorem runFrom_forM_append_error {f : α → Step Unit} {xs : List α} {cause : ParseError}
    (h : (xs.forM f).runFrom s = (.error cause, s')) (ys : List α) :
    ((xs ++ ys).forM f).runFrom s = (.error cause, s') := by
  simp only [List.forM_eq_forM, List.forM_append] at h ⊢
  exact runFrom_bind_error h _

theorem runFrom_forM_submit {edges : List Edge} (h : ∀ e ∈ edges, e.IsProper) (s : Session) :
    (edges.forM submit).runFrom s = (.ok (), edges.foldl Session.put s) := by
  induction edges generalizing s with
  | nil => rfl
  | cons e edges ih =>
    rw [runFrom_forM_cons_ok (runFrom_submit (h e List.mem_cons_self) s),
      ih (fun e' he' => h e' (List.mem_cons_of_mem e he')) (s.put e), List.foldl_cons]

end Step

/-- The texts that are given to the normalizer, up to and including the first that it refuses. -/
def consulted (normalizer : Normalizer) : List Text → List Text
  | [] => []
  | t :: ts =>
    match normalizer t with
    | .ok _ => t :: consulted normalizer ts
    | .error _ => [t]

theorem runFrom_mapM_normalize (normalizer : Normalizer) (ts : List Text) (s : Session) :
    Step.runFrom (ts.mapM (Step.normalize normalizer)) s =
      ((ts.mapM normalizer).mapError (.rule ∘ .term), s.consult (consulted normalizer ts)) := by
  induction ts generalizing s with
  | nil => rw [consulted, s.consult_nil]; rfl
  | cons t ts ih =>
    have hhead := Step.runFrom_normalize normalizer t s
    rw [List.mapM_cons, List.mapM_cons, consulted]
    cases ht : normalizer t with
    | error cause =>
      rw [ht] at hhead
      rw [Step.runFrom_bind_error hhead, s.consult_cons, Session.consult_nil]
      rfl
    | ok term =>
      rw [ht] at hhead
      have htail := ih { s with normalized := s.normalized.push t }
      rw [Step.runFrom_bind_ok hhead, s.consult_cons]
      cases hts : ts.mapM normalizer with
      | error cause =>
        rw [hts] at htail
        rw [Step.runFrom_bind_error htail]
        rfl
      | ok terms =>
        rw [hts] at htail
        rw [Step.runFrom_bind_ok htail]
        rfl

theorem consulted_of_ok {normalizer : Normalizer} {ts : List Text} {terms : List Term}
    (h : ts.mapM normalizer = .ok terms) : consulted normalizer ts = ts := by
  induction ts generalizing terms with
  | nil => rfl
  | cons t ts ih =>
    rw [List.mapM_cons] at h
    rw [consulted]
    cases ht : normalizer t with
    | error cause =>
      rw [ht] at h
      exact absurd h nofun
    | ok term =>
      rw [ht] at h
      cases hts : ts.mapM normalizer with
      | error cause =>
        rw [hts] at h
        exact absurd h nofun
      | ok rest => exact congrArg (t :: ·) (ih hts)

theorem isProper_of_mem_groupEdges {expand : Bool} {terms : List Term}
    (h : ∀ term ∈ terms, term ≠ []) {e : Edge} (he : e ∈ groupEdges expand terms) :
    e.IsProper := by
  unfold groupEdges at he
  cases expand with
  | true =>
    rw [if_pos rfl, List.mem_flatMap] at he
    obtain ⟨⟨input, i⟩, hinput, he⟩ := he
    obtain ⟨⟨output, j⟩, houtput, rfl⟩ := List.mem_map.mp he
    exact ⟨h input (List.fst_mem_of_mem_zipIdx hinput),
      h output (List.fst_mem_of_mem_zipIdx (List.mem_of_mem_filter houtput))⟩
  | false =>
    rw [if_neg Bool.false_ne_true] at he
    cases terms with
    | nil => simp at he
    | cons first rest =>
      obtain ⟨input, hinput, rfl⟩ := List.mem_map.mp he
      exact ⟨h input hinput, h first List.mem_cons_self⟩

/-- A group whose terms can all be used submits its edges one after the other. -/
theorem runFrom_relate {p : Parser} {ts : List Text} {terms : List Term}
    (hterms : ts.mapM p.normalizer = .ok terms) (hne : ∀ term ∈ terms, term ≠ []) (s : Session) :
    (p.relate ts).runFrom s =
      (.ok (), (groupEdges p.expand terms).foldl Session.put (s.consult ts)) := by
  have hall := runFrom_mapM_normalize p.normalizer ts s
  rw [hterms, consulted_of_ok hterms] at hall
  rw [Parser.relate, relateBy, Parser.ask, Step.runFrom_bind_ok hall]
  exact Step.runFrom_forM_submit (fun e he => isProper_of_mem_groupEdges hne he) _

/-- A term that the normalizer refuses keeps all edges of its group back. -/
theorem runFrom_relate_error {p : Parser} {ts : List Text} {cause : TermError}
    (h : ts.mapM p.normalizer = .error cause) (s : Session) :
    (p.relate ts).runFrom s =
      (.error (.rule (.term cause)), s.consult (consulted p.normalizer ts)) := by
  have hall := runFrom_mapM_normalize p.normalizer ts s
  rw [h] at hall
  rw [Parser.relate, relateBy, Parser.ask, Step.runFrom_bind_error hall]
  rfl

theorem takeLinesBy_eq_forM (expand : Bool) (ask : Text → Step Term) (lines : List Text) :
    takeLinesBy expand ask lines = (lines.flatMap groups).forM (takeGroupBy expand ask) := by
  rw [takeLinesBy]
  simp only [List.forM_eq_forM]
  induction lines with
  | nil => rfl
  | cons line lines ih => rw [List.forM_cons, List.flatMap_cons, List.forM_append, ih]

theorem takeLines_eq_forM (p : Parser) (lines : List Text) :
    p.takeLines lines = (lines.flatMap groups).forM p.takeGroup :=
  takeLinesBy_eq_forM p.expand p.ask lines

/-- The outcome of a run depends on the groups of its source, and on how the source ends. -/
theorem run_eq_forM (p : Parser) (source : Source) :
    p.run source =
      match Step.runFrom ((source.lines.flatMap groups).forM p.takeGroup) p.start with
      | (.error cause, _) => .error cause
      | (.ok _, after) =>
        match source.failure with
        | some reason => .error (.source reason)
        | none => .ok after.draft.graph := by
  rw [Parser.run, Parser.graph, ← takeLines_eq_forM]
  cases hlines : (p.takeLines source.lines).runFrom p.start with
  | mk outcome after =>
    cases outcome with
    | error cause =>
      have htake : (p.take source).runFrom p.start = (.error cause, after) :=
        Step.runFrom_bind_error hlines _
      rw [Step.runFrom_bind_error htake]
    | ok _ =>
      have htake : (p.take source).runFrom p.start = _ := Step.runFrom_bind_ok hlines _
      cases hfailure : source.failure with
      | some reason =>
        rw [hfailure] at htake
        have hthrow : (p.take source).runFrom p.start = (.error (.source reason), after) := htake
        rw [Step.runFrom_bind_error hthrow]
      | none =>
        rw [hfailure] at htake
        obtain ⟨events, hreport⟩ : ∃ events, (p.take source).runFrom p.start =
            (.ok (), { after with events }) := ⟨_, htake⟩
        rw [Step.runFrom_bind_ok hreport]
        rfl

end Thesaurus.Rules
