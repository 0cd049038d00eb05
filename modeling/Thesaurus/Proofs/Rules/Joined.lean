import Thesaurus.Proofs.Rules.Rendering
import Thesaurus.Proofs.Rules.Steps

/-!
# Texts one behind the other

A text that is cut at a newline can be taken in two parts: the lines on both sides are lines of
their own, and a parser has no memory but its draft. Only the events tell the two from each other,
as each text that is taken is reported, so that one has to know that no step looks at them. Main
facts: `heedless_takeGroupBy` for a group, `sameEffect_take_text` for a text, `take_joined` for two.
-/

set_option autoImplicit false

namespace Thesaurus.Rules

open Text

/-- Sessions that differ in their events at most. -/
structure Session.Alike (s s' : Session) : Prop where
  draft : s.draft = s'.draft
  normalized : s.normalized = s'.normalized
  submitted : s.submitted = s'.submitted

/-- Two runs end alike: with the same outcome, in sessions that differ in their events at most. -/
structure SameEffect {α : Type} (x y : Except ParseError α × Session) : Prop where
  outcome : x.1 = y.1
  session : x.2.Alike y.2

section Effects

variable {α β : Type} {x y z : Except ParseError α × Session} {s s' : Session}

theorem Session.Alike.refl (s : Session) : s.Alike s := ⟨rfl, rfl, rfl⟩

theorem Session.Alike.symm (h : s.Alike s') : s'.Alike s :=
  ⟨h.draft.symm, h.normalized.symm, h.submitted.symm⟩

theorem SameEffect.refl (x : Except ParseError α × Session) : SameEffect x x := ⟨rfl, .refl x.2⟩

theorem SameEffect.trans (h : SameEffect x y) (h' : SameEffect y z) : SameEffect x z where
  outcome := h.outcome.trans h'.outcome
  session :=
    ⟨h.session.draft.trans h'.session.draft, h.session.normalized.trans h'.session.normalized,
      h.session.submitted.trans h'.session.submitted⟩

theorem SameEffect.symm (h : SameEffect x y) : SameEffect y x := ⟨h.outcome.symm, h.session.symm⟩

/-- Whether a step takes no notice of the events before it. -/
def Heedless (step : Step α) : Prop :=
  ∀ s s', s.Alike s' → SameEffect (step.runFrom s) (step.runFrom s')

theorem heedless_pure (a : α) : Heedless (pure a) := fun _ _ h => ⟨rfl, h⟩

theorem heedless_throw (cause : ParseError) : Heedless (throw cause : Step α) :=
  fun _ _ h => ⟨rfl, h⟩

theorem Heedless.bind {first : Step α} {next : α → Step β} (hfirst : Heedless first)
    (hnext : ∀ a, Heedless (next a)) : Heedless (first >>= next) := by
  intro s s' h
  have hboth := hfirst s s' h
  cases hrun : first.runFrom s with
  | mk outcome after =>
    cases hrun' : first.runFrom s' with
    | mk outcome' after' =>
      rw [hrun, hrun'] at hboth
      obtain rfl : outcome = outcome' := hboth.outcome
      cases outcome with
      | error cause =>
        rw [Step.runFrom_bind_error hrun, Step.runFrom_bind_error hrun']
        exact ⟨rfl, hboth.session⟩
      | ok a =>
        rw [Step.runFrom_bind_ok hrun, Step.runFrom_bind_ok hrun']
        exact hnext a after after' hboth.session

theorem heedless_forM {f : α → Step Unit} (h : ∀ x, Heedless (f x)) (xs : List α) :
    Heedless (xs.forM f) := by
  induction xs with
  | nil => exact heedless_pure ()
  | cons x xs ih => exact (h x).bind fun _ => ih

theorem heedless_mapM {f : α → Step β} (h : ∀ x, Heedless (f x)) (xs : List α) :
    Heedless (xs.mapM f) := by
  induction xs with
  | nil => exact heedless_pure []
  | cons x xs ih =>
    rw [List.mapM_cons]
    exact (h x).bind fun b => ih.bind fun bs => heedless_pure (b :: bs)

theorem heedless_submit (e : Edge) : Heedless (Step.submit e) := by
  intro s s' h
  have hsubmitted : s.submitted.push e = s'.submitted.push e := by rw [h.submitted]
  by_cases hproper : e.IsProper
  · rw [Step.runFrom_submit hproper, Step.runFrom_submit hproper]
    exact ⟨rfl, congrArg (Draft.put · e) h.draft, h.normalized, hsubmitted⟩
  · obtain ⟨cause, hcause⟩ := Draft.exists_error_of_not_isProper hproper s.draft
    have hcause' : s'.draft.add e = .error cause := h.draft ▸ hcause
    rw [Step.runFrom_submit_error hcause, Step.runFrom_submit_error hcause']
    exact ⟨rfl, h.draft, h.normalized, hsubmitted⟩

/-- Asks for the term of a text where any cause may come instead of one. -/
def inquire (answer : Text → Except ParseError Term) (t : Text) : Step Term := do
  modify fun s => { s with normalized := s.normalized.push t }
  match answer t with
  | .ok term => return term
  | .error cause => throw cause

theorem ask_eq_inquire (p : Parser) :
    p.ask = inquire fun t => (p.normalizer t).mapError (.rule ∘ .term) := by
  funext t
  rw [Parser.ask, Step.normalize, inquire]
  cases p.normalizer t <;> rfl

theorem heedless_inquire (answer : Text → Except ParseError Term) (t : Text) :
    Heedless (inquire answer t) := by
  intro s s' h
  have hnormalized : s.normalized.push t = s'.normalized.push t := by rw [h.normalized]
  rw [inquire, Step.runFrom_bind_ok (Step.runFrom_modify _ s),
    Step.runFrom_bind_ok (Step.runFrom_modify _ s')]
  cases answer t with
  | ok term => exact ⟨rfl, h.draft, hnormalized, h.submitted⟩
  | error cause => exact ⟨rfl, h.draft, hnormalized, h.submitted⟩

end Effects

/-- A newline cuts the groups of a text, whatever ends the text before it or begins the next. -/
theorem flatMap_groups_joined (a b : Text) :
    (lines (a ++ '\n' :: b)).flatMap groups =
      (lines a).flatMap groups ++ (lines b).flatMap groups := by
  have hnewline : isLineBreak '\n' = true := by decide
  rw [flatMap_groups_lines, flatMap_groups_lines, flatMap_groups_lines, runs_append_cons hnewline,
    List.flatMap_append]

section Take

variable {expand : Bool} {ask : Text → Step Term}

/-- But for the event at its end a text has the effect of its groups. -/
theorem sameEffect_take_text (t : Text) (s : Session) :
    SameEffect ((takeBy expand ask (.text t)).runFrom s)
      (Step.runFrom (((lines t).flatMap groups).forM (takeGroupBy expand ask)) s) := by
  rw [← takeLinesBy_eq_forM, takeBy]
  dsimp only [Source.lines]
  cases hrun : (takeLinesBy expand ask (lines t)).runFrom s with
  | mk outcome after =>
    cases outcome with
    | error cause =>
      rw [Step.runFrom_bind_error hrun]
      exact .refl _
    | ok _ =>
      rw [Step.runFrom_bind_ok hrun]
      exact ⟨rfl, rfl, rfl, rfl⟩

variable (hask : ∀ t, Heedless (ask t))

include hask

theorem heedless_takeGroupBy (group : Text) : Heedless (takeGroupBy expand ask group) := by
  rw [takeGroupBy]
  cases terms group with
  | error cause => exact heedless_throw _
  | ok texts =>
    exact (heedless_mapM hask texts).bind fun terms => heedless_forM heedless_submit _

theorem sameEffect_take_joined (a b : Text) (s : Session) :
    SameEffect ((takeBy expand ask (.text (a ++ '\n' :: b))).runFrom s)
      ((takeBy expand ask (.text a) >>= fun _ => takeBy expand ask (.text b)).runFrom s) := by
  refine (sameEffect_take_text _ s).trans ?_
  have hfirst : SameEffect ((takeBy expand ask (.text a)).runFrom s) _ := sameEffect_take_text a s
  rw [flatMap_groups_joined]
  cases hgroups : Step.runFrom (((lines a).flatMap groups).forM (takeGroupBy expand ask)) s with
  | mk outcome middle =>
    cases htake : (takeBy expand ask (.text a)).runFrom s with
    | mk outcome' after =>
      rw [hgroups, htake] at hfirst
      obtain rfl : outcome' = outcome := hfirst.outcome
      cases outcome' with
      | error cause =>
        rw [Step.runFrom_forM_append_error hgroups, Step.runFrom_bind_error htake]
        exact hfirst.symm
      | ok _ =>
        rw [Step.runFrom_forM_append_ok hgroups, Step.runFrom_bind_ok htake]
        have hgroup : ∀ g, Heedless (takeGroupBy expand ask g) := heedless_takeGroupBy hask
        have hbehind := heedless_forM hgroup ((lines b).flatMap groups) middle after
        exact (hbehind hfirst.session.symm).trans (sameEffect_take_text b after).symm

end Take

/-- Two texts with a newline between them are taken like one text after the other: from every
session a parser ends with the same outcome, has given the same texts to the normalizer, has
submitted the same edges and has the same draft. That is so even if the normalizer fails in ways of
its own. -/
theorem take_joined (a b : Text) (s : Session) :
    (∀ p : Parser, SameEffect ((p.take (.text (a ++ '\n' :: b))).runFrom s)
      ((p.take (.text a) >>= fun _ => p.take (.text b)).runFrom s)) ∧
    ∀ (expand : Bool) (answer : Text → Except ParseError Term),
      let take (t : Text) : Step Unit := takeBy expand (inquire answer) (.text t)
      SameEffect ((take (a ++ '\n' :: b)).runFrom s) ((take a >>= fun _ => take b).runFrom s) := by
  have hall (expand : Bool) (answer : Text → Except ParseError Term) :
      SameEffect ((takeBy expand (inquire answer) (.text (a ++ '\n' :: b))).runFrom s) _ :=
    sameEffect_take_joined (heedless_inquire answer) a b s
  refine ⟨fun p => ?_, hall⟩
  have hp := hall p.expand fun t => (p.normalizer t).mapError (.rule ∘ .term)
  rw [← ask_eq_inquire] at hp
  exact hp

end Thesaurus.Rules
