import Thesaurus.Proofs.Rules.Steps

/-!
# The first group at fault

A parser takes the groups of its source one after the other and stops at the first that it cannot
use. Main facts: `runFrom_takeGroup` says what one group does, and `take_until_first_fault` that a
whole source has the effect of the groups before the first one at fault and the error of that one.
-/

set_option autoImplicit false

namespace Thesaurus

/-- Whether a normalizer refuses every text that it has no token for. -/
def Normalizer.NeverEmpty (normalizer : Normalizer) : Prop :=
  ∀ t term, normalizer t = .ok term → term ≠ []

theorem Analyzer.neverEmpty_normalizer (a : Analyzer) : a.normalizer.NeverEmpty := by
  intro t term h
  rw [Analyzer.normalizer] at h
  cases hterm : a.analyze t with
  | nil =>
    rw [hterm] at h
    exact absurd h nofun
  | cons token rest =>
    rw [hterm] at h
    rw [← Except.ok.inj h]
    exact List.cons_ne_nil token rest

namespace Rules

/-- The texts of the terms of a group, if it has exactly two parts. -/
def termPair (group : Text) : Option (Text × Text) :=
  match group.splitAt termDelimiter with
  | [first, second] => some (first.unescape.trim, second.unescape.trim)
  | _ => none

/-- The two terms of a group, or why it cannot be used. The number of its parts counts before its
terms, and the first term before the second. -/
def resolve (normalizer : Normalizer) (group : Text) : Except RuleError (Term × Term) :=
  match termPair group with
  | none => .error (.notPair group)
  | some (first, second) =>
    match normalizer first with
    | .error cause => .error (.term cause)
    | .ok term =>
      match normalizer second with
      | .error cause => .error (.term cause)
      | .ok other => .ok (term, other)

/-- The texts of a group that are given to the normalizer: none if it has not two parts, and none
behind a text that is refused. -/
def asked (normalizer : Normalizer) (group : Text) : List Text :=
  match termPair group with
  | none => []
  | some (first, second) =>
    match normalizer first with
    | .error _ => [first]
    | .ok _ => [first, second]

def pairEdges (expand : Bool) (pair : Term × Term) : List Edge :=
  if expand then [⟨pair.1, pair.2, true⟩, ⟨pair.2, pair.1, true⟩]
  else [⟨pair.1, pair.1, false⟩, ⟨pair.2, pair.1, false⟩]

/-- The edges of a group, none if it cannot be used. -/
def edgesOf (p : Parser) (group : Text) : List Edge :=
  match resolve p.normalizer group with
  | .ok pair => pairEdges p.expand pair
  | .error _ => []

/-- The session after a group. -/
def Session.after (p : Parser) (s : Session) (group : Text) : Session :=
  (edgesOf p group).foldl put (s.consult (asked p.normalizer group))

theorem terms_eq (group : Text) :
    terms group =
      match termPair group with
      | some (first, second) => .ok [first, second]
      | none => .error (.notPair group) := by
  rw [terms, termPair]
  match group.splitAt termDelimiter with
  | [] => rfl
  | [_] => rfl
  | [_, _] => rfl
  | _ :: _ :: _ :: _ => simp

theorem groupEdges_pair (expand : Bool) (term other : Term) :
    groupEdges expand [term, other] = pairEdges expand (term, other) := by
  cases expand <;> rfl

theorem mapM_pair (normalizer : Normalizer) (first second : Text) :
    [first, second].mapM normalizer =
      match normalizer first, normalizer second with
      | .error cause, _ => .error cause
      | .ok _, .error cause => .error cause
      | .ok term, .ok other => .ok [term, other] := by
  rw [List.mapM_cons, List.mapM_cons, List.mapM_nil]
  cases normalizer first <;> cases normalizer second <;> rfl

theorem consulted_pair (normalizer : Normalizer) (first second : Text) :
    consulted normalizer [first, second] =
      match normalizer first with
      | .error _ => [first]
      | .ok _ => [first, second] := by
  rw [consulted, consulted, consulted]
  cases normalizer first <;> cases normalizer second <;> rfl

theorem takeGroup_eq (p : Parser) (group : Text) :
    p.takeGroup group =
      match terms group with
      | .ok terms => p.relate terms
      | .error cause => throw (.rule cause) := rfl

/-- The outcome of one group and the session behind it. -/
theorem runFrom_takeGroup {p : Parser} (hne : p.normalizer.NeverEmpty) (group : Text)
    (s : Session) :
    (p.takeGroup group).runFrom s =
      (((resolve p.normalizer group).map fun _ => ()).mapError .rule, s.after p group) := by
  rw [takeGroup_eq, terms_eq, Session.after, edgesOf, asked, resolve]
  cases hpair : termPair group with
  | none => rw [s.consult_nil]; rfl
  | some pair =>
    obtain ⟨first, second⟩ := pair
    have hmap := mapM_pair p.normalizer first second
    have hasked := consulted_pair p.normalizer first second
    dsimp only
    cases hfirst : p.normalizer first with
    | error cause =>
      rw [hfirst] at hmap hasked
      rw [runFrom_relate_error hmap, hasked]
      rfl
    | ok term =>
      rw [hfirst] at hmap hasked
      cases hsecond : p.normalizer second with
      | error cause =>
        rw [hsecond] at hmap
        rw [runFrom_relate_error hmap, hasked]
        rfl
      | ok other =>
        rw [hsecond] at hmap
        have hterms : ∀ t ∈ [term, other], t ≠ [] := by
          simpa using ⟨hne first term hfirst, hne second other hsecond⟩
        rw [runFrom_relate hmap hterms, groupEdges_pair]
        rfl

theorem resolve_eq_ok_iff {normalizer : Normalizer} {group : Text} {term other : Term} :
    resolve normalizer group = .ok (term, other) ↔
      ∃ first second, termPair group = some (first, second) ∧
        normalizer first = .ok term ∧ normalizer second = .ok other := by
  rw [resolve]
  cases termPair group with
  | none => simp
  | some pair =>
    obtain ⟨first, second⟩ := pair
    dsimp only
    cases hfirst : normalizer first <;> cases hsecond : normalizer second <;>
      simp [hfirst, hsecond]

theorem asked_of_resolve {normalizer : Normalizer} {group first second : Text}
    {pair : Term × Term} (h : resolve normalizer group = .ok pair)
    (hpair : termPair group = some (first, second)) : asked normalizer group = [first, second] := by
  obtain ⟨t, u, htu, ht, -⟩ := resolve_eq_ok_iff.mp h
  rw [htu] at hpair
  obtain ⟨rfl, rfl⟩ := Prod.mk.inj (Option.some.inj hpair)
  simp [asked, htu, ht]

theorem isProper_of_mem_edgesOf {p : Parser} (hne : p.normalizer.NeverEmpty) {group : Text}
    {e : Edge} (he : e ∈ edgesOf p group) : e.IsProper := by
  rw [edgesOf] at he
  cases hgroup : resolve p.normalizer group with
  | error cause => simp [hgroup] at he
  | ok pair =>
    obtain ⟨first, second, -, hfirst, hsecond⟩ := resolve_eq_ok_iff.mp hgroup
    have hterms : ∀ t ∈ [pair.1, pair.2], t ≠ [] := by
      simpa using ⟨hne first pair.1 hfirst, hne second pair.2 hsecond⟩
    simp only [hgroup] at he
    rw [← groupEdges_pair] at he
    exact isProper_of_mem_groupEdges hterms he

section Run

variable {p : Parser} (hne : p.normalizer.NeverEmpty)

theorem draft_foldl_after (all : List Text) (s : Session) :
    (all.foldl (Session.after p) s).draft =
      (all.flatMap (edgesOf p)).foldl Draft.put s.draft := by
  induction all generalizing s with
  | nil => rfl
  | cons group all ih =>
    rw [List.foldl_cons, ih, Session.after, Session.draft_foldl_put, List.flatMap_cons,
      List.foldl_append]
    rfl

theorem normalized_foldl_after (all : List Text) (s : Session) :
    (all.foldl (Session.after p) s).normalized.toList =
      s.normalized.toList ++ all.flatMap (asked p.normalizer) := by
  induction all generalizing s with
  | nil => exact (List.append_nil _).symm
  | cons group all ih =>
    rw [List.foldl_cons, ih, Session.after, Session.normalized_foldl_put, Session.consult,
      Array.toList_appendList, List.append_assoc, List.flatMap_cons]

theorem submitted_foldl_after (all : List Text) (s : Session) :
    (all.foldl (Session.after p) s).submitted.toList =
      s.submitted.toList ++ all.flatMap (edgesOf p) := by
  induction all generalizing s with
  | nil => exact (List.append_nil _).symm
  | cons group all ih =>
    rw [List.foldl_cons, ih, Session.after, Session.submitted_foldl_put, List.append_assoc,
      List.flatMap_cons]
    rfl

include hne

/-- Groups that can all be used take effect one after the other. -/
theorem runFrom_forM_takeGroup {all : List Text}
    (hall : ∀ group ∈ all, ∃ pair, resolve p.normalizer group = .ok pair) (s : Session) :
    (all.forM p.takeGroup).runFrom s = (.ok (), all.foldl (Session.after p) s) := by
  induction all generalizing s with
  | nil => rfl
  | cons group all ih =>
    obtain ⟨pair, hpair⟩ := hall group List.mem_cons_self
    have hgroup := runFrom_takeGroup hne group s
    rw [hpair] at hgroup
    rw [Step.runFrom_forM_cons_ok hgroup,
      ih (fun g hg => hall g (List.mem_cons_of_mem group hg)), List.foldl_cons]

/-- The first group at fault decides the error, and no group behind it is reached. -/
theorem runFrom_forM_takeGroup_fault {before : List Text} {group : Text} {cause : RuleError}
    (hbefore : ∀ g ∈ before, ∃ pair, resolve p.normalizer g = .ok pair)
    (hgroup : resolve p.normalizer group = .error cause) (rest : List Text) (s : Session) :
    ((before ++ group :: rest).forM p.takeGroup).runFrom s =
      (.error (.rule cause), (before ++ [group]).foldl (Session.after p) s) := by
  induction before generalizing s with
  | nil =>
    have hrun := runFrom_takeGroup hne group s
    rw [hgroup] at hrun
    exact Step.runFrom_forM_cons_error hrun rest
  | cons g before ih =>
    obtain ⟨pair, hpair⟩ := hbefore g List.mem_cons_self
    have hrun := runFrom_takeGroup hne g s
    rw [hpair] at hrun
    rw [List.cons_append, Step.runFrom_forM_cons_ok hrun,
      ih (fun g' hg' => hbefore g' (List.mem_cons_of_mem g hg')), List.cons_append, List.foldl_cons]

theorem addAll_edgesOf (all : List Text) (s : Session) :
    s.draft.addAll (all.flatMap (edgesOf p)) = .ok (all.foldl (Session.after p) s).draft := by
  rw [draft_foldl_after]
  refine Draft.addAll_of_proper (fun e he => ?_) s.draft
  obtain ⟨group, -, hgroup⟩ := List.mem_flatMap.mp he
  exact isProper_of_mem_edgesOf hne hgroup

/-- A source without a group at fault has the effect of all its groups. -/
theorem runFrom_take {source : Source}
    (hall : ∀ g ∈ source.lines.flatMap groups, ∃ pair, resolve p.normalizer g = .ok pair)
    (s : Session) :
    ∃ after, (p.take source).runFrom s =
        (match source.failure with
          | none => .ok ()
          | some reason => .error (.source reason), after) ∧
      after.draft = ((source.lines.flatMap groups).flatMap (edgesOf p)).foldl Draft.put s.draft ∧
      after.normalized.toList =
        s.normalized.toList ++ (source.lines.flatMap groups).flatMap (asked p.normalizer) ∧
      after.submitted.toList =
        s.submitted.toList ++ (source.lines.flatMap groups).flatMap (edgesOf p) := by
  have hrun := runFrom_forM_takeGroup hne hall s
  rw [← takeLines_eq_forM, Parser.takeLines] at hrun
  rw [← draft_foldl_after, ← normalized_foldl_after, ← submitted_foldl_after, Parser.take, takeBy,
    Step.runFrom_bind_ok hrun]
  cases source.failure with
  | none => exact ⟨_, rfl, rfl, rfl, rfl⟩
  | some reason => exact ⟨_, rfl, rfl, rfl, rfl⟩

end Run

/-- A source has the effect of its groups, in order, up to the first at fault: of that one only the
texts up to the refused one are given to the normalizer, and its error is the error of the source
whatever stands behind it. Without a group at fault all take effect, and only then a failure of the
source itself is met. -/
theorem take_until_first_fault (p : Parser) (hne : p.normalizer.NeverEmpty) (source : Source)
    (s : Session) :
    let all := source.lines.flatMap groups
    (∀ before group rest cause, all = before ++ group :: rest →
      (∀ g ∈ before, ∃ pair, resolve p.normalizer g = .ok pair) →
      resolve p.normalizer group = .error cause →
      ∃ after, (p.take source).runFrom s = (.error (.rule cause), after) ∧
        s.draft.addAll (before.flatMap (edgesOf p)) = .ok after.draft ∧
        after.normalized.toList = s.normalized.toList ++
          (before.flatMap (asked p.normalizer) ++ asked p.normalizer group) ∧
        after.submitted.toList = s.submitted.toList ++ before.flatMap (edgesOf p)) ∧
    ((∀ g ∈ all, ∃ pair, resolve p.normalizer g = .ok pair) →
      ∃ after, (p.take source).runFrom s =
          (match source.failure with
            | none => .ok ()
            | some reason => .error (.source reason), after) ∧
        s.draft.addAll (all.flatMap (edgesOf p)) = .ok after.draft ∧
        after.normalized.toList = s.normalized.toList ++ all.flatMap (asked p.normalizer) ∧
        after.submitted.toList = s.submitted.toList ++ all.flatMap (edgesOf p)) := by
  intro all
  have htake : p.takeLines source.lines = all.forM p.takeGroup := takeLines_eq_forM p source.lines
  constructor
  · intro before group rest cause hall hbefore hgroup
    have hrun := runFrom_forM_takeGroup_fault hne hbefore hgroup rest s
    rw [← hall, ← htake] at hrun
    -- The group at fault changes what was asked, but adds no edge.
    have hedges : (before ++ [group]).flatMap (edgesOf p) = before.flatMap (edgesOf p) := by
      simp [edgesOf, hgroup]
    refine ⟨_, Step.runFrom_bind_error hrun _, ?_, ?_, ?_⟩
    · rw [← hedges, addAll_edgesOf hne]
    · rw [normalized_foldl_after, List.flatMap_append, List.flatMap_singleton]
    · rw [submitted_foldl_after, hedges]
  · intro hall
    obtain ⟨after, hrun, hdraft, hasked, hsubmitted⟩ := runFrom_take hne hall s
    refine ⟨after, hrun, ?_, hasked, hsubmitted⟩
    rw [addAll_edgesOf hne, draft_foldl_after, hdraft]

theorem take_until_first_fault_refused :
    let normalizer : Normalizer := fun t =>
      if t.isEmpty then .error ⟨t, "no word"⟩ else .ok [t]
    let p : Parser := { normalizer }
    let broken (lines : List Text) : Source := .items lines (some "broken off")
    (∃ after, (p.take (broken ["a,b|c, \\ |d", "e,f"])).runFrom p.start =
        (.error (.rule (.term ⟨[], "no word"⟩)), after) ∧
      after.normalized.toList = (["a", "b", "c", ""] : List Text) ∧
      after.submitted.toList = [⟨["a"], ["a"], false⟩, ⟨["b"], ["a"], false⟩]) ∧
    ∃ after, (p.take (broken ["a,b"])).runFrom p.start =
        (.error (.source "broken off"), after) ∧
      after.submitted.toList = [⟨["a"], ["a"], false⟩, ⟨["b"], ["a"], false⟩] := by
  intro normalizer p broken
  have hne : p.normalizer.NeverEmpty := by
    intro t term h
    cases t with
    | nil => exact absurd h nofun
    | cons c t => exact Except.ok.inj h ▸ List.cons_ne_nil _ _
  have hbefore : ∀ g ∈ (["a,b"] : List Text), ∃ pair, resolve normalizer g = .ok pair := by
    intro g hg
    rw [List.mem_singleton.mp hg]
    exact ⟨(["a"], ["b"]), by decide⟩
  have hfault : ((broken ["a,b|c, \\ |d", "e,f"]).lines.flatMap groups) =
      (["a,b"] : List Text) ++ ("c, \\ " : Text) :: (["d", "e,f"] : List Text) := by
    decide +kernel
  have hgroup : resolve normalizer "c, \\ " = .error (.term ⟨[], "no word"⟩) := by decide
  constructor
  · obtain ⟨after, hrun, -, hasked, hsubmitted⟩ :=
      (take_until_first_fault p hne (broken ["a,b|c, \\ |d", "e,f"]) p.start).1 _ _ _ _ hfault
        hbefore hgroup
    exact ⟨after, hrun, hasked.trans (by decide), hsubmitted.trans (by decide)⟩
  · have hall : (broken ["a,b"]).lines.flatMap groups = ["a,b"] := by decide +kernel
    obtain ⟨after, hrun, -, -, hsubmitted⟩ :=
      (take_until_first_fault p hne (broken ["a,b"]) p.start).2 (hall ▸ hbefore)
    exact ⟨after, hrun, hsubmitted.trans (by decide)⟩

end Rules

end Thesaurus
