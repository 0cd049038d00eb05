import Thesaurus.Proofs.Rules.Steps
import Thesaurus.Settings.Basic

/-!
# Where settings come from

What the environment gives for a switch hides what the file gives for it, also where it is no truth
value; only what is not hidden is looked up. Main fact: `outcome_load`, for the settings together
with what is reported of them.
-/

set_option autoImplicit false

namespace Thesaurus

namespace Reporting

variable {ε α β : Type} {events events' : List Event}

/-- The activity succeeds and reports some events, whatever was reported before. -/
def Tells (activity : Reporting ε α) (a : α) (events : List Event) : Prop :=
  ∀ before : Array Event, activity.run.run before = (.ok a, before ++ events.toArray)

theorem tells_pure (a : α) : Tells (pure a : Reporting ε α) a [] :=
  fun _ => congrArg (Prod.mk _) Array.append_empty.symm

theorem tells_report (e : Event) : Tells (report e : Reporting ε Unit) () [e] :=
  fun _ => congrArg (Prod.mk _) Array.push_eq_append

theorem Tells.bind {first : Reporting ε α} {next : α → Reporting ε β} {a : α} {b : β}
    (hfirst : Tells first a events) (hnext : Tells (next a) b events') :
    Tells (first >>= next) b (events ++ events') := by
  intro before
  rw [Rules.run_bind_ok (hfirst before), hnext]
  simp

theorem Tells.outcome {activity : Reporting ε α} {a : α} (h : Tells activity a events) :
    activity.outcome = (.ok a, events) := by
  rw [Reporting.outcome, h]
  simp

end Reporting

namespace Settings

open Reporting

variable {d : Ini.Document} {env : Environment}

/-- What a variable gives unless it is blank. -/
def fromEnvironment? (env : Environment) (name : Text) : Option Text := given? (env.get? name)

/-- What an option of the file gives unless it is blank. -/
def fromFile? (d : Ini.Document) (option : Text) : Option Text :=
  given? (d.value? place option).toOption.join

/-- The options that are looked up can be expanded. -/
structure Resolves (d : Ini.Document) (env : Environment) : Prop where
  ruleFile : ∃ value, d.value? place pathOption = .ok value
  switch : ∀ s : Switch, fromEnvironment? env s.variableName = none →
    ∃ value, d.value? place s.option = .ok value

/-- How a switch is set by what the environment gives, else by what the file gives. -/
def settingOf (d : Ini.Document) (env : Environment) (s : Switch) : Bool :=
  match fromEnvironment? env s.variableName, fromFile? d s.option with
  | some value, _ | none, some value => (truth? value).getD s.default
  | none, none => s.default

/-- What is reported of a value that was given under a name, if it is no truth value. -/
def complaintOf? (name value : Text) : Option Event :=
  if (truth? value).isNone then some (.notBoolean name value) else none

/-- What is reported of a switch. A value that is hidden is not looked at. -/
def complaint? (d : Ini.Document) (env : Environment) (s : Switch) : Option Event :=
  match fromEnvironment? env s.variableName, fromFile? d s.option with
  | some value, _ => complaintOf? s.variableName value
  | none, some value => complaintOf? ("SYNONYMS." ++ s.option) value
  | none, none => none

theorem tells_truthOf (name value : Text) (default : Bool) :
    Tells (truthOf name value default) ((truth? value).getD default)
      (complaintOf? name value).toList := by
  rw [truthOf, complaintOf?]
  cases truth? value with
  | some b => exact tells_pure b
  | none => exact (tells_report _).bind (tells_pure default)

theorem tells_optionValue {option : Text} {value : Option Text}
    (h : d.value? place option = .ok value) : Tells (optionValue d option) value [] := by
  rw [optionValue, h]
  exact tells_pure value

theorem tells_switch (h : Resolves d env) (s : Switch) :
    Tells (switch d env s) (settingOf d env s) (complaint? d env s).toList := by
  rw [switch, settingOf, complaint?]
  cases hvariable : fromEnvironment? env s.variableName with
  | some value =>
    rw [fromEnvironment?] at hvariable
    rw [hvariable]
    exact tells_truthOf _ _ _
  | none =>
    obtain ⟨found, hfound⟩ := h.switch s hvariable
    have hfile : fromFile? d s.option = given? found := by
      rw [fromFile?, hfound]
      rfl
    rw [fromEnvironment?] at hvariable
    rw [hvariable, hfile]
    refine (tells_optionValue hfound).bind (show Tells _ _ (Option.toList _) from ?_)
    cases given? found with
    | some value => exact tells_truthOf _ _ _
    | none => exact tells_pure _

theorem outcome_load {tree : FileTree} {path : Path} (hd : document tree path = .ok d)
    (h : Resolves d env) :
    (load tree env path).outcome =
      (.ok
        { expand := settingOf d env .expand
          dedup := settingOf d env .dedup
          lowercase := settingOf d env .lowercase
          ruleFile := ruleFileFrom path (env.get? pathVariable)
            (d.value? place pathOption).toOption.join },
        [Switch.expand, .dedup, .lowercase].filterMap (complaint? d env)) := by
  obtain ⟨rules, hrules⟩ := h.ruleFile
  have hevents : [Switch.expand, .dedup, .lowercase].filterMap (complaint? d env) =
      [] ++ ([] ++ ((complaint? d env .expand).toList ++ ((complaint? d env .dedup).toList ++
        ((complaint? d env .lowercase).toList ++ [])))) := by
    simp only [List.filterMap_cons, List.filterMap_nil]
    cases complaint? d env .expand <;> cases complaint? d env .dedup <;>
      cases complaint? d env .lowercase <;> rfl
  rw [hevents, load, hd, hrules]
  apply Tells.outcome
  exact (tells_pure d).bind ((tells_optionValue hrules).bind ((tells_switch h _).bind
    ((tells_switch h _).bind ((tells_switch h _).bind (tells_pure _)))))

end Settings

end Thesaurus
