import Thesaurus.Proofs.Settings.Interpolation
import Thesaurus.Proofs.Text.Trim
import Thesaurus.Settings.Basic

/-!
# Options that the environment hides

An option of the file that the environment sets does not matter. For the switches this holds
whatever the file says there, as they are not looked up. The option that names the rule file is
looked up all the same, so its value has to be one that can be expanded. Main fact:
`load_with_hidden_option`.
-/

set_option autoImplicit false

namespace Thesaurus

namespace Switch

theorem option_injective : Function.Injective Switch.option := by
  intro s s' h
  cases s <;> cases s' <;> revert h <;> decide

theorem option_ne_pathOption (s : Switch) : s.option ≠ Settings.pathOption := by
  cases s <;> decide

end Switch

namespace Settings

open Ini Ini.Document Text

variable {tree tree' : FileTree} {env : Environment} {path path' : Path} {d d' : Document}

/-- The environment has a variable of this name, and it is not blank. -/
def Sets (env : Environment) (name : Text) : Prop :=
  ∃ value, env.get? name = some value ∧ ∃ c ∈ value, isBlank c = false

theorem given?_of_sets {name : Text} (h : Sets env name) :
    ∃ value, given? (env.get? name) = some value := by
  obtain ⟨value, hvalue, hblank⟩ := h
  have hne : value.trim ≠ [] := by
    rw [ne_eq, trim_eq_nil_iff]
    simpa using hblank
  refine ⟨value, ?_⟩
  rw [hvalue, given?, Option.filter_some, if_pos]
  simpa using hne

section Switches

variable {s : Switch}

theorem switch_of_sets (h : Sets env s.variableName) : switch d env s = switch d' env s := by
  obtain ⟨value, hvalue⟩ := given?_of_sets h
  rw [switch, switch, hvalue]

theorem switch_congr (h : d.value? place s.option = d'.value? place s.option) :
    switch d env s = switch d' env s := by
  rw [switch, switch, optionValue, optionValue, h]

/-- A switch that is hidden is the same in either document, and so are those that are not. -/
theorem switch_eq {option : Text} (h : DifferOnlyAt place option d d')
    (hfree : d.Unmentioned place option)
    (hhidden : s.option = option → Sets env s.variableName) :
    switch d env s = switch d' env s := by
  by_cases hs : s.option = option
  · exact switch_of_sets (hhidden hs)
  · exact switch_congr (h.value?_eq hfree hs)

end Switches

section Load

/-- The settings of a document of which the value for the rule file is known. -/
def settle (d : Document) (env : Environment) (path : Path) (rules : Option Text) :
    Reporting SettingsError Settings := do
  let expand ← switch d env .expand
  let dedup ← switch d env .dedup
  let lowercase ← switch d env .lowercase
  return { expand, dedup, lowercase, ruleFile := ruleFileFrom path (env.get? pathVariable) rules }

theorem load_eq (hd : document tree path = .ok d) :
    load tree env path = optionValue d pathOption >>= settle d env path := by
  rw [load, hd]
  rfl

theorem load_of_value (hd : document tree path = .ok d) {rules : Option Text}
    (h : d.value? place pathOption = .ok rules) : load tree env path = settle d env path rules := by
  rw [load_eq hd, optionValue, h]
  exact pure_bind rules _

theorem outcome_load_of_error (hd : document tree path = .ok d) {cause : InterpolationError}
    (h : d.value? place pathOption = .error cause) :
    (load tree env path).outcome = (.error (.interpolation cause), []) := by
  rw [load_eq hd, optionValue, h]
  rfl

theorem settle_congr {rules rules' : Option Text}
    (hswitch : ∀ s, switch d env s = switch d' env s)
    (hrules : ruleFileFrom path (env.get? pathVariable) rules =
      ruleFileFrom path' (env.get? pathVariable) rules') :
    settle d env path rules = settle d' env path' rules' := by
  rw [settle, settle, hswitch, hswitch, hswitch, hrules]

theorem ruleFileFrom_parent (h : path.parent = path'.parent) (fromEnv fromFile : Option Text) :
    ruleFileFrom path fromEnv fromFile = ruleFileFrom path' fromEnv fromFile := by
  rw [ruleFileFrom, ruleFileFrom, h]

theorem ruleFileFrom_of_sets (h : Sets env pathVariable) (rules rules' : Option Text) :
    ruleFileFrom path (env.get? pathVariable) rules =
      ruleFileFrom path' (env.get? pathVariable) rules' := by
  obtain ⟨value, hvalue⟩ := given?_of_sets h
  rw [ruleFileFrom, ruleFileFrom, hvalue]

end Load

/-- Two configuration files of one directory that differ only in an option that the environment sets
and that no other option refers to. If the option is that of a switch, they load alike. If it is
that of the rule file, they do so if both values can be expanded; a value that cannot is an error. -/
theorem load_with_hidden_option (hd : document tree path = .ok d)
    (hd' : document tree' path' = .ok d') (hparent : path.parent = path'.parent) :
    (∀ s : Switch, Sets env s.variableName → DifferOnlyAt place s.option d d' →
      d.Unmentioned place s.option →
      (load tree env path).outcome = (load tree' env path').outcome) ∧
    (Sets env pathVariable → DifferOnlyAt place pathOption d d' →
      d.Unmentioned place pathOption →
      (∀ value value', d.value? place pathOption = .ok value →
        d'.value? place pathOption = .ok value' →
        (load tree env path).outcome = (load tree' env path').outcome) ∧
      ∀ cause, d.value? place pathOption = .error cause →
        (load tree env path).outcome = (.error (.interpolation cause), [])) := by
  constructor
  · intro s hset hdiffer hfree
    have hswitch (s' : Switch) : switch d env s' = switch d' env s' :=
      switch_eq hdiffer hfree fun h => Switch.option_injective h ▸ hset
    -- The rule file is looked up before the switches, with the same outcome in either document.
    have hvalue := hdiffer.value?_eq hfree s.option_ne_pathOption.symm
    cases hrules : d.value? place pathOption with
    | error cause =>
      rw [outcome_load_of_error hd hrules, outcome_load_of_error hd' (hvalue ▸ hrules)]
    | ok rules =>
      rw [load_of_value hd hrules, load_of_value hd' (hvalue ▸ hrules),
        settle_congr hswitch (ruleFileFrom_parent hparent _ _)]
  · intro hset hdiffer hfree
    have hswitch (s : Switch) : switch d env s = switch d' env s :=
      switch_eq hdiffer hfree fun h => absurd h s.option_ne_pathOption
    refine ⟨fun value value' hvalue hvalue' => ?_, fun cause => outcome_load_of_error hd⟩
    rw [load_of_value hd hvalue, load_of_value hd' hvalue',
      settle_congr hswitch (ruleFileFrom_of_sets hset _ _)]

theorem load_with_hidden_option_malformed :
    let files (expand rules : Text) : FileTree :=
      { workingDirectory := []
        files := ⟨[(["config.ini"], Utf8.encode ("[SYNONYMS]\nexpand = " ++ expand ++
            "\nDedup: maybe\nname = a\nrules_path = " ++ rules))], List.nodup_singleton _⟩ }
    let env : Environment :=
      ⟨[("SYNONYM_EXPAND", "on"), ("SYNONYM_RULES_PATH", "b.txt")], by decide⟩
    let settled : Except SettingsError Settings × List Event :=
      (.ok { expand := true, ruleFile := some ⟨[], ["b.txt"]⟩ },
        [.notBoolean "SYNONYMS.dedup" "maybe"])
    (load (files "100%" "%(name)s.txt") env).outcome = settled ∧
    (load (files "no" "a.txt") env).outcome = settled ∧
    (load (files "no" "100%") env).outcome = (.error (.interpolation .malformed), []) := by
  intro files env settled
  let d : Document :=
    { sections := ⟨[("SYNONYMS", ⟨[("expand", "no"), ("dedup", "maybe"), ("name", "a"),
        ("rules_path", "%(name)s.txt")], by decide⟩)], by decide⟩ }
  have hd : document (files "no" "%(name)s.txt") defaultFile = .ok d := by decide +kernel
  have hload : (load (files "no" "%(name)s.txt") env).outcome = settled := by decide +kernel
  have hplace : (d.sections.get? place).isSome := by decide
  have hexpand : Sets env Switch.expand.variableName :=
    ⟨"on", by decide, 'o', by decide, by decide⟩
  have hrules : Sets env pathVariable := ⟨"b.txt", by decide, 'b', by decide, by decide⟩
  have hfree : d.Unmentioned place Switch.expand.option ∧ d.Unmentioned place pathOption :=
    ⟨unmentioned_of_forall (by decide +kernel), unmentioned_of_forall (by decide +kernel)⟩
  have hvalue : d.value? place pathOption = .ok (some "a.txt") := by decide +kernel
  refine ⟨?_, ?_, ?_⟩
  · have hd' : document (files "100%" "%(name)s.txt") defaultFile =
        .ok (d.withValue place Switch.expand.option "100%") := by decide +kernel
    rw [← hload]
    exact ((load_with_hidden_option hd hd' rfl).1 .expand hexpand
      (differOnlyAt_withValue hplace _) hfree.1).symm
  · have hd' : document (files "no" "a.txt") defaultFile =
        .ok (d.withValue place pathOption "a.txt") := by decide +kernel
    rw [← hload]
    exact (((load_with_hidden_option hd hd' rfl).2 hrules (differOnlyAt_withValue hplace _)
      hfree.2).1 _ (some "a.txt") hvalue (by decide +kernel)).symm
  · have hd' : document (files "no" "100%") defaultFile =
        .ok (d.withValue place pathOption "100%") := by decide +kernel
    have hdiffer : DifferOnlyAt place pathOption d (d.withValue place pathOption "100%") :=
      differOnlyAt_withValue hplace _
    exact ((load_with_hidden_option hd' hd rfl).2 hrules hdiffer.symm
      (unmentioned_of_forall (by decide +kernel))).2 _ (by decide +kernel)

/-- The rule file is named by the environment, and a percent sign in the file is an error still. -/
theorem hidden_rule_file_still_expanded :
    ¬ ∀ (tree tree' : FileTree) (env : Environment) (path path' : Path) (d d' : Document),
      document tree path = .ok d → document tree' path' = .ok d' → path.parent = path'.parent →
      Sets env pathVariable → DifferOnlyAt place pathOption d d' →
      d.Unmentioned place pathOption →
      (load tree env path).outcome = (load tree' env path').outcome := by
  intro h
  let files (content : Text) : FileTree :=
    { workingDirectory := []
      files := ⟨[(["config.ini"], Utf8.encode content)], List.nodup_singleton _⟩ }
  let env : Environment := ⟨[("SYNONYM_RULES_PATH", "b.txt")], by decide⟩
  let d : Document :=
    { sections := ⟨[("SYNONYMS", ⟨[("rules_path", "a.txt")], by decide⟩)], by decide⟩ }
  have hd : document (files "[SYNONYMS]\nrules_path = a.txt") defaultFile = .ok d := by
    decide +kernel
  have hd' : document (files "[SYNONYMS]\nrules_path = 100%.txt") defaultFile =
      .ok (d.withValue place pathOption "100%.txt") := by
    decide +kernel
  have hset : Sets env pathVariable := ⟨"b.txt", by decide, 'b', by decide, by decide⟩
  have hsame := h _ _ env _ _ d _ hd hd' rfl hset (differOnlyAt_withValue (by decide) _)
    (unmentioned_of_forall (by decide +kernel))
  exact absurd hsame (by decide +kernel)

end Settings

end Thesaurus
