import Thesaurus.Proofs.CommandLine.Words

/-!
# How options are spelled

An option is given by its name behind two dashes or by a beginning of it, and its value stands
behind an equals sign or is the next word. Where no name begins another, a word that is understood
stands for the one option it spells: `classify_eq_named_iff`.
-/

set_option autoImplicit false

namespace Thesaurus.CommandLine

variable {ω : Type} {options : Options ω} {w : Text} {word : Word ω}

/-- The value, if any, that a word gives to an option whose name it spells or begins to spell. -/
def spells? (name : Text) : Text → Option (Option Text)
  | '-' :: '-' :: body =>
    if !body.isEmpty && (body.takeWhile (· != '=')).isPrefixOf name then
      some (body.dropWhile (· != '=')).tail?
    else none
  | _ => none

/-- No name of an option is the beginning of another's. -/
def Options.Distinct (options : Options ω) : Prop :=
  ∀ first ∈ options.names, ∀ second ∈ options.names, first.name <+: second.name → first = second

theorem unmatched_cases (w : Text) :
    (unmatched w : Word ω) = .operand ∨ (unmatched w : Word ω) = .unknown := by
  rw [unmatched]
  split_ifs
  · exact .inl rfl
  · exact .inr rfl

theorem unmatched_ne_named (option : Named ω) (value : Option Text) :
    unmatched w ≠ .named option value := by
  obtain hw | hw := unmatched_cases w <;> rw [hw] <;> exact nofun

theorem spells?_of_dash {name : Text} {c : Char} {t : Text} (hc : c ≠ '-') :
    spells? name ('-' :: c :: t) = none := by
  rw [spells?.eq_def]
  split
  · next body heq =>
    exact absurd (List.cons.inj (List.cons.inj heq).2).1 hc
  · rfl

theorem classifyName_eq_named_iff (hdistinct : options.Distinct) {body : Text}
    (hword : classifyName options w body = .ok word) {option : Named ω}
    (hoption : option ∈ options.names) {value : Option Text} :
    word = .named option value ↔
      body.takeWhile (· != '=') <+: option.name ∧ (body.dropWhile (· != '=')).tail? = value := by
  rw [classifyName] at hword
  split at hword
  · next found hfound =>
    have hname : found.name = body.takeWhile (· != '=') := by simpa using List.find?_some hfound
    rw [← Except.ok.inj hword, Word.named.injEq]
    refine and_congr ⟨?_, fun hbegins => ?_⟩ (by cases body.dropWhile (· != '=') <;> rfl)
    · rintro rfl
      exact hname ▸ List.prefix_refl _
    · exact hdistinct found (List.mem_of_find?_eq_some hfound) option hoption (hname ▸ hbegins)
  · have hmem {other : Named ω} : other ∈ options.names.filter
        ((body.takeWhile (· != '=')).isPrefixOf ·.name) ↔
        other ∈ options.names ∧ body.takeWhile (· != '=') <+: other.name := by
      rw [List.mem_filter, List.isPrefixOf_iff_prefix]
    split at hword
    · next hnone =>
      rw [← Except.ok.inj hword]
      exact iff_of_false (unmatched_ne_named _ _) fun h =>
        List.not_mem_nil (hnone ▸ hmem.mpr ⟨hoption, h.1⟩)
    · next found hfound =>
      rw [← Except.ok.inj hword, Word.named.injEq]
      refine and_congr ⟨?_, fun hbegins => ?_⟩ (by cases body.dropWhile (· != '=') <;> rfl)
      · rintro rfl
        exact (hmem.mp (hfound ▸ List.mem_singleton_self found)).2
      · exact (List.mem_singleton.mp (hfound ▸ hmem.mpr ⟨hoption, hbegins⟩)).symm
    · cases hword

/-- A word that is understood stands for an option just if it spells its name or begins to. -/
theorem classify_eq_named_iff (hdistinct : options.Distinct) (hword : classify options w = .ok word)
    {option : Named ω} (hoption : option ∈ options.names) {value : Option Text} :
    word = .named option value ↔ spells? option.name w = some value := by
  rw [classify.eq_def] at hword
  split at hword
  · next body =>
    rw [spells?]
    split_ifs at hword with hempty
    · rw [← Except.ok.inj hword, hempty]
      simp
    · rw [classifyName_eq_named_iff hdistinct hword hoption, ← List.isPrefixOf_iff_prefix]
      cases hbegins : (body.takeWhile (· != '=')).isPrefixOf option.name <;> simp [hempty]
  · next c rest hdash =>
    rw [spells?_of_dash hdash]
    refine iff_of_false ?_ (Option.some_ne_none value).symm
    split_ifs at hword <;> rw [← Except.ok.inj hword]
    · simp
    · exact unmatched_ne_named _ _
  · next hdashes hdash =>
    rw [← Except.ok.inj hword, spells?]
    · simp
    · exact hdashes

theorem spells?_eq_none (hdistinct : options.Distinct) (hword : classify options w = .ok word)
    {option : Named ω} (hoption : option ∈ options.names)
    (hother : ∀ value, word ≠ .named option value) : spells? option.name w = none := by
  rw [Option.eq_none_iff_forall_ne_some]
  exact fun value hvalue =>
    hother value ((classify_eq_named_iff hdistinct hword hoption).mpr hvalue)

/-- The word is an option whose value is the next word. -/
def Options.awaits (options : Options ω) (w : Text) : Bool :=
  options.names.any fun option => option.takesValue && spells? option.name w == some none

theorem awaits_named (hdistinct : options.Distinct) {option : Named ω} {value : Option Text}
    (hword : classify options w = .ok (.named option value)) :
    options.awaits w = (option.takesValue && value.isNone) := by
  have hoption := mem_names_of_classify hword
  have hvalue := (classify_eq_named_iff hdistinct hword hoption).mp rfl
  rw [Bool.eq_iff_iff, Options.awaits, List.any_eq_true]
  constructor
  · rintro ⟨other, hother, hawaits⟩
    rw [Bool.and_eq_true, beq_iff_eq] at hawaits
    obtain ⟨rfl, rfl⟩ := Word.named.inj
      ((classify_eq_named_iff hdistinct hword hother).mpr hawaits.2)
    rw [hawaits.1]
    rfl
  · intro h
    refine ⟨option, hoption, ?_⟩
    rw [hvalue]
    cases value with
    | none => simpa using h
    | some value => simp at h

theorem awaits_eq_false (hdistinct : options.Distinct) (hword : classify options w = .ok word)
    (hother : ∀ option, word ≠ .named option none) : options.awaits w = false :=
  List.any_eq_false.mpr fun option hoption => by
    have hspells := mt (classify_eq_named_iff hdistinct hword hoption).mpr (hother option)
    simp [hspells]

theorem ne_separator (hword : classify options w = .ok word) (hne : word ≠ .separator) :
    w ≠ ['-', '-'] := by
  rintro rfl
  exact hne (Except.ok.inj hword).symm

theorem classifyName_cases {body : Text} (h : classifyName options w body = .ok word) :
    (∃ option value, word = .named option value) ∨ word = .operand ∨ word = .unknown := by
  rw [classifyName] at h
  split at h
  · exact .inl ⟨_, _, (Except.ok.inj h).symm⟩
  · split at h
    · exact .inr (Except.ok.inj h ▸ unmatched_cases w)
    · exact .inl ⟨_, _, (Except.ok.inj h).symm⟩
    · cases h

theorem eq_of_classify_separator (h : classify options w = .ok .separator) : w = ['-', '-'] := by
  rw [classify.eq_def] at h
  split at h
  · next body =>
    split_ifs at h with hempty
    · rw [List.isEmpty_iff.mp hempty]
    · obtain ⟨option, value, heq⟩ | heq | heq := classifyName_cases h <;> cases heq
  · next c rest _ =>
    split_ifs at h
    · cases h
    · obtain hw | hw := unmatched_cases (ω := ω) ('-' :: c :: rest) <;> rw [hw] at h <;> cases h
  · cases h

/-- Letters behind a dash begin with one that is known. -/
theorem exists_of_classify_letters {t : Text} (h : classify options w = .ok (.letters t)) :
    ∃ c rest, t = c :: rest ∧ (options.letters.lookup c).isSome := by
  rw [classify.eq_def] at h
  split at h
  · split_ifs at h
    · cases h
    · obtain ⟨option, value, heq⟩ | heq | heq := classifyName_cases h <;> cases heq
  · next c rest _ =>
    split_ifs at h with hletter
    · exact ⟨c, rest, (Word.letters.inj (Except.ok.inj h)).symm, hletter⟩
    · obtain hw | hw := unmatched_cases (ω := ω) ('-' :: c :: rest) <;> rw [hw] at h <;> cases h
  · cases h

section Cons

variable {ws : List Text} {t : Text} {rest : List (Text × Word ω)}

theorem exists_cons_of_classifyAll (h : classifyAll options ws = .ok ((t, word) :: rest))
    (hne : word ≠ .separator) :
    ∃ ws', ws = t :: ws' ∧ classify options t = .ok word ∧ classifyAll options ws' = .ok rest := by
  cases ws with
  | nil => exact absurd h nofun
  | cons w ws =>
    obtain ⟨_, _, hword, hcons, hrest⟩ := classifyAll_cons_eq_ok_iff.mp h
    obtain ⟨heq, rfl⟩ := List.cons.inj hcons
    obtain ⟨rfl, rfl⟩ := Prod.mk.inj heq
    exact ⟨ws, rfl, hword, (hrest.resolve_left fun h => hne h.1).2⟩

theorem exists_cons_of_separator (h : classifyAll options ws = .ok ((t, .separator) :: rest)) :
    ∃ ws', ws = ['-', '-'] :: ws' ∧ rest = ws'.map fun operand => (operand, .operand) := by
  cases ws with
  | nil => exact absurd h nofun
  | cons w ws =>
    obtain ⟨_, _, hword, hcons, hrest⟩ := classifyAll_cons_eq_ok_iff.mp h
    obtain ⟨heq, rfl⟩ := List.cons.inj hcons
    obtain ⟨rfl, rfl⟩ := Prod.mk.inj heq
    rw [eq_of_classify_separator hword]
    exact ⟨ws, rfl, (hrest.resolve_right fun h => h.1 rfl).2⟩

end Cons

end Thesaurus.CommandLine
