import Mathlib.Data.List.Basic
import Thesaurus.CommandLine.Words

/-!
# What words are

What a word is follows from the options that are known. Options that only add names of options with
values change nothing for words that name none of these. Main facts: `classifyAll_cons_eq_ok_iff`
for the words one by one, `classifyAll_of_extends` and `items_congr` for options that are added.
-/

set_option autoImplicit false

namespace Thesaurus.CommandLine

theorem exists_ok_of_bind {ε α β : Type} {first : Except ε α} {next : α → Except ε β} {b : β}
    (h : first >>= next = .ok b) : ∃ a, first = .ok a ∧ next a = .ok b := by
  cases first with
  | error cause => exact absurd h nofun
  | ok a => exact ⟨a, rfl, h⟩

theorem eq_ok_of_mapError {ε ε' α : Type} {result : Except ε α} {f : ε → ε'} {a : α}
    (h : result.mapError f = .ok a) : result = .ok a := by
  cases result with
  | error cause => exact absurd h nofun
  | ok a' => exact congrArg Except.ok (Except.ok.inj h)

section Options

variable {ω : Type} {all known : Options ω}

/-- The word names no option that takes a value. -/
def Word.TakesNoValue : Word ω → Prop
  | .named option _ => option.takesValue = false
  | _ => True

/-- The options are the known ones and further ones with names, each of which takes a value. -/
structure Options.Extends (all known : Options ω) : Prop where
  letters : all.letters = known.letters
  names : ∃ more, all.names = known.names ++ more ∧ ∀ option ∈ more, option.takesValue = true

theorem classifyName_of_extends (h : all.Extends known) {w body : Text} {word : Word ω}
    (hword : classifyName all w body = .ok word) (hflag : word.TakesNoValue) :
    classifyName known w body = .ok word := by
  obtain ⟨more, hnames, hmore⟩ := h.names
  -- Of the further options none is what the word stands for, or the word would take a value.
  have hother {option : Named ω} (hoption : option ∈ more) (value : Option Text) :
      word ≠ .named option value := by
    rintro rfl
    exact absurd ((hmore option hoption).symm.trans hflag) nofun
  rw [classifyName] at hword ⊢
  rw [hnames, List.find?_append] at hword
  cases hown : known.names.find? (·.name == body.takeWhile (· != '=')) with
  | some option =>
    rw [hown] at hword
    exact hword
  | none =>
    rw [hown, Option.none_or] at hword
    dsimp only
    cases hfound : more.find? (·.name == body.takeWhile (· != '=')) with
    | some option =>
      rw [hfound] at hword
      exact absurd (Except.ok.inj hword).symm (hother (List.mem_of_find?_eq_some hfound) _)
    | none =>
      rw [hfound] at hword
      dsimp only at hword
      rw [List.filter_append] at hword
      cases hbegun : more.filter ((body.takeWhile (· != '=')).isPrefixOf ·.name) with
      | nil => rwa [hbegun, List.append_nil] at hword
      | cons option rest =>
        rw [hbegun] at hword
        have hoption : option ∈ more := List.mem_of_mem_filter (hbegun ▸ List.mem_cons_self)
        match hbefore : known.names.filter ((body.takeWhile (· != '=')).isPrefixOf ·.name), rest with
        | [], [] =>
          rw [hbefore] at hword
          exact absurd (Except.ok.inj hword).symm (hother hoption _)
        | [], _ :: _ | [_], _ | _ :: _ :: _, _ =>
          rw [hbefore] at hword
          exact absurd hword nofun

theorem classify_of_extends (h : all.Extends known) {w : Text} {word : Word ω}
    (hword : classify all w = .ok word) (hflag : word.TakesNoValue) :
    classify known w = .ok word := by
  rw [classify.eq_def] at hword
  split at hword
  · next body =>
    rw [classify]
    split_ifs at hword ⊢
    · exact hword
    · exact classifyName_of_extends h hword hflag
  · next c rest hdash =>
    rw [h.letters] at hword
    rw [classify]
    · exact hword
    · exact hdash
  · next hdashes hdash =>
    rw [classify]
    · exact hword
    · exact hdashes
    · exact hdash

theorem classify_operand (options : Options ω) {w : Text} (h : w.head? ≠ some '-') :
    classify options w = .ok .operand := by
  match w, h with
  | [], _ => rfl
  | c :: t, h =>
    have hc : c ≠ '-' := fun heq => h (congrArg some heq)
    simp [classify, hc]

theorem classifyAll_cons {options : Options ω} {w : Text} {word : Word ω}
    (hword : classify options w = .ok word) (hne : word ≠ .separator) (ws : List Text) :
    classifyAll options (w :: ws) = (classifyAll options ws).map ((w, word) :: ·) := by
  rw [classifyAll, hword]
  cases word with
  | separator => exact absurd rfl hne
  | _ => cases classifyAll options ws <;> rfl

/-- The words behind a separator are operands, and the others are what they are alone. -/
theorem classifyAll_cons_eq_ok_iff {options : Options ω} {w : Text} {ws : List Text}
    {words : List (Text × Word ω)} : classifyAll options (w :: ws) = .ok words ↔
      ∃ word rest, classify options w = .ok word ∧ words = (w, word) :: rest ∧
        (word = .separator ∧ rest = ws.map (fun operand => (operand, .operand)) ∨
          word ≠ .separator ∧ classifyAll options ws = .ok rest) := by
  rw [classifyAll]
  cases classify options w with
  | error cause => exact iff_of_false nofun fun ⟨_, _, hword, _⟩ => absurd hword nofun
  | ok word =>
    cases word with
    | separator => simp [bind, Except.bind, pure, Except.pure, eq_comm]
    | _ => cases classifyAll options ws <;> simp [bind, Except.bind, pure, Except.pure, eq_comm]

theorem classifyAll_of_extends (h : all.Extends known) {ws : List Text}
    {words : List (Text × Word ω)} (hwords : classifyAll all ws = .ok words)
    (hflags : ∀ entry ∈ words, entry.2.TakesNoValue) : classifyAll known ws = .ok words := by
  induction ws generalizing words with
  | nil => exact hwords
  | cons w ws ih =>
    obtain ⟨word, rest, hword, rfl, hrest⟩ := classifyAll_cons_eq_ok_iff.mp hwords
    obtain ⟨hflag, hflags⟩ := List.forall_mem_cons.mp hflags
    refine classifyAll_cons_eq_ok_iff.mpr
      ⟨word, rest, classify_of_extends h hword hflag, rfl, hrest.imp_right ?_⟩
    rintro ⟨hne, hrest⟩
    exact ⟨hne, ih hrest hflags⟩

theorem map_fst_classifyAll {options : Options ω} {ws : List Text} {words : List (Text × Word ω)}
    (h : classifyAll options ws = .ok words) : words.map Prod.fst = ws := by
  induction ws generalizing words with
  | nil =>
    rw [← Except.ok.inj h]
    rfl
  | cons w ws ih =>
    obtain ⟨word, rest, -, rfl, ⟨-, rfl⟩ | ⟨-, hrest⟩⟩ := classifyAll_cons_eq_ok_iff.mp h
    · simp [Function.comp_def]
    · rw [List.map_cons, ih hrest]

theorem mem_names_of_classify {options : Options ω} {w : Text} {option : Named ω}
    {value : Option Text} (h : classify options w = .ok (.named option value)) :
    option ∈ options.names := by
  have hunmatched : unmatched w ≠ .named option value := by
    rw [unmatched]
    split_ifs <;> exact nofun
  rw [classify.eq_def] at h
  split at h
  · split_ifs at h
    · exact absurd h nofun
    · rw [classifyName] at h
      split at h
      · next found hfound =>
        obtain ⟨rfl, -⟩ := Word.named.inj (Except.ok.inj h)
        exact List.mem_of_find?_eq_some hfound
      · split at h
        · exact absurd (Except.ok.inj h) hunmatched
        · next found hfound =>
          obtain ⟨rfl, -⟩ := Word.named.inj (Except.ok.inj h)
          exact List.mem_of_mem_filter (hfound ▸ List.mem_cons_self)
        · exact absurd h nofun
  · split_ifs at h
    · exact absurd h nofun
    · exact absurd (Except.ok.inj h) hunmatched
  · exact absurd h nofun

theorem mem_names_of_classifyAll {options : Options ω} {ws : List Text}
    {words : List (Text × Word ω)} (h : classifyAll options ws = .ok words) :
    ∀ entry ∈ words, ∀ option value, entry.2 = .named option value → option ∈ options.names := by
  induction ws generalizing words with
  | nil =>
    rw [← Except.ok.inj h]
    simp
  | cons w ws ih =>
    obtain ⟨word, rest, hword, rfl, hrest⟩ := classifyAll_cons_eq_ok_iff.mp h
    refine List.forall_mem_cons.mpr ⟨?_, ?_⟩
    · rintro option value rfl
      exact mem_names_of_classify hword
    · obtain ⟨-, rfl⟩ | ⟨-, hrest⟩ := hrest
      · simp
      · exact ih hrest

theorem readLetters_congr (h : all.letters = known.letters) (t : Text) :
    readLetters all t = readLetters known t := by
  induction t with
  | nil => rfl
  | cons c t ih => rw [readLetters, readLetters, h, ih]

theorem letterItems_congr (h : all.letters = known.letters) (t : Text) :
    letterItems all t = letterItems known t := by
  rw [letterItems, letterItems, readLetters_congr h]

/-- Letters that are read are the actions of known ones, up to an unknown one. -/
theorem exists_of_readLetters {options : Options ω} {t : Text} {read : List (Item ω)}
    (h : readLetters options t = .ok read) :
    ∃ (actions : List ω) (behind : List (Item ω)), read = actions.map (.action · none) ++ behind ∧
      (∀ a ∈ actions, ∃ c, options.letters.lookup c = some a) ∧
      (behind = [] ∨ behind = [.unknown]) := by
  induction t generalizing read with
  | nil =>
    obtain rfl := Except.ok.inj h
    exact ⟨[], [], rfl, by simp, .inl rfl⟩
  | cons c t ih =>
    rw [readLetters] at h
    split_ifs at h
    split at h
    · next a ha =>
      cases hrest : readLetters options t with
      | error e =>
        rw [hrest] at h
        cases h
      | ok rest =>
        rw [hrest] at h
        obtain rfl := Except.ok.inj h
        obtain ⟨actions, behind, rfl, hknown, hbehind⟩ := ih hrest
        exact ⟨a :: actions, behind, rfl, List.forall_mem_cons.mpr ⟨⟨c, ha⟩, hknown⟩, hbehind⟩
    · obtain rfl := Except.ok.inj h
      exact ⟨[], [.unknown], rfl, by simp, .inr rfl⟩

theorem letterItems_cases (options : Options ω) (t : Text) :
    (∃ e, letterItems options t = [.fault e]) ∨
      ∃ (actions : List ω) (behind : List (Item ω)),
        letterItems options t = actions.map (.action · none) ++ behind ∧
        (∀ a ∈ actions, ∃ c, options.letters.lookup c = some a) ∧
        (behind = [] ∨ behind = [.unknown]) := by
  rw [letterItems]
  cases hread : readLetters options t with
  | error e => exact .inl ⟨e, rfl⟩
  | ok read => exact .inr (exists_of_readLetters hread)

theorem items_flag {options : Options ω} {option : Named ω} (h : option.takesValue = false)
    (w : Text) (rest : List (Text × Word ω)) :
    items options ((w, .named option none) :: rest) =
      .action option.action none :: items options rest := by
  rw [items.eq_def]
  exact if_neg (by simp [h])

theorem items_congr (h : all.letters = known.letters) (words : List (Text × Word ω)) :
    items all words = items known words := by
  fun_induction items all words with
  | case10 w option rest hflag ih => rw [items_flag (by simpa using hflag), ih]
  | _ => simp_all [items, letterItems_congr h]

end Options

end Thesaurus.CommandLine
