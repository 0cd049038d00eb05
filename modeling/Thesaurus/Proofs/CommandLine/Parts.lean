import Thesaurus.Proofs.CommandLine.Arguments

/-!
# The parts of a command line

The words in front of a command say how much is logged and where to. They are read the same whatever
stands behind them, and so are those behind the command that do not say where its output goes. Main
facts: `exists_front` for command lines that are understood, and `readInvocation_withoutOutput` for
what such a one says without an output.
-/

set_option autoImplicit false

namespace Thesaurus.CommandLine

section Fronts

/-- The words behind a command; a word that is awaited is the value of an option. -/
def behindCommand : List Text → (awaited : Bool := false) → List Text
  | [], _ => []
  | _ :: rest, true => behindCommand rest
  | w :: rest, false =>
    if w.head? = some '-' then behindCommand rest (globalOptions.awaits w) else rest

/-- Reads a command line on top of what is known of the log already. -/
def readOn (verbosity : Nat) (logFile : Option Text) (words : List Text) :
    Except Refusal Invocation := do
  let classified ← (classifyAll globalOptions words).mapError .usage
  readGlobal verbosity logFile false (items globalOptions classified)

/-- Words in front of a command that say how much is logged and where to. -/
structure Fronts (front : List Text) (verbosity : Nat) (logFile : Option Text) (verbosity' : Nat)
    (logFile' : Option Text) : Prop where
  read : ∀ ws, readOn verbosity logFile (front ++ ws) = readOn verbosity' logFile' ws
  behind : ∀ ws, behindCommand (front ++ ws) = behindCommand ws

theorem Fronts.append {front front' : List Text} {v v' v'' : Nat} {l l' l'' : Option Text}
    (h : Fronts front v l v' l') (h' : Fronts front' v' l' v'' l'') :
    Fronts (front ++ front') v l v'' l'' where
  read := fun ws => by rw [List.append_assoc, h.read, h'.read]
  behind := fun ws => by rw [List.append_assoc, h.behind, h'.behind]

theorem distinct_globalOptions : globalOptions.Distinct := by
  unfold Options.Distinct
  decide +kernel

theorem head?_of_classify {ω : Type} {options : Options ω} {w : Text} {word : Word ω}
    (hword : classify options w = .ok word) (hne : word ≠ .operand) : w.head? = some '-' := by
  by_contra hdash
  exact hne (Except.ok.inj (hword.symm.trans (classify_operand options hdash)))

/-- A word that is an option and takes no other word stands in front of a command. -/
theorem fronts_word {w : Text} {word : Word GlobalAction} {v v' : Nat} {l l' : Option Text}
    (hword : classify globalOptions w = .ok word) (hne : word ≠ .separator) (hne' : word ≠ .operand)
    (hawaits : globalOptions.awaits w = false)
    (hitems : ∀ rest, readGlobal v l false (items globalOptions ((w, word) :: rest)) =
      readGlobal v' l' false (items globalOptions rest)) : Fronts [w] v l v' l' where
  read := fun ws => by
    rw [List.singleton_append, readOn, readOn, classifyAll_cons hword hne]
    cases classifyAll globalOptions ws with
    | error cause => rfl
    | ok rest => exact hitems rest
  behind := fun ws => by
    rw [List.singleton_append, behindCommand, if_pos (head?_of_classify hword hne'), hawaits]

def logFileOption : Named GlobalAction where
  name := "log-file"
  action := .logFile
  takesValue := true

theorem eq_logFileOption {option : Named GlobalAction} (h : option ∈ globalOptions.names)
    (htakes : option.takesValue = true) : option = logFileOption := by
  obtain rfl | rfl | rfl : option = _ ∨ option = _ ∨ option = _ := by
    simpa [globalOptions] using h
  · exact absurd htakes nofun
  · exact absurd htakes nofun
  · rfl

theorem fronts_logFile {w value : Text} {v : Nat} {l : Option Text}
    (hword : classify globalOptions w = .ok (.named logFileOption none))
    (hvalue : classify globalOptions value = .ok .operand) :
    Fronts [w, value] v l v (some value) where
  read := fun ws => by
    rw [List.cons_append, List.singleton_append, readOn, readOn, classifyAll_cons hword nofun,
      classifyAll_cons hvalue nofun]
    cases classifyAll globalOptions ws <;> rfl
  behind := fun ws => by
    rw [List.cons_append, List.singleton_append, behindCommand,
      if_pos (head?_of_classify hword nofun), awaits_named distinct_globalOptions hword]
    rfl

theorem readGlobal_unrecognized {v : Nat} {l : Option Text} {rest : List (Item GlobalAction)}
    {invocation : Invocation} : readGlobal v l true rest ≠ .ok invocation := by
  induction rest generalizing v l with
  | nil => rintro ⟨⟩
  | cons item rest ih =>
    cases item with
    | separator | fault _ => rintro ⟨⟩
    | unknown => exact ih
    | action a _ =>
      cases a with
      | help => rintro ⟨⟩
      | _ => exact ih
    | operand name words =>
      rw [readGlobal]
      cases Command.ofName? name with
      | none => rintro ⟨⟩
      | some command =>
        dsimp only
        cases readCommand command words <;> rintro ⟨⟩

theorem eq_help_or_verbose {c : Char} {a : GlobalAction}
    (h : globalOptions.letters.lookup c = some a) : a = .help ∨ a = .verbose := by
  simp only [globalOptions, List.lookup_cons, List.lookup_nil] at h
  split at h
  · exact .inl (Option.some.inj h).symm
  · split at h
    · exact .inr (Option.some.inj h).symm
    · cases h

/-- Letters that are understood ask for more to be logged. -/
theorem exists_of_readGlobal_letters {t : Text} {v : Nat} {l : Option Text}
    {rest : List (Item GlobalAction)} {invocation : Invocation}
    (h : readGlobal v l false (letterItems globalOptions t ++ rest) = .ok invocation) :
    ∃ v', ∀ rest, readGlobal v l false (letterItems globalOptions t ++ rest) =
      readGlobal v' l false rest := by
  obtain ⟨e, hitems⟩ | ⟨actions, behind, hitems, hknown, hbehind⟩ :=
    letterItems_cases globalOptions t
  · rw [hitems] at h
    cases h
  · rw [hitems] at h ⊢
    clear hitems
    induction actions generalizing v with
    | nil =>
      obtain rfl | rfl := hbehind
      · exact ⟨v, fun _ => rfl⟩
      · exact absurd h readGlobal_unrecognized
    | cons a actions ih =>
      obtain ⟨⟨c, ha⟩, hactions⟩ := List.forall_mem_cons.mp hknown
      obtain rfl | rfl := eq_help_or_verbose ha
      · cases h
      · exact ih h hactions

/-- The words are those in front of the command of an invocation, and this with all behind it. -/
def SplitsAtCommand (words : List Text) (v : Nat) (l : Option Text) (invocation : Invocation) :
    Prop :=
  ∃ front v' l' args, Fronts front v l v' l' ∧ words = front ++ invocation.command.name :: args ∧
    readOn v' l' (invocation.command.name :: args) = .ok invocation

theorem Fronts.splitsAtCommand {front words : List Text} {v v' : Nat} {l l' : Option Text}
    {invocation : Invocation} (h : Fronts front v l v' l')
    (hwords : SplitsAtCommand words v' l' invocation) :
    SplitsAtCommand (front ++ words) v l invocation := by
  obtain ⟨front', v'', l'', args, hfront', rfl, hread⟩ := hwords
  exact ⟨front ++ front', v'', l'', args, h.append hfront', (List.append_assoc ..).symm, hread⟩

theorem splitsAtCommand {words : List Text} {classified : List (Text × Word GlobalAction)} {v : Nat}
    {l : Option Text} {invocation : Invocation}
    (hclassified : classifyAll globalOptions words = .ok classified)
    (hread : readGlobal v l false (items globalOptions classified) = .ok invocation) :
    SplitsAtCommand words v l invocation := by
  have hdistinct := distinct_globalOptions
  fun_induction items globalOptions classified generalizing words v l with
  | case1 => cases hread
  | case2 t classified ih =>
    obtain ⟨args, rfl, -, -⟩ := exists_cons_of_classifyAll hclassified (by simp)
    have hname : t = invocation.command.name := by
      rw [readGlobal] at hread
      split at hread
      · cases hread
      · next command hcommand =>
        obtain ⟨r, -, hread⟩ := exists_ok_of_bind hread
        split_ifs at hread
        · cases hread
        · rw [← Except.ok.inj hread]
          exact eq_name_of_ofName? hcommand
    refine ⟨[], v, l, args, ⟨fun _ => rfl, fun _ => rfl⟩, congrArg (· :: args) hname, ?_⟩
    rw [← hname, readOn, hclassified]
    exact hread
  | case3 t classified ih => cases hread
  | case4 t classified ih => exact absurd hread readGlobal_unrecognized
  | case5 w t classified ih =>
    obtain ⟨ws, rfl, hword, hrest⟩ := exists_cons_of_classifyAll hclassified (by simp)
    obtain ⟨v', hmore⟩ := exists_of_readGlobal_letters hread
    have hfront : Fronts [w] v l v' l := fronts_word hword (by simp) (by simp)
      (awaits_eq_false hdistinct hword (by simp)) fun rest => hmore _
    rw [hmore] at hread
    exact hfront.splitsAtCommand (ih hrest hread)
  | case6 w option value classified htakes ih =>
    obtain ⟨ws, rfl, hword, hrest⟩ := exists_cons_of_classifyAll hclassified (by simp)
    obtain rfl := eq_logFileOption (mem_names_of_classify hword) htakes
    have hfront : Fronts [w] v l v (some value) := fronts_word hword (by simp) (by simp)
      (awaits_named hdistinct hword) fun rest => rfl
    exact hfront.splitsAtCommand (ih hrest hread)
  | case7 => cases hread
  | case8 w option htakes value classified ih =>
    obtain ⟨ws, rfl, hword, hvalues⟩ := exists_cons_of_classifyAll hclassified (by simp)
    obtain rfl := eq_logFileOption (mem_names_of_classify hword) htakes
    obtain ⟨ws, rfl, hvalue, hrest⟩ := exists_cons_of_classifyAll hvalues (by simp)
    exact (fronts_logFile hword hvalue).splitsAtCommand (ih hrest hread)
  | case9 => cases hread
  | case10 w option classified hflag ih =>
    obtain ⟨ws, rfl, hword, hrest⟩ := exists_cons_of_classifyAll hclassified (by simp)
    obtain rfl | rfl | rfl : option = _ ∨ option = _ ∨ option = _ := by
      simpa [globalOptions] using mem_names_of_classify hword
    · cases hread
    · have hitems (rest) : items globalOptions ((w, .named ⟨"verbose", .verbose, false⟩ none) ::
          rest) = .action .verbose none :: items globalOptions rest := items_flag rfl w rest
      have hfront : Fronts [w] v l (v + 1) l := fronts_word hword (by simp) (by simp)
        (awaits_named hdistinct hword) fun rest => congrArg (readGlobal v l false) (hitems rest)
      exact hfront.splitsAtCommand (ih hrest hread)
    · exact absurd rfl hflag

/-- It can be told of each word what it is. -/
def Options.Understands {ω : Type} (options : Options ω) (ws : List Text) : Prop :=
  ∃ classified, classifyAll options ws = .ok classified

theorem behindCommand_name (command : Command) (args : List Text) :
    behindCommand (command.name :: args) = args := by
  have hdash : command.name.head? ≠ some '-' := by cases command <;> decide
  rw [behindCommand, if_neg hdash]

theorem readOn_command (v : Nat) (l : Option Text) (command : Command) (args : List Text) :
    readOn v l (command.name :: args) =
      (readFrom v (command.name :: args)).map fun i => { i with logFile := l } := by
  have hname : classify globalOptions command.name = .ok .operand := by
    cases command <;> rfl
  rw [readOn, readFrom, classifyAll_cons hname (by simp)]
  cases classifyAll globalOptions args with
  | error cause => rfl
  | ok classified =>
    change readGlobal v l false (.operand command.name (classified.map Prod.fst) ::
        items globalOptions classified) = (readGlobal v none false (.operand command.name
          (classified.map Prod.fst) :: items globalOptions classified)).map _
    rw [readGlobal, readGlobal, ofName?_name]
    dsimp only
    cases readCommand command (classified.map Prod.fst) with
    | error cause => rfl
    | ok r =>
      obtain ⟨options, fresh, unrecognized⟩ := r
      cases unrecognized <;> rfl

theorem readOn_command_eq_ok_iff {v : Nat} {l : Option Text} {command : Command} {args : List Text}
    {invocation : Invocation} : readOn v l (command.name :: args) = .ok invocation ↔
      globalOptions.Understands args ∧
        ∃ r, readCommand command args = .ok r ∧ r.unrecognized = false ∧
          invocation = { verbosity := v, logFile := l, command, options := r.options } := by
  rw [readOn_command]
  constructor
  · intro h
    cases hread : readFrom v (command.name :: args) with
    | error cause =>
      rw [hread] at h
      exact absurd h nofun
    | ok plain =>
      rw [hread] at h
      obtain ⟨hclassified, r, hr, hknown, rfl⟩ := readFrom_command_eq_ok_iff.mp hread
      exact ⟨hclassified, r, hr, hknown, (Except.ok.inj h).symm⟩
  · rintro ⟨hclassified, r, hr, hknown, rfl⟩
    rw [readFrom_command_eq_ok_iff.mpr ⟨hclassified, r, hr, hknown, rfl⟩]
    rfl

/-- A command line that is understood: the command reads the words behind it, and would read others
in their place on the same terms. -/
theorem exists_front {words : List Text} {invocation : Invocation}
    (h : readInvocation words = .ok invocation) :
    ∃ front, words = front ++ invocation.command.name :: behindCommand words ∧
      globalOptions.Understands (behindCommand words) ∧
      (∃ r, readCommand invocation.command (behindCommand words) = .ok r ∧
        r.unrecognized = false ∧ r.options = invocation.options) ∧
      ∀ args r, globalOptions.Understands args →
        readCommand invocation.command args = .ok r → r.unrecognized = false →
        readInvocation (front ++ invocation.command.name :: args) =
          .ok { invocation with options := r.options } := by
  obtain ⟨classified, hclassified, hread⟩ := exists_ok_of_bind h
  obtain ⟨front, v, l, args, hfront, hwords, hcommand⟩ :=
    splitsAtCommand (eq_ok_of_mapError hclassified) hread
  have hbehind : behindCommand words = args := by
    rw [hwords, hfront.behind, behindCommand_name]
  obtain ⟨hclassified, r, hr, hknown, hinvocation⟩ := readOn_command_eq_ok_iff.mp hcommand
  rw [hbehind]
  refine ⟨front, hwords, hclassified, ⟨r, hr, hknown, ?_⟩, fun args' r' hargs hr' hknown' => ?_⟩
  · rw [hinvocation]
  · refine (hfront.read _).trans (readOn_command_eq_ok_iff.mpr ⟨hargs, r', hr', hknown', ?_⟩)
    rw [hinvocation]

end Fronts

section Output

/-- The words without those that say where the output goes. -/
def withoutOutput : List Text → (awaited : Bool := false) → List Text
  | [], _ => []
  | _ :: rest, true => withoutOutput rest
  | w :: rest, false =>
    if w = ['-', '-'] then w :: rest
    else
      match spells? outputOption.name w with
      | none => w :: withoutOutput rest
      | some value => withoutOutput rest value.isNone

def Argument.isOutput : Argument → Bool
  | .output _ => true
  | _ => false

theorem outputOption_mem : outputOption ∈ (commandOptions .parse).names :=
  mem_names_iff.mpr (.inr (.inr ⟨rfl, rfl⟩))

theorem withoutOutput_cons {w : Text} {word : Word CommandAction}
    (hword : classify (commandOptions .parse) w = .ok word) (hne : word ≠ .separator)
    (hother : ∀ value, word ≠ .named outputOption value) (ws : List Text) :
    withoutOutput (w :: ws) = w :: withoutOutput ws := by
  rw [withoutOutput, if_neg (ne_separator hword hne),
    spells?_eq_none (distinct_commandOptions .parse) hword outputOption_mem hother]

theorem withoutOutput_output {w : Text} {value : Option Text}
    (hword : classify (commandOptions .parse) w = .ok (.named outputOption value))
    (ws : List Text) : withoutOutput (w :: ws) = withoutOutput ws value.isNone := by
  rw [withoutOutput, if_neg (ne_separator hword nofun),
    (classify_eq_named_iff (distinct_commandOptions .parse) hword outputOption_mem).mp rfl]

variable {ws : List Text} {arguments : List Argument} {r s : CommandReading}

theorem Says.withoutOutput (h : Says .parse ws arguments) :
    Says .parse (withoutOutput ws) (arguments.filter (!·.isOutput)) := by
  induction h with
  | nil => exact .nil
  | switch hword _ ih =>
    rw [withoutOutput_cons hword nofun fun _ heq =>
      absurd (congrArg Named.action (Word.named.inj heq).1) nofun]
    exact .switch hword ih
  | outputIs hword _ ih =>
    rw [withoutOutput_output hword]
    exact ih
  | outputTakes hword _ _ ih =>
    rw [withoutOutput_output hword]
    exact ih
  | operand hword _ ih =>
    rw [withoutOutput_cons hword nofun fun _ => nofun]
    exact .operand hword ih
  | separator ws =>
    have hall : (ws.map Argument.operand).filter (!·.isOutput) = ws.map .operand :=
      List.filter_eq_self.mpr fun a ha => by
        obtain ⟨t, -, rfl⟩ := List.mem_map.mp ha
        rfl
    rw [CommandLine.withoutOutput, if_pos rfl, List.filter_cons_of_pos rfl, hall]
    exact .separator ws

theorem understands_cons_iff {ω : Type} {options : Options ω} {w : Text} (hne : w ≠ ['-', '-']) :
    options.Understands (w :: ws) ↔
      (∃ word, classify options w = .ok word) ∧ options.Understands ws := by
  constructor
  · rintro ⟨classified, h⟩
    obtain ⟨word, rest, hword, -, ⟨rfl, -⟩ | ⟨-, hrest⟩⟩ := classifyAll_cons_eq_ok_iff.mp h
    · exact absurd (eq_of_classify_separator hword) hne
    · exact ⟨⟨word, hword⟩, rest, hrest⟩
  · rintro ⟨⟨word, hword⟩, rest, hrest⟩
    have hother : word ≠ .separator := by
      rintro rfl
      exact hne (eq_of_classify_separator hword)
    exact ⟨_, (classifyAll_cons hword hother ws).trans (congrArg _ hrest)⟩

/-- Whoever understood all the words understands those that are left. -/
theorem Says.understands_withoutOutput {ω : Type} {options : Options ω}
    (h : Says .parse ws arguments) (hwords : options.Understands ws) :
    options.Understands (CommandLine.withoutOutput ws) := by
  induction h with
  | nil => exact hwords
  | switch hword _ ih =>
    obtain ⟨hw, hws⟩ := (understands_cons_iff (ne_separator hword nofun)).mp hwords
    rw [withoutOutput_cons hword nofun fun _ heq =>
      absurd (congrArg Named.action (Word.named.inj heq).1) nofun]
    exact (understands_cons_iff (ne_separator hword nofun)).mpr ⟨hw, ih hws⟩
  | outputIs hword _ ih =>
    rw [withoutOutput_output hword]
    exact ih ((understands_cons_iff (ne_separator hword nofun)).mp hwords).2
  | outputTakes hword hvalue _ ih =>
    have hvalues := ((understands_cons_iff (ne_separator hword nofun)).mp hwords).2
    rw [withoutOutput_output hword]
    exact ih ((understands_cons_iff (ne_separator hvalue nofun)).mp hvalues).2
  | operand hword _ ih =>
    obtain ⟨hw, hws⟩ := (understands_cons_iff (ne_separator hword nofun)).mp hwords
    rw [withoutOutput_cons hword nofun fun _ => nofun]
    exact (understands_cons_iff (ne_separator hword nofun)).mpr ⟨hw, ih hws⟩
  | separator ws =>
    rw [CommandLine.withoutOutput, if_pos rfl]
    exact hwords

/-- The second reading is the first one without its output. -/
structure CommandReading.Mutes (r s : CommandReading) : Prop where
  options : s.options = { r.options with output := none }
  fresh : r.fresh = true → s.fresh = true
  unrecognized : s.unrecognized = true → r.unrecognized = true

theorem CommandReading.Mutes.take_output (h : r.Mutes s) (value : Text) :
    (r.take (.output value)).Mutes s where
  options := h.options
  fresh := nofun
  unrecognized := h.unrecognized

theorem CommandReading.Mutes.take (h : r.Mutes s) {a : Argument} (ha : a.isOutput = false) :
    (r.take a).Mutes (s.take a) := by
  have hinput : s.options.input = r.options.input := by rw [h.options]
  cases a with
  | switch switch on =>
    refine ⟨?_, Bool.noConfusion, h.unrecognized⟩
    rw [CommandReading.take, CommandReading.take, h.options]
    cases switch <;> rfl
  | output value => cases ha
  | operand t =>
    rw [CommandReading.take, CommandReading.take, hinput]
    split_ifs
    · exact ⟨h.options, h.fresh, fun _ => rfl⟩
    · refine ⟨?_, fun _ => rfl, h.unrecognized⟩
      rw [h.options]
  | separator =>
    refine ⟨h.options, h.fresh, ?_⟩
    rw [CommandReading.take, CommandReading.take, hinput]
    have hfresh := h.fresh
    have hunrecognized := h.unrecognized
    simp only [Bool.or_eq_true, Bool.and_eq_true, Bool.not_eq_true']
    rintro (hs | ⟨hgiven, hstale⟩)
    · exact .inl (hunrecognized hs)
    · refine .inr ⟨hgiven, ?_⟩
      cases hr : r.fresh with
      | false => rfl
      | true => exact Bool.noConfusion ((hfresh hr).symm.trans hstale)

theorem CommandReading.Mutes.foldl (h : r.Mutes s) (arguments : List Argument) :
    (arguments.foldl CommandReading.take r).Mutes
      ((arguments.filter (!·.isOutput)).foldl CommandReading.take s) := by
  induction arguments generalizing r s with
  | nil => exact h
  | cons a arguments ih =>
    cases ha : a.isOutput with
    | false =>
      rw [List.filter_cons_of_pos (by rw [ha]; rfl)]
      exact ih (h.take ha)
    | true =>
      rw [List.filter_cons_of_neg (by rw [ha]; exact nofun)]
      cases a with
      | output value => exact ih (h.take_output value)
      | _ => exact absurd ha nofun

/-- A command line that parses says the same without its output, but for that. -/
theorem readInvocation_withoutOutput {words : List Text} {invocation : Invocation}
    (h : readInvocation words = .ok invocation) (hparse : invocation.command = .parse) :
    ∃ front, words = front ++ Command.parse.name :: behindCommand words ∧
      readInvocation (front ++ Command.parse.name :: withoutOutput (behindCommand words)) =
        .ok { invocation with options := { invocation.options with output := none } } := by
  obtain ⟨front, hwords, hclassified, ⟨r, hr, hknown, hoptions⟩, hfront⟩ := exists_front h
  rw [hparse] at hwords hr hfront
  refine ⟨front, hwords, ?_⟩
  obtain ⟨arguments, hsays, hread⟩ := (readCommand_eq_ok_iff hknown).mp hr
  have hmutes := CommandReading.Mutes.foldl (r := {}) (s := {}) ⟨rfl, id, id⟩ arguments
  rw [hread] at hmutes
  have hknown' : ((arguments.filter (!·.isOutput)).foldl CommandReading.take {}).unrecognized =
      false := by
    rw [← Bool.not_eq_true]
    exact fun heq => absurd (hknown.symm.trans (hmutes.unrecognized heq)) nofun
  have hr' := (readCommand_eq_ok_iff hknown').mpr ⟨_, hsays.withoutOutput, rfl⟩
  have hunderstands := hsays.understands_withoutOutput hclassified
  rw [hfront _ _ hunderstands hr' hknown', hmutes.options, hoptions, hparse]

end Output

end Thesaurus.CommandLine
