import Mathlib.Data.List.Infix
import Thesaurus.CommandLine.Invocation
import Thesaurus.Proofs.CommandLine.Words

/-!
# Invocations of several commands

Every command knows the same options, and one of them an option more, for its output. Words that
give no output are read by all of them alike. Main facts: `readCommand_of_parse` for the words
behind a command, `readFrom_command_eq_ok_iff` and `readInvocation_of_parse` for command lines.
-/

set_option autoImplicit false

namespace Thesaurus.CommandLine

section Commands

/-- The options of each command are among those of the one with an output. -/
theorem extends_commandOptions (command : Command) :
    (commandOptions .parse).Extends (commandOptions command) where
  letters := rfl
  names := by
    cases command with
    | parse => exact ⟨[], (List.append_nil _).symm, nofun⟩
    | _ =>
      refine ⟨[{ name := "output", action := .output, takesValue := true }], ?_, by simp⟩
      simp [commandOptions]

theorem action_eq_output_iff {option : Named CommandAction}
    (h : option ∈ (commandOptions .parse).names) :
    option.action = .output ↔ option.takesValue = true := by
  simp only [commandOptions, switchNames, List.mem_append, List.mem_cons] at h
  aesop

theorem output_of_step {r r' : CommandReading} {item : Item CommandAction}
    (h : r.step item = .ok r') (hitem : ∀ value, item ≠ .action .output value) :
    r'.options.output = r.options.output := by
  match item with
  | .fault _ | .action .help _ => exact absurd h nofun
  | .unknown | .separator =>
    rw [← Except.ok.inj h]
  | .operand _ _ =>
    rw [CommandReading.step] at h
    split_ifs at h <;> rw [← Except.ok.inj h]
  | .action (.switch s on) _ =>
    rw [← Except.ok.inj h]
    cases s <;> rfl
  | .action .output value => exact absurd rfl (hitem value)

section Reading

variable {first last : CommandReading} {rest : List (Item CommandAction)}

theorem exists_foldlM_of_cons {item : Item CommandAction}
    (h : (item :: rest).foldlM CommandReading.step first = .ok last)
    (hitem : ∀ value, item ≠ .action .output value) :
    ∃ middle, middle.options.output = first.options.output ∧
      rest.foldlM CommandReading.step middle = .ok last := by
  rw [List.foldlM_cons] at h
  obtain ⟨middle, hstep, hrest⟩ := exists_ok_of_bind h
  exact ⟨middle, output_of_step hstep hitem, hrest⟩

theorem ne_output_of_mem_letterItems {t : Text} {item : Item CommandAction}
    (h : item ∈ letterItems (commandOptions .parse) t) (value : Option Text) :
    item ≠ .action .output value := by
  rintro rfl
  obtain ⟨e, hitems⟩ | ⟨actions, behind, hitems, hknown, hbehind⟩ :=
    letterItems_cases (commandOptions .parse) t
  · simp [hitems] at h
  · obtain hmem | hmem := List.mem_append.mp (hitems ▸ h)
    · obtain ⟨a, ha, heq⟩ := List.mem_map.mp hmem
      obtain ⟨rfl, -⟩ := Item.action.inj heq
      obtain ⟨c, hc⟩ := hknown _ ha
      simp only [commandOptions, List.lookup_cons, List.lookup_nil] at hc
      split at hc <;> cases hc
    · obtain rfl | rfl := hbehind <;> simp at hmem

theorem exists_foldlM_of_letterItems {t : Text}
    (h : (letterItems (commandOptions .parse) t ++ rest).foldlM CommandReading.step first =
      .ok last) :
    ∃ middle, middle.options.output = first.options.output ∧
      rest.foldlM CommandReading.step middle = .ok last := by
  have hletters : ∀ item ∈ letterItems (commandOptions .parse) t, ∀ value,
      item ≠ .action .output value := fun item hitem => ne_output_of_mem_letterItems hitem
  generalize letterItems (commandOptions .parse) t = letters at h hletters
  induction letters generalizing first with
  | nil => exact ⟨first, rfl, h⟩
  | cons item letters ih =>
    obtain ⟨hitem, hletters⟩ := List.forall_mem_cons.mp hletters
    obtain ⟨next, hnext, h⟩ := exists_foldlM_of_cons h hitem
    obtain ⟨middle, hmiddle, hrest⟩ := ih h hletters
    exact ⟨middle, hmiddle.trans hnext, hrest⟩

/-- Where no output was given in the end, none was given before, and no word took a value. -/
theorem takesNoValue_of_foldlM {words : List (Text × Word CommandAction)}
    (hnames : ∀ entry ∈ words, ∀ option value, entry.2 = .named option value →
      option ∈ (commandOptions .parse).names)
    (h : (items (commandOptions .parse) words).foldlM CommandReading.step first = .ok last)
    (hout : last.options.output = none) :
    first.options.output = none ∧ ∀ entry ∈ words, entry.2.TakesNoValue := by
  fun_induction items (commandOptions .parse) words generalizing first with
  | case1 =>
    rw [Except.ok.inj h]
    exact ⟨hout, by simp⟩
  | case2 t words ih | case3 t words ih | case4 t words ih =>
    obtain ⟨middle, hmiddle, h⟩ := exists_foldlM_of_cons h (by simp)
    obtain ⟨hnone, hflags⟩ := ih (List.forall_mem_cons.mp hnames).2 h
    exact ⟨hmiddle ▸ hnone, List.forall_mem_cons.mpr ⟨trivial, hflags⟩⟩
  | case5 w t words ih =>
    obtain ⟨middle, hmiddle, h⟩ := exists_foldlM_of_letterItems h
    obtain ⟨hnone, hflags⟩ := ih (List.forall_mem_cons.mp hnames).2 h
    exact ⟨hmiddle ▸ hnone, List.forall_mem_cons.mpr ⟨trivial, hflags⟩⟩
  | case6 w option value words htakes ih =>
    -- An output that is read stays, so this one would still be there in the end.
    obtain ⟨hoption, hwords⟩ := List.forall_mem_cons.mp hnames
    rw [(action_eq_output_iff (hoption option _ rfl)).mpr htakes] at h
    exact absurd (ih hwords h).1 (Option.some_ne_none _)
  | case8 w option htakes value words ih =>
    obtain ⟨hoption, hwords⟩ := List.forall_mem_cons.mp hnames
    rw [(action_eq_output_iff (hoption option _ rfl)).mpr htakes] at h
    exact absurd (ih (List.forall_mem_cons.mp hwords).2 h).1 (Option.some_ne_none _)
  | case7 | case9 => cases h
  | case10 w option words hflag ih =>
    obtain ⟨hoption, hwords⟩ := List.forall_mem_cons.mp hnames
    have hother : option.action ≠ .output :=
      mt (action_eq_output_iff (hoption option _ rfl)).mp hflag
    obtain ⟨middle, hmiddle, h⟩ := exists_foldlM_of_cons h (by simp [hother])
    obtain ⟨hnone, hflags⟩ := ih hwords h
    exact ⟨hmiddle ▸ hnone, List.forall_mem_cons.mpr ⟨eq_false_of_ne_true hflag, hflags⟩⟩

end Reading

theorem readCommand_of_parse {args : List Text} {r : CommandReading}
    (h : readCommand .parse args = .ok r) (hout : r.options.output = none) (command : Command) :
    readCommand command args = .ok r := by
  obtain ⟨words, hwords, hread⟩ := exists_ok_of_bind h
  have hclassified := eq_ok_of_mapError hwords
  obtain ⟨-, hflags⟩ := takesNoValue_of_foldlM (mem_names_of_classifyAll hclassified) hread hout
  have hextends := extends_commandOptions command
  rw [readCommand, classifyAll_of_extends hextends hclassified hflags]
  rw [items_congr hextends.letters] at hread
  exact hread

end Commands

section Invocations

def Command.name : Command → Text
  | .parse => "parse"
  | .validate => "validate"
  | .stats => "stats"

theorem ofName?_name (command : Command) : Command.ofName? command.name = some command := by
  cases command <;> rfl

theorem eq_name_of_ofName? {name : Text} {command : Command}
    (h : Command.ofName? name = some command) : name = command.name := by
  rw [Command.ofName?] at h
  split_ifs at h with hparse hvalidate hstats
  · rwa [← Option.some.inj h]
  · rwa [← Option.some.inj h]
  · rwa [← Option.some.inj h]

/-- The words in front of a command that ask for more to be logged. -/
inductive AsksToLog : Text → Prop
  | letters (n : Nat) : AsksToLog ('-' :: List.replicate (n + 1) 'v')
  | name {t : Text} (hne : t ≠ []) (h : t <+: "verbose".toList) : AsksToLog ('-' :: '-' :: t)

/-- Reads a command line on top of how much is to be logged already. -/
def readFrom (verbosity : Nat) (words : List Text) : Except Refusal Invocation := do
  let classified ← (classifyAll globalOptions words).mapError .usage
  readGlobal verbosity none false (items globalOptions classified)

theorem readFrom_cons {w : Text} {word : Word GlobalAction} {verbosity more : Nat}
    (hword : classify globalOptions w = .ok word) (hne : word ≠ .separator)
    (hitems : ∀ rest, readGlobal verbosity none false (items globalOptions ((w, word) :: rest)) =
      readGlobal more none false (items globalOptions rest)) (words : List Text) :
    readFrom verbosity (w :: words) = readFrom more words := by
  rw [readFrom, readFrom, classifyAll_cons hword hne]
  cases classifyAll globalOptions words with
  | error cause => rfl
  | ok rest => exact hitems rest

theorem readLetters_verbose (n : Nat) : readLetters globalOptions (List.replicate n 'v') =
    .ok (List.replicate n (.action .verbose none)) := by
  induction n with
  | zero => rfl
  | succ n ih =>
    change (readLetters globalOptions (List.replicate n 'v')).map (.action .verbose none :: ·) = _
    rw [ih]
    rfl

theorem readGlobal_letters (n verbosity : Nat) (rest : List (Item GlobalAction)) :
    readGlobal verbosity none false (letterItems globalOptions (List.replicate n 'v') ++ rest) =
      readGlobal (verbosity + n) none false rest := by
  rw [letterItems, readLetters_verbose]
  induction n generalizing verbosity with
  | zero => rfl
  | succ n ih =>
    have hmore : verbosity + (n + 1) = verbosity + 1 + n := by omega
    rw [hmore, ← ih]
    rfl

theorem classify_verbose {t : Text} (hne : t ≠ []) (h : t <+: "verbose".toList) :
    classify globalOptions ('-' :: '-' :: t) =
      .ok (.named { name := "verbose", action := .verbose } none) := by
  have hlength : t.length < 8 := Nat.lt_succ_of_le h.length_le
  have ht := List.prefix_iff_eq_take.mp h
  generalize t.length = n at hlength ht
  subst ht
  match n, hlength with
  | 0, _ => exact absurd rfl hne
  | 1, _ | 2, _ | 3, _ | 4, _ | 5, _ | 6, _ | 7, _ => rfl

theorem exists_readFrom_cons {w : Text} (h : AsksToLog w) (verbosity : Nat) :
    ∃ more, ∀ words, readFrom verbosity (w :: words) = readFrom more words := by
  cases h with
  | letters n =>
    have hword : classify globalOptions ('-' :: List.replicate (n + 1) 'v') =
        .ok (.letters (List.replicate (n + 1) 'v')) := rfl
    refine ⟨verbosity + (n + 1), readFrom_cons hword nofun fun rest => ?_⟩
    exact readGlobal_letters (n + 1) verbosity _
  | name hne h =>
    refine ⟨verbosity + 1, readFrom_cons (classify_verbose hne h) nofun fun rest => ?_⟩
    rw [items_flag rfl]
    rfl

theorem exists_readFrom_append {front : List Text} (h : ∀ w ∈ front, AsksToLog w)
    (verbosity : Nat) :
    ∃ more, ∀ words, readFrom verbosity (front ++ words) = readFrom more words := by
  induction front generalizing verbosity with
  | nil => exact ⟨verbosity, fun _ => rfl⟩
  | cons w front ih =>
    obtain ⟨hw, hfront⟩ := List.forall_mem_cons.mp h
    obtain ⟨next, hnext⟩ := exists_readFrom_cons hw verbosity
    obtain ⟨more, hmore⟩ := ih hfront next
    exact ⟨more, fun words => (hnext _).trans (hmore words)⟩

theorem readFrom_command_eq_ok_iff {verbosity : Nat} {command : Command} {args : List Text}
    {invocation : Invocation} : readFrom verbosity (command.name :: args) = .ok invocation ↔
      (∃ words, classifyAll globalOptions args = .ok words) ∧
        ∃ r, readCommand command args = .ok r ∧ r.unrecognized = false ∧
          invocation = { verbosity, logFile := none, command, options := r.options } := by
  have hname : classify globalOptions command.name = .ok .operand := by
    cases command <;> rfl
  rw [readFrom, classifyAll_cons hname nofun]
  cases hwords : classifyAll globalOptions args with
  | error cause => exact iff_of_false nofun fun h => absurd h.1 nofun
  | ok words =>
    change readGlobal verbosity none false
      (.operand command.name (words.map Prod.fst) :: items globalOptions words) = _ ↔ _
    rw [readGlobal, ofName?_name, map_fst_classifyAll hwords]
    dsimp only
    cases readCommand command args with
    | error cause => exact iff_of_false nofun fun ⟨_, _, hr, _⟩ => absurd hr nofun
    | ok r =>
      obtain ⟨options, fresh, unrecognized⟩ := r
      cases unrecognized with
      | true =>
        refine iff_of_false nofun ?_
        rintro ⟨-, r, hr, hknown, -⟩
        rw [← Except.ok.inj hr] at hknown
        exact absurd hknown nofun
      | false =>
        constructor
        · intro h
          exact ⟨⟨words, rfl⟩, _, rfl, rfl, (Except.ok.inj h).symm⟩
        · rintro ⟨-, r, hr, -, rfl⟩
          rw [← Except.ok.inj hr]
          rfl

theorem readInvocation_of_parse {front args : List Text} (hfront : ∀ w ∈ front, AsksToLog w)
    {invocation : Invocation}
    (h : readInvocation (front ++ Command.parse.name :: args) = .ok invocation)
    (hout : invocation.options.output = none) (command : Command) :
    readInvocation (front ++ command.name :: args) = .ok { invocation with command } ∧
      invocation.logFile = none := by
  obtain ⟨verbosity, hread⟩ := exists_readFrom_append hfront 0
  have heq : ∀ words, readInvocation (front ++ words) = readFrom verbosity words := hread
  rw [heq] at h
  obtain ⟨hclassified, r, hr, hknown, rfl⟩ := readFrom_command_eq_ok_iff.mp h
  refine ⟨?_, rfl⟩
  rw [heq]
  exact readFrom_command_eq_ok_iff.mpr
    ⟨hclassified, r, readCommand_of_parse hr hout command, hknown, rfl⟩

theorem readInvocation_operand {name path : Text} {command : Command}
    (hname : Command.ofName? name = some command) (hpath : path.head? ≠ some '-') :
    readInvocation [name, path] =
      .ok { verbosity := 0, logFile := none, command, options := { input := some path } } := by
  have hwords {ω : Type} (options : Options ω) :
      classifyAll options [path] = .ok [(path, .operand)] := by
    rw [classifyAll_cons (classify_operand options hpath) nofun]
    rfl
  have hread : readCommand command [path] =
      .ok { options := { input := some path }, fresh := true } := by
    rw [readCommand, hwords]
    rfl
  rw [eq_name_of_ofName? hname]
  exact readFrom_command_eq_ok_iff.mpr ⟨⟨_, hwords globalOptions⟩, _, hread, rfl, rfl⟩

end Invocations

end Thesaurus.CommandLine
