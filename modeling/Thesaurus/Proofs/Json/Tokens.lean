import Mathlib.Data.List.Basic
import Thesaurus.Json.Reader
import Thesaurus.Json.Writer

/-!
# Tokens of a written value

What the writer writes is cut into the tokens of the value again: no string ends early, no word runs
into what follows, and layout is lost. Main facts: `tokensFrom_writeString` for a string and
`tokens_write_append` for a value, with or without blank space behind it.
-/

set_option autoImplicit false

namespace Thesaurus.Json

open Text

def isWordChar (c : Char) : Bool := !isSpace c && c != '"' && (mark? c).isNone

theorem isWordChar_iff {c : Char} :
    isWordChar c = true ↔ isSpace c = false ∧ c ≠ '"' ∧ mark? c = none := by
  simp [isWordChar, and_assoc]

/-- What is read back as one word and stands for itself as a number. -/
structure IsNumeral (limit : Nat) (literal : Text) : Prop where
  ne_nil : literal ≠ []
  inWord : ∀ c ∈ literal, isWordChar c = true
  value : ofWord? limit literal = some (.number literal)

/-- The value can be read: its numbers are numerals of at most `limit` digits, and there is room for
its containers inside one another. -/
inductive Fits (limit : Nat) : Nat → Json → Prop
  | null {room : Nat} : Fits limit room .null
  | bool {room : Nat} (b : Bool) : Fits limit room (.bool b)
  | number {room : Nat} {literal : Text} (h : IsNumeral limit literal) :
      Fits limit room (.number literal)
  | string {room : Nat} (t : Text) : Fits limit room (.string t)
  | array {room : Nat} {items : List Json} (h : ∀ item ∈ items, Fits limit room item) :
      Fits limit (room + 1) (.array items)
  | object {room : Nat} {members : List (Text × Json)}
      (h : ∀ member ∈ members, Fits limit room member.2) : Fits limit (room + 1) (.object members)

mutual

def tokenList : Json → List Token
  | .null => [.word "null"]
  | .bool b => [.word (if b then "true" else "false")]
  | .number literal => [.word literal]
  | .string t => [.string t]
  | .array [] => [.openArray, .closeArray]
  | .array (item :: items) => .openArray :: (tokenList item ++ itemTokens items ++ [.closeArray])
  | .object [] => [.openObject, .closeObject]
  | .object ((name, value) :: members) =>
    .openObject :: .string name :: .colon ::
      (tokenList value ++ memberTokens members ++ [.closeObject])

def itemTokens : List Json → List Token
  | [] => []
  | item :: items => .comma :: (tokenList item ++ itemTokens items)

def memberTokens : List (Text × Json) → List Token
  | [] => []
  | (name, value) :: members =>
    .comma :: .string name :: .colon :: (tokenList value ++ memberTokens members)

end

section Words

/-- Nothing of a word that stands before the text can go on in it. -/
def EndsWord (t : Text) : Prop := ∀ c ∈ t.head?, isWordChar c = false

theorem tokensFrom_word_of_end {t : Text} (h : EndsWord t) (read : Text) :
    tokensFrom (.word read) t = .word read.reverse :: tokensFrom .between t := by
  cases t with
  | nil => rfl
  | cons c t =>
    have hc : isWordChar c = false := h c rfl
    rw [tokensFrom, tokensFrom]
    split_ifs with hspace hquote
    · rfl
    · rfl
    · cases hmark : mark? c with
      | some token => rfl
      | none => simp [isWordChar, hspace, hquote, hmark] at hc

theorem tokensFrom_word_append {w : Text} (hw : ∀ c ∈ w, isWordChar c = true) {t : Text}
    (h : EndsWord t) (read : Text) :
    tokensFrom (.word read) (w ++ t) = .word (read.reverse ++ w) :: tokensFrom .between t := by
  induction w generalizing read with
  | nil => simpa using tokensFrom_word_of_end h read
  | cons c w ih =>
    obtain ⟨hc, hw⟩ := List.forall_mem_cons.mp hw
    obtain ⟨hspace, hquote, hmark⟩ := isWordChar_iff.mp hc
    rw [List.cons_append, tokensFrom, if_neg (by simp [hspace]), if_neg hquote, hmark]
    dsimp only
    rw [ih hw]
    simp

theorem tokensFrom_between_word {w : Text} (hne : w ≠ []) (hw : ∀ c ∈ w, isWordChar c = true)
    {t : Text} (h : EndsWord t) :
    tokensFrom .between (w ++ t) = .word w :: tokensFrom .between t := by
  obtain ⟨c, w, rfl⟩ := List.exists_cons_of_ne_nil hne
  obtain ⟨hc, hw⟩ := List.forall_mem_cons.mp hw
  obtain ⟨hspace, hquote, hmark⟩ := isWordChar_iff.mp hc
  rw [List.cons_append, tokensFrom, if_neg (by simp [hspace]), if_neg hquote, hmark]
  exact tokensFrom_word_append hw h [c]

end Words

section Strings

theorem hexDigit?_digitChar : ∀ d < 16, hexDigit? (Nat.digitChar d) = some d := by decide

theorem tokensFrom_unit_succ {d : Nat} (hd : d < 16) (read : List Nat) (missing value : Nat)
    (t : Text) : tokensFrom (.unit read (missing + 1) value) (Nat.digitChar d :: t) =
      tokensFrom (.unit read missing (value * 16 + d)) t := by
  rw [tokensFrom, hexDigit?_digitChar d hd]

theorem tokensFrom_unit_zero {d : Nat} (hd : d < 16) (read : List Nat) (value : Nat) (t : Text) :
    tokensFrom (.unit read 0 value) (Nat.digitChar d :: t) =
      tokensFrom (.string ((value * 16 + d) :: read)) t := by
  rw [tokensFrom, hexDigit?_digitChar d hd]

theorem tokensFrom_hexadecimal {n : Nat} (hn : n < 0x10000) (read : List Nat) (t : Text) :
    tokensFrom (.unit read 3 0) (hexadecimal 4 n ++ t) = tokensFrom (.string (n :: read)) t := by
  have hdigits : hexadecimal 4 n ++ t = Nat.digitChar (n / 4096 % 16) ::
      Nat.digitChar (n / 256 % 16) :: Nat.digitChar (n / 16 % 16) :: Nat.digitChar (n % 16) :: t := by
    simp [hexadecimal, Nat.div_div_eq_div_mul]
  have hvalue : ((n / 4096 % 16 * 16 + n / 256 % 16) * 16 + n / 16 % 16) * 16 + n % 16 = n := by
    omega
  rw [hdigits, tokensFrom_unit_succ (Nat.mod_lt _ (by decide)),
    tokensFrom_unit_succ (Nat.mod_lt _ (by decide)), tokensFrom_unit_succ (Nat.mod_lt _ (by decide)),
    tokensFrom_unit_zero (Nat.mod_lt _ (by decide)), Nat.zero_mul, Nat.zero_add, hvalue]

/-- A character of a string is read back as its code point, however it is escaped. -/
theorem tokensFrom_escapeChar (c : Char) (read : List Nat) (t : Text) :
    tokensFrom (.string read) (escapeChar c ++ t) = tokensFrom (.string (c.toNat :: read)) t := by
  rw [escapeChar]
  split_ifs with hquote hbackslash hnewline hreturn htab hbackspace hfeed hcontrol
  · rw [hquote]
    rfl
  · rw [hbackslash]
    rfl
  · rw [hnewline]
    rfl
  · rw [hreturn]
    rfl
  · rw [htab]
    rfl
  · rw [hbackspace]
    rfl
  · rw [hfeed]
    rfl
  · rw [List.append_assoc]
    exact tokensFrom_hexadecimal (by omega) read t
  · rw [List.singleton_append, tokensFrom, if_neg hquote, if_neg hbackslash, if_neg hcontrol]

theorem tokensFrom_flatMap_escapeChar (s : Text) (read : List Nat) (t : Text) :
    tokensFrom (.string read) (s.flatMap escapeChar ++ '"' :: t) =
      .string (joinUnits (read.reverse ++ s.map Char.toNat)) :: tokensFrom .between t := by
  induction s generalizing read with
  | nil =>
    rw [List.flatMap_nil, List.nil_append, tokensFrom, if_pos rfl, List.map_nil, List.append_nil]
  | cons c s ih =>
    rw [List.flatMap_cons, List.append_assoc, tokensFrom_escapeChar, ih]
    simp

theorem not_surrogate (c : Char) : ¬ (0xD800 ≤ c.toNat ∧ c.toNat < 0xE000) := by
  have hvalid : c.toNat < 0xD800 ∨ 0xDFFF < c.toNat ∧ c.toNat < 0x110000 := c.valid
  omega

theorem joinUnits_map_toNat (s : Text) : joinUnits (s.map Char.toNat) = s := by
  induction s with
  | nil => rfl
  | cons c s ih =>
    have hc := not_surrogate c
    cases s with
    | nil => simp [joinUnits, hc, Char.ofNat_toNat]
    | cons d s =>
      have hhigh : ¬ (((0xD800 ≤ c.toNat ∧ c.toNat < 0xDC00) ∧ 0xDC00 ≤ d.toNat) ∧
          d.toNat < 0xE000) := by
        omega
      rw [List.map_cons] at ih
      rw [List.map_cons, List.map_cons, joinUnits, ih]
      simp [hc, hhigh, Char.ofNat_toNat]

theorem tokensFrom_writeString (s t : Text) :
    tokensFrom .between (writeString s ++ t) = .string s :: tokensFrom .between t := by
  have hread := tokensFrom_flatMap_escapeChar s [] t
  rw [List.reverse_nil, List.nil_append, joinUnits_map_toNat] at hread
  rw [← List.singleton_append, ← List.append_assoc] at hread
  exact hread

end Strings

section Layouts

/-- The colon of a layout is read as one, whatever stands behind it. -/
def Layout.Proper (l : Layout) : Prop :=
  ∀ t, tokensFrom .between (l.colon ++ t) = .colon :: tokensFrom .between t

theorem proper_indented : Layout.indented.Proper := fun _ => rfl

theorem proper_compact : Layout.compact.Proper := fun _ => rfl

theorem tokensFrom_replicate (n : Nat) (t : Text) :
    tokensFrom .between (List.replicate n ' ' ++ t) = tokensFrom .between t := by
  induction n with
  | zero => rfl
  | succ n ih => exact ih

theorem tokensFrom_lineBreak (l : Layout) (depth : Nat) (t : Text) :
    tokensFrom .between (l.lineBreak depth ++ t) = tokensFrom .between t := by
  rw [Layout.lineBreak]
  cases l.indent with
  | none => rfl
  | some width => exact tokensFrom_replicate (width * depth) t

theorem endsWord_lineBreak (l : Layout) (depth : Nat) {t : Text} (h : EndsWord t) :
    EndsWord (l.lineBreak depth ++ t) := by
  rw [Layout.lineBreak]
  cases l.indent with
  | none => exact h
  | some width =>
    intro c hc
    obtain rfl : '\n' = c := Option.some.inj hc
    rfl

end Layouts

/-- Written at any depth, and before anything that no word can go on in, the value is cut into its
tokens. -/
def Cuts (l : Layout) (j : Json) : Prop :=
  ∀ depth t, EndsWord t →
    tokensFrom .between (j.write l depth ++ t) = tokenList j ++ tokensFrom .between t

section Write

variable {l : Layout}

theorem endsWord_mark {c : Char} (hc : isWordChar c = false) (t : Text) : EndsWord (c :: t) := by
  intro d hd
  obtain rfl : c = d := Option.some.inj hd
  exact hc

theorem endsWord_writeItems (depth : Nat) (items : List Json) {t : Text} (h : EndsWord t) :
    EndsWord (writeItems l depth items ++ t) := by
  cases items with
  | nil => exact h
  | cons item items =>
    rw [writeItems]
    exact endsWord_mark (c := ',') rfl _

theorem endsWord_writeMembers (depth : Nat) (members : List (Text × Json)) {t : Text}
    (h : EndsWord t) : EndsWord (writeMembers l depth members ++ t) := by
  cases members with
  | nil => exact h
  | cons member members => exact endsWord_mark (c := ',') rfl _

theorem tokensFrom_writeItems {items : List Json} (h : ∀ item ∈ items, Cuts l item) (depth : Nat)
    {t : Text} (ht : EndsWord t) :
    tokensFrom .between (writeItems l depth items ++ t) =
      itemTokens items ++ tokensFrom .between t := by
  induction items with
  | nil => rfl
  | cons item items ih =>
    obtain ⟨hitem, hitems⟩ := List.forall_mem_cons.mp h
    have hrest := endsWord_writeItems (l := l) depth items ht
    rw [writeItems, itemTokens, List.append_assoc, List.append_assoc, List.append_assoc]
    change Token.comma :: tokensFrom .between (l.lineBreak depth ++ _) = _
    rw [tokensFrom_lineBreak, hitem depth _ hrest, ih hitems, List.cons_append, List.append_assoc]

theorem tokensFrom_writeMembers (hl : l.Proper) {members : List (Text × Json)}
    (h : ∀ member ∈ members, Cuts l member.2) (depth : Nat) {t : Text} (ht : EndsWord t) :
    tokensFrom .between (writeMembers l depth members ++ t) =
      memberTokens members ++ tokensFrom .between t := by
  induction members with
  | nil => rfl
  | cons member members ih =>
    obtain ⟨name, value⟩ := member
    obtain ⟨hvalue, hmembers⟩ := List.forall_mem_cons.mp h
    have hrest := endsWord_writeMembers (l := l) depth members ht
    rw [writeMembers, memberTokens]
    simp only [List.append_assoc]
    change Token.comma :: tokensFrom .between (l.lineBreak depth ++ _) = _
    rw [tokensFrom_lineBreak, tokensFrom_writeString, hl, hvalue depth _ hrest, ih hmembers]
    simp only [List.cons_append, List.append_assoc]

theorem cuts_array {items : List Json} (h : ∀ item ∈ items, Cuts l item) : Cuts l (.array items) := by
  intro depth t ht
  cases items with
  | nil => rfl
  | cons item items =>
    obtain ⟨hitem, hitems⟩ := List.forall_mem_cons.mp h
    have hend : EndsWord (l.lineBreak depth ++ ']' :: t) :=
      endsWord_lineBreak l depth (endsWord_mark rfl t)
    have hrest := endsWord_writeItems (l := l) (depth + 1) items hend
    rw [write, tokenList]
    simp only [List.append_assoc]
    change Token.openArray :: tokensFrom .between (l.lineBreak (depth + 1) ++
      (item.write l (depth + 1) ++ (writeItems l (depth + 1) items ++
        (l.lineBreak depth ++ ']' :: t)))) = _
    rw [tokensFrom_lineBreak, hitem _ _ hrest, tokensFrom_writeItems hitems _ hend,
      tokensFrom_lineBreak]
    simp only [List.cons_append, List.append_assoc]
    rfl

theorem cuts_object (hl : l.Proper) {members : List (Text × Json)}
    (h : ∀ member ∈ members, Cuts l member.2) : Cuts l (.object members) := by
  intro depth t ht
  cases members with
  | nil => rfl
  | cons member members =>
    obtain ⟨name, value⟩ := member
    obtain ⟨hvalue, hmembers⟩ := List.forall_mem_cons.mp h
    have hend : EndsWord (l.lineBreak depth ++ '\x7d' :: t) :=
      endsWord_lineBreak l depth (endsWord_mark rfl t)
    have hrest := endsWord_writeMembers (l := l) (depth + 1) members hend
    rw [write, tokenList]
    simp only [List.append_assoc]
    change Token.openObject :: tokensFrom .between (l.lineBreak (depth + 1) ++
      (writeString name ++ (l.colon ++ (value.write l (depth + 1) ++
        (writeMembers l (depth + 1) members ++ (l.lineBreak depth ++ '\x7d' :: t)))))) = _
    rw [tokensFrom_lineBreak, tokensFrom_writeString, hl, hvalue _ _ hrest,
      tokensFrom_writeMembers hl hmembers _ hend, tokensFrom_lineBreak]
    simp only [List.cons_append, List.append_assoc]
    rfl

theorem cuts_write (hl : l.Proper) {limit room : Nat} {j : Json} (h : Fits limit room j) :
    Cuts l j := by
  have hnull : "null".toList.all isWordChar = true := by decide
  have htrue : "true".toList.all isWordChar = true := by decide
  have hfalse : "false".toList.all isWordChar = true := by decide
  rw [List.all_eq_true] at hnull htrue hfalse
  induction h with
  | null => exact fun _ t ht => tokensFrom_between_word (w := "null") nofun hnull ht
  | bool b =>
    intro _ t ht
    cases b with
    | true => exact tokensFrom_between_word (w := "true") nofun htrue ht
    | false => exact tokensFrom_between_word (w := "false") nofun hfalse ht
  | number h => exact fun _ t ht => tokensFrom_between_word h.ne_nil h.inWord ht
  | string s => exact fun _ t _ => tokensFrom_writeString s t
  | array _ ih => exact cuts_array ih
  | object _ ih => exact cuts_object hl ih

theorem tokensFrom_spaces {t : Text} (h : ∀ c ∈ t, isSpace c = true) : tokensFrom .between t = [] := by
  induction t with
  | nil => rfl
  | cons c t ih =>
    obtain ⟨hc, ht⟩ := List.forall_mem_cons.mp h
    rw [tokensFrom, if_pos hc, ih ht]

theorem endsWord_of_spaces {t : Text} (h : ∀ c ∈ t, isSpace c = true) : EndsWord t := by
  intro c hc
  simp [isWordChar, h c (List.mem_of_mem_head? hc)]

theorem tokens_write_append (hl : l.Proper) {limit room : Nat} {j : Json} (h : Fits limit room j)
    (depth : Nat) {t : Text} (ht : ∀ c ∈ t, isSpace c = true) :
    tokens (j.write l depth ++ t) = tokenList j := by
  rw [tokens, cuts_write hl h depth t (endsWord_of_spaces ht), tokensFrom_spaces ht,
    List.append_nil]

end Write

end Thesaurus.Json
