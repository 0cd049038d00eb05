import Thesaurus.Proofs.OrderedMap
import Thesaurus.Settings.Interpolation

/-!
# What an option depends on

The value of an option depends on the options that it mentions, on those that these mention, and so
on. So two documents that differ only in one option give the same values for all others, if none of
them mentions it. Main fact: `DifferOnlyAt.value?_eq`.
-/

set_option autoImplicit false

namespace Thesaurus.Ini

/-- A value refers to an option of its section. -/
def Mentions (value option : Text) : Prop := .reference option ∈ parts value

instance (value option : Text) : Decidable (Mentions value option) :=
  inferInstanceAs (Decidable (_ ∈ _))

theorem mapM_congr {α β ε : Type} {f g : α → Except ε β} {l : List α}
    (h : ∀ a ∈ l, f a = g a) : l.mapM f = l.mapM g := by
  induction l with
  | nil => rfl
  | cons a l ih =>
    obtain ⟨ha, hl⟩ := List.forall_mem_cons.mp h
    rw [List.mapM_cons, List.mapM_cons, ha, ih hl]

/-- What is never mentioned, neither by a value nor by those that it leads to, is never looked up. -/
theorem expand_congr {lookup lookup' : Text → Option Text} {hidden : Text}
    (hsame : ∀ name, name ≠ hidden → lookup name = lookup' name)
    (hfree : ∀ name value, name ≠ hidden → lookup name = some value → ¬ Mentions value hidden)
    (depth : Nat) {value : Text} (hvalue : ¬ Mentions value hidden) :
    expand lookup depth value = expand lookup' depth value := by
  -- Every reference that is followed takes one level of the depth.
  induction depth generalizing value with
  | zero => rfl
  | succ depth ih =>
    rw [expand, expand]
    refine congrArg (· >>= _) (mapM_congr fun part hpart => ?_)
    cases part with
    | character c => rfl
    | malformed => rfl
    | reference name =>
      have hname : name ≠ hidden := fun h => hvalue (h ▸ hpart)
      dsimp only
      rw [← hsame name hname]
      cases hfound : lookup name with
      | none => rfl
      | some found =>
        dsimp only
        rw [ih (hfree name found hname hfound)]

namespace Document

/-- What stands in a section for an option, the defaults not counted. -/
def written? (d : Document) (place option : Text) : Option Text :=
  (d.sections.get? place).bind (·.get? option)

/-- The same document with another value for an option. -/
def withValue (d : Document) (place option value : Text) : Document where
  sections := d.sections.alter (fun options => (options.getD ∅).insert option value) place

/-- The documents have the same sections, and in these the same values but for one option. -/
structure DifferOnlyAt (place option : Text) (d d' : Document) : Prop where
  sections : ∀ name, (d.sections.get? name).isSome = (d'.sections.get? name).isSome
  values : ∀ name key, (name, key) ≠ (place, option) → d.written? name key = d'.written? name key

/-- No other option of the section refers to this one. -/
def Unmentioned (place option : Text) (d : Document) : Prop :=
  ∀ name value, name ≠ option → d.raw? place name = some value → ¬ Mentions value option

variable {d d' : Document} {place option : Text}

theorem raw?_eq (d : Document) (place option : Text) :
    d.raw? place option =
      if (d.sections.get? place).isSome then
        (d.written? place option).or (d.written? defaultsName option)
      else none := by
  rw [raw?, written?, written?]
  cases d.sections.get? place with
  | none => rfl
  | some options =>
    dsimp only [Option.isSome_some, Option.bind_some]
    cases options.get? option <;> rfl

theorem DifferOnlyAt.symm (h : DifferOnlyAt place option d d') : DifferOnlyAt place option d' d where
  sections name := (h.sections name).symm
  values name key hne := (h.values name key hne).symm

theorem DifferOnlyAt.raw?_eq (h : DifferOnlyAt place option d d') {name : Text}
    (hname : name ≠ option) : d.raw? place name = d'.raw? place name := by
  have hne (other : Text) : (other, name) ≠ (place, option) :=
    fun heq => hname (congrArg Prod.snd heq)
  rw [Document.raw?_eq, Document.raw?_eq, h.sections, h.values _ _ (hne _), h.values _ _ (hne _)]

theorem DifferOnlyAt.value?_eq (h : DifferOnlyAt place option d d')
    (hfree : d.Unmentioned place option) {name : Text} (hname : name ≠ option) :
    d.value? place name = d'.value? place name := by
  rw [value?, value?, ← h.raw?_eq hname]
  cases hraw : d.raw? place name with
  | none => rfl
  | some value =>
    have hexpand := expand_congr (fun _ hne => h.raw?_eq hne) hfree depthLimit
      (hfree name value hname hraw)
    exact congrArg (Except.map some) hexpand

section Given

theorem written?_withValue (d : Document) (place option value name key : Text) :
    (d.withValue place option value).written? name key =
      if (name, key) = (place, option) then some value else d.written? name key := by
  rw [written?, withValue, OrderedMap.get?_alter]
  by_cases hname : name = place
  · subst hname
    rw [if_pos rfl, Option.bind_some, OrderedMap.insert, OrderedMap.get?_alter, written?]
    by_cases hkey : key = option
    · rw [if_pos hkey, if_pos (by rw [hkey])]
    · rw [if_neg hkey, if_neg fun h => hkey (congrArg Prod.snd h)]
      cases d.sections.get? name <;> rfl
  · rw [if_neg hname, if_neg fun h => hname (congrArg Prod.fst h), written?]

theorem differOnlyAt_withValue (h : (d.sections.get? place).isSome) (value : Text) :
    DifferOnlyAt place option d (d.withValue place option value) where
  sections name := by
    rw [withValue, OrderedMap.get?_alter]
    split_ifs with hname
    · rw [hname, h, Option.isSome_some]
    · rfl
  values name key hne := by rw [written?_withValue, if_neg hne]

theorem exists_of_raw? {name value : Text} (h : d.raw? place name = some value) :
    ∃ part ∈ d.sections.entries, (name, value) ∈ part.2.entries := by
  have hwritten {other : Text} (hother : d.written? other name = some value) :
      ∃ part ∈ d.sections.entries, (name, value) ∈ part.2.entries := by
    obtain ⟨options, hoptions, hvalue⟩ := Option.bind_eq_some_iff.mp hother
    exact ⟨(other, options), OrderedMap.get?_eq_some_iff.mp hoptions,
      OrderedMap.get?_eq_some_iff.mp hvalue⟩
  rw [raw?_eq] at h
  split_ifs at h
  rcases Option.or_eq_some_iff.mp h with h | ⟨-, h⟩
  · exact hwritten h
  · exact hwritten h

theorem unmentioned_of_forall (h : ∀ part ∈ d.sections.entries, ∀ entry ∈ part.2.entries,
    entry.1 ≠ option → ¬ Mentions entry.2 option) : d.Unmentioned place option := by
  intro name value hname hraw
  obtain ⟨part, hpart, hentry⟩ := exists_of_raw? hraw
  exact h part hpart _ hentry hname

end Given

end Document

end Thesaurus.Ini
