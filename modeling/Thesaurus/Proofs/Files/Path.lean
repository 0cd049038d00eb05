import Mathlib.Data.List.TakeWhile
import Thesaurus.Files.Path
import Thesaurus.Proofs.Text.Runs

/-!
# Paths as they are shown

The text of a path names the same path again (`ofText_text`), so that nothing is lost when a path
is handed on by its text.
-/

set_option autoImplicit false

namespace Thesaurus.Path

open Text

def isSlash (c : Char) : Bool := c == '/'

/-- A path as texts lead to it: its root is at most two slashes, and no name says nothing. -/
structure Plain (p : Path) : Prop where
  root : ∃ n < 3, p.root = List.replicate n '/'
  names : ∀ name ∈ p.names, name ≠ [] ∧ (∀ c ∈ name, isSlash c = false) ∧ name ≠ ['.']

theorem names_ofText (t : Text) : (ofText t).names = (runs isSlash t).filter (· != ['.']) := by
  rw [ofText, runs, List.filter_filter, ← pieces_eq_splitOnP]
  exact List.filter_congr fun name _ => Bool.and_comm _ _

theorem plain_ofText (t : Text) : (ofText t).Plain where
  root := by
    rw [ofText]
    dsimp only
    split
    exacts [⟨0, by omega, rfl⟩, ⟨2, by omega, rfl⟩, ⟨1, by omega, rfl⟩]
  names := by
    intro name hname
    rw [names_ofText] at hname
    obtain ⟨hrun, hdot⟩ := List.mem_filter.mp hname
    obtain ⟨hne, -, hfree⟩ := mem_runs hrun
    exact ⟨hne, hfree, by simpa using hdot⟩

theorem Plain.parent {p : Path} (h : p.Plain) : p.parent.Plain where
  root := h.root
  names := fun name hname => h.names name ((List.dropLast_sublist p.names).subset hname)

theorem Plain.under {directory p : Path} (hdirectory : directory.Plain) (hp : p.Plain) :
    (directory.under p).Plain := by
  rw [Path.under]
  split_ifs
  · refine ⟨hdirectory.root, fun name hname => ?_⟩
    exact (List.mem_append.mp hname).elim (hdirectory.names name) (hp.names name)
  · exact hp

theorem root_ofText {n : Nat} (hn : n < 3) {t : Text} (h : ∀ c ∈ t.head?, isSlash c = false) :
    (ofText (List.replicate n '/' ++ t)).root = List.replicate n '/' := by
  have hnone : t.takeWhile isSlash = [] := by
    cases t with
    | nil => rfl
    | cons c t => exact List.takeWhile_cons_of_neg (by simp [h c rfl])
  have hslashes : ∀ c ∈ List.replicate n '/', isSlash c = true := by
    intro c hc
    rw [List.eq_of_mem_replicate hc]
    rfl
  have htake : (List.replicate n '/' ++ t).takeWhile isSlash = List.replicate n '/' := by
    rw [List.takeWhile_append_of_pos hslashes, hnone, List.append_nil]
  have hlength : ((List.replicate n '/' ++ t).takeWhile (· == '/')).length = n :=
    (congrArg List.length htake).trans List.length_replicate
  rw [ofText]
  dsimp only
  rw [hlength]
  match n, hn with
  | 0, _ => rfl
  | 1, _ => rfl
  | 2, _ => rfl

theorem ofText_text {p : Path} (h : p.Plain) : ofText p.text = p := by
  obtain ⟨root, names⟩ := p
  obtain ⟨⟨n, hn, rfl⟩, hnames⟩ := h
  cases names with
  | nil =>
    match n, hn with
    | 0, _ => rfl
    | 1, _ => rfl
    | 2, _ => rfl
  | cons name rest =>
    obtain ⟨hne, hfree, -⟩ := hnames name List.mem_cons_self
    obtain ⟨c, u, rfl⟩ := List.exists_cons_of_ne_nil hne
    obtain ⟨v, hjoin⟩ : ∃ v, join ['/'] ((c :: u) :: rest) = c :: v := by
      cases rest with
      | nil => exact ⟨u, rfl⟩
      | cons next rest => exact ⟨_, rfl⟩
    have htext : text ⟨List.replicate n '/', (c :: u) :: rest⟩ =
        List.replicate n '/' ++ join ['/'] ((c :: u) :: rest) := by
      rw [text]
      exact if_neg (by simp [hjoin])
    have hruns : runs isSlash (join ['/'] ((c :: u) :: rest)) = (c :: u) :: rest :=
      runs_join rfl fun part hpart => ⟨(hnames part hpart).1, (hnames part hpart).2.1⟩
    have hkept : ((c :: u) :: rest).filter (· != ['.']) = (c :: u) :: rest :=
      List.filter_eq_self.mpr fun part hpart => by simpa using (hnames part hpart).2.2
    have hhead : ∀ d ∈ (join ['/'] ((c :: u) :: rest)).head?, isSlash d = false := by
      simpa [hjoin] using hfree c List.mem_cons_self
    have hroot := root_ofText hn hhead
    have hshown := names_ofText (List.replicate n '/' ++ join ['/'] ((c :: u) :: rest))
    rw [runs_replicate_append rfl, hruns, hkept] at hshown
    rw [htext]
    exact congrArg₂ Path.mk hroot hshown

end Thesaurus.Path
