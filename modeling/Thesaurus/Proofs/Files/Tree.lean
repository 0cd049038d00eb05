import Mathlib.Data.List.Infix
import Thesaurus.Files.Tree
import Thesaurus.Proofs.OrderedMap

/-!
# Writing and reading files

A file that is written is found again under the path it was written to: the way there leads through
directories, and these stay. The other files stay as they are. Main facts: `read_of_write`, and
`sameBut_of_update`.
-/

set_option autoImplicit false

namespace Thesaurus.FileTree

variable {tree after : FileTree} {p : Path} {change : Bytes → Bytes}

theorem update_eq (tree : FileTree) (p : Path) (change : Bytes → Bytes) :
    tree.update p change =
      match tree.locate p with
      | .error cause => .error cause
      | .ok place =>
        if tree.entry place = .directory then .error .isDirectory
        else .ok { tree with
          files := tree.files.alter (fun content => change (content.getD [])) place } := by
  rw [update]
  cases tree.locate p with
  | error cause => rfl
  | ok place =>
    dsimp only [bind, Except.bind]
    cases tree.entry place <;> rfl

theorem update_eq_ok (h : tree.update p change = .ok after) :
    ∃ place, tree.locate p = .ok place ∧ tree.entry place ≠ .directory ∧
      after = { tree with
        files := tree.files.alter (fun content => change (content.getD [])) place } := by
  rw [update_eq] at h
  cases hplace : tree.locate p with
  | error cause =>
    rw [hplace] at h
    exact absurd h nofun
  | ok place =>
    rw [hplace] at h
    dsimp only at h
    split_ifs at h with hentry
    exact ⟨place, rfl, hentry, (Except.ok.inj h).symm⟩

theorem entry_eq_directory_iff {names : List Text} : tree.entry names = .directory ↔
    tree.files.get? names = none ∧ tree.isDirectory names = true := by
  rw [entry]
  cases tree.files.get? names with
  | some content => simp
  | none =>
    dsimp only
    split_ifs with hdirectory <;> simp [hdirectory]

theorem entry_of_update (h : tree.update p change = .ok after) {names : List Text}
    (hnames : tree.entry names = .directory) : after.entry names = .directory := by
  obtain ⟨place, -, hplace, rfl⟩ := update_eq_ok h
  obtain ⟨hfile, hdirectory⟩ := entry_eq_directory_iff.mp hnames
  -- No directory is written to, so the place of the file is another one.
  have hne : names ≠ place := by
    rintro rfl
    exact hplace hnames
  rw [entry_eq_directory_iff, OrderedMap.get?_alter, if_neg hne]
  refine ⟨hfile, ?_⟩
  rw [isDirectory, List.any_eq_true] at hdirectory ⊢
  obtain ⟨known, hknown, hprefix⟩ := hdirectory
  refine ⟨known, ?_, hprefix⟩
  rw [OrderedMap.keys_alter]
  rcases List.mem_append.mp hknown with hknown | hknown
  · exact List.mem_append_left _ hknown
  · apply List.mem_append_right
    split_ifs
    · exact hknown
    · exact List.mem_append_left _ hknown

theorem walk_of_directories (hdirectories : ∀ names, tree.entry names = .directory →
    after.entry names = .directory) {place final : List Text} {names : List Text}
    (h : tree.walk place names = .ok final) : after.walk place names = .ok final := by
  induction names generalizing place with
  | nil => exact h
  | cons name names ih =>
    rw [walk] at h
    cases hentry : tree.entry place with
    | file content =>
      rw [hentry] at h
      exact absurd h nofun
    | nothing =>
      rw [hentry] at h
      exact absurd h nofun
    | directory =>
      rw [hentry] at h
      dsimp only at h
      rw [walk, hdirectories place hentry]
      dsimp only
      split_ifs at h ⊢
      exact ih h

theorem locate_of_update (h : tree.update p change = .ok after) {q : Path} {place : List Text}
    (hplace : tree.locate q = .ok place) : after.locate q = .ok place := by
  have hworking : after.workingDirectory = tree.workingDirectory := by
    obtain ⟨place, -, -, rfl⟩ := update_eq_ok h
    rfl
  rw [locate] at hplace ⊢
  split_ifs at hplace ⊢
  · rw [hworking]
    exact walk_of_directories (fun names => entry_of_update h) hplace
  · exact walk_of_directories (fun names => entry_of_update h) hplace

theorem read_of_write {content : Bytes} (h : tree.write p content = .ok after) :
    after.read p = .ok content := by
  obtain ⟨place, hplace, -, hafter⟩ := update_eq_ok h
  have hentry : after.entry place = .file content := by
    rw [hafter, entry, OrderedMap.get?_alter, if_pos rfl]
  rw [read, locate_of_update h hplace]
  dsimp only [bind, Except.bind]
  rw [hentry]
  rfl

/-- A file that was changed can be changed again, and both changes are one. -/
theorem update_update (h : tree.update p change = .ok after) (change' : Bytes → Bytes) :
    after.update p change' = tree.update p (change' ∘ change) := by
  obtain ⟨place, hplace, hentry, hafter⟩ := update_eq_ok h
  have hfile : after.entry place ≠ .directory := by
    rw [hafter, entry, OrderedMap.get?_alter, if_pos rfl]
    exact nofun
  rw [update_eq, locate_of_update h hplace, update_eq, hplace]
  dsimp only
  rw [if_neg hfile, if_neg hentry, hafter, OrderedMap.alter_alter]
  rfl

/-- Whether a file can be changed does not depend on the change. -/
theorem update_error {cause : FileError} (h : tree.update p change = .error cause)
    (change' : Bytes → Bytes) : tree.update p change' = .error cause := by
  rw [update_eq] at h ⊢
  cases hplace : tree.locate p with
  | error cause' =>
    rw [hplace] at h
    exact h
  | ok place =>
    rw [hplace] at h
    dsimp only at h ⊢
    split_ifs at h ⊢
    exact h

theorem isOk_write (tree : FileTree) (p : Path) (content content' : Bytes) :
    (tree.write p content).isOk = (tree.write p content').isOk := by
  cases h : tree.write p content with
  | error cause => rw [show tree.write p content' = .error cause from update_error h _]
  | ok after =>
    cases h' : tree.write p content' with
    | error cause => exact absurd (h.symm.trans (update_error h' _)) nofun
    | ok after' => rfl

/-- What is appended bit by bit is appended at once; where nothing can be, the tree stays. -/
theorem getD_append_append (tree : FileTree) (p : Path) (front back : Bytes) :
    let first := (tree.append p front).toOption.getD tree
    (first.append p back).toOption.getD first =
      (tree.append p (front ++ back)).toOption.getD tree := by
  intro first
  cases hfront : tree.append p front with
  | error cause =>
    have hfirst : first = tree := congrArg (·.toOption.getD tree) hfront
    have herror (content : Bytes) : tree.append p content = .error cause := update_error hfront _
    rw [hfirst, herror, herror]
  | ok after =>
    have hfirst : first = after := congrArg (·.toOption.getD tree) hfront
    have hback : after.append p back = tree.append p (front ++ back) := by
      rw [append, update_update hfront, append]
      exact congrArg _ (funext fun content => List.append_assoc content front back)
    rw [hfirst, hback]
    cases hboth : tree.append p (front ++ back) with
    | error cause => exact absurd (hfront.symm.trans (update_error hboth _)) nofun
    | ok _ => rfl

/-- The trees have the same files and directories, but for the files at some places. -/
structure SameBut (before after : FileTree) (places : List (List Text)) : Prop where
  workingDirectory : after.workingDirectory = before.workingDirectory
  directories : after.directories = before.directories
  files : ∀ names ∉ places, after.files.get? names = before.files.get? names

theorem SameBut.refl (tree : FileTree) (places : List (List Text)) : tree.SameBut tree places :=
  ⟨rfl, rfl, fun _ _ => rfl⟩

theorem SameBut.trans {first second third : FileTree} {places : List (List Text)}
    (h : first.SameBut second places) (h' : second.SameBut third places) :
    first.SameBut third places where
  workingDirectory := h'.workingDirectory.trans h.workingDirectory
  directories := h'.directories.trans h.directories
  files := fun names hnames => (h'.files names hnames).trans (h.files names hnames)

theorem SameBut.mono {before after : FileTree} {places more : List (List Text)}
    (h : before.SameBut after places) (hmore : places ⊆ more) : before.SameBut after more :=
  ⟨h.workingDirectory, h.directories, fun names hnames => h.files names fun hmem =>
    hnames (hmore hmem)⟩

theorem sameBut_of_update (h : tree.update p change = .ok after) {place : List Text}
    {places : List (List Text)} (hplace : tree.locate p = .ok place) (hmem : place ∈ places) :
    tree.SameBut after places := by
  obtain ⟨written, hwritten, -, rfl⟩ := update_eq_ok h
  obtain rfl := Except.ok.inj (hwritten.symm.trans hplace)
  refine ⟨rfl, rfl, fun names hnames => ?_⟩
  have hne : names ≠ written := fun heq => hnames (heq ▸ hmem)
  rw [OrderedMap.get?_alter, if_neg hne]

theorem get?_of_write {content : Bytes} (h : tree.write p content = .ok after) {place : List Text}
    (hplace : tree.locate p = .ok place) : after.files.get? place = some content := by
  obtain ⟨written, hwritten, -, rfl⟩ := update_eq_ok h
  obtain rfl := Except.ok.inj (hwritten.symm.trans hplace)
  rw [OrderedMap.get?_alter, if_pos rfl]

end Thesaurus.FileTree
