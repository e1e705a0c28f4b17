import Mathlib.Data.List.Basic
import Adocify.Files.Tree

/-! Trees of files as maps from places to entries. What the operations on a tree do is told by the entry at each
place. A path leads to the same place as long as the directories on it stay. -/

namespace Adocify

theorem Path.isBroken_append (first second : Path) :
    isBroken (first ++ second) = (isBroken first || isBroken second) :=
  List.any_append

namespace FileTree

variable {tree before after : FileTree} {place other : Path} {entry : FileEntry}

theorem lookup_map (change : Path → FileEntry → FileEntry) (entries : List (Path × FileEntry)) (place : Path) :
    (entries.map fun (name, entry) => (name, change name entry)).lookup place =
      (entries.lookup place).map (change place) := by
  induction entries with
  | nil => rfl
  | cons first rest ih =>
    obtain ⟨name, entry⟩ := first
    by_cases here : place = name
    · simp [here]
    · simpa [List.lookup_cons, beq_eq_false_iff_ne.mpr here] using ih

theorem lookup_filter (kept : Path → Bool) (entries : List (Path × FileEntry)) (place : Path) :
    (entries.filter fun (name, _) => kept name).lookup place = if kept place then entries.lookup place else none := by
  induction entries with
  | nil => simp
  | cons first rest ih =>
    obtain ⟨name, entry⟩ := first
    by_cases here : place = name
    · subst here
      cases known : kept place <;> simp [known, ih]
    · have apart : (place == name) = false := beq_eq_false_iff_ne.mpr here
      cases known : kept name <;> simp [known, List.lookup_cons, apart, ih]

/-- Only the root itself has its place. -/
theorem lookup_below (below : place ≠ []) (tree : FileTree) : tree.entry? place = tree.entries.lookup place := by
  rw [ entry?, if_neg (by simpa using below)]

theorem lookup_put (below : place ≠ []) (tree : FileTree) (entry : FileEntry) (other : Path) :
    entry? (tree.put place entry) other = if other = place then some entry else tree.entry? other := by
  by_cases root : other = []
  · subst root
    rw [if_neg (Ne.symm below)]
    rfl
  rw [lookup_below root, lookup_below root, put]
  cases found : tree.entries.lookup place with
  | none =>
    by_cases here : other = place
    · simp [here, List.lookup_append, found]
    · simp [here, List.lookup_append, List.lookup_cons, beq_eq_false_iff_ne.mpr here]
  | some old =>
    have updated := lookup_map (fun name old => if name = place then entry else old) tree.entries other
    by_cases here : other = place
    · simpa [here, found] using updated
    · simpa [here] using updated

theorem lookup_remove (below : place ≠ []) (tree : FileTree) (other : Path) :
    entry? (tree.remove place) other = if other = place then none else tree.entry? other := by
  by_cases root : other = []
  · subst root
    rw [if_neg (Ne.symm below)]
    rfl
  rw [lookup_below root, lookup_below root]
  refine (lookup_filter (fun name => decide (name ≠ place)) tree.entries other).trans ?_
  by_cases here : other = place <;> simp [here]

/-- A place where nothing stands, or a file, is below the root. -/
theorem below_of_ne (other : tree.entry? place ≠ some .directory) : place ≠ [] := by
  rintro rfl
  exact other rfl

theorem resolveFrom_append (tree : FileTree) (place : Path) (first rest : List Text) :
    tree.resolveFrom place (first ++ rest) = (tree.resolveFrom place first).bind (tree.resolveFrom · rest) := by
  induction first generalizing place with
  | nil => rfl
  | cons name others ih =>
    simp only [List.cons_append, resolveFrom]
    rcases tree.entry? place with _ | ⟨_, _⟩ | _
    · rfl
    · rfl
    · simp only
      split
      · rfl
      · split <;> exact ih _

/-- A path that can be given to the operating system at all. -/
structure Sound (path : Path) : Prop where
  whole : path.isBroken = false
  fits : roomOf path ≤ pathLimit

theorem Sound.above {path : Path} {name : Text} (sound : Sound (path ++ [name])) : Sound path := by
  constructor
  · have whole := sound.whole
    rw [Path.isBroken_append, Bool.or_eq_false_iff] at whole
    exact whole.1
  · have fits := sound.fits
    rw [roomOf, List.flatMap_append, List.length_append] at fits
    exact Nat.le_trans (Nat.le_add_right _ _) fits

theorem resolve_ok_iff {path : Path} :
    tree.resolve path = .ok place ↔ Sound path ∧ tree.resolveFrom [] path = .ok place := by
  rw [resolve]
  constructor
  · intro found
    split at found
    · cases found
    next whole =>
      split at found
      · cases found
      next fits => exact ⟨⟨eq_false_of_ne_true whole, Nat.not_lt.mp fits⟩, found⟩
  · rintro ⟨⟨whole, fits⟩, found⟩
    rw [whole, if_neg Bool.false_ne_true, if_neg (Nat.not_lt.mpr fits), found]

/-- A name is looked up in the directory to which the names before it lead. -/
theorem resolve_concat {path : Path} {name : Text} (found : tree.resolve (path ++ [name]) = .ok place) :
    ∃ parent, tree.resolve path = .ok parent ∧ tree.entry? parent = some .directory ∧
      place = if name = "..".toList then parent.dropLast else parent ++ [name] := by
  obtain ⟨sound, found⟩ := resolve_ok_iff.mp found
  rw [resolveFrom_append] at found
  rcases led : tree.resolveFrom [] path with obstacle | parent
  · rw [led] at found
    cases found
  rw [led] at found
  simp only [Except.bind, resolveFrom] at found
  rcases standing : tree.entry? parent with _ | ⟨_, _⟩ | _
  · simp [standing] at found
  · simp [standing] at found
  refine ⟨parent, resolve_ok_iff.mpr ⟨sound.above, led⟩, standing, ?_⟩
  simp only [standing] at found
  split at found
  · cases found
  · by_cases upwards : name = "..".toList
    · rw [if_pos (beq_iff_eq.mpr upwards)] at found
      rw [if_pos upwards]
      exact (Except.ok.inj found).symm
    · rw [if_neg (upwards ∘ beq_iff_eq.mp)] at found
      rw [if_neg upwards]
      exact (Except.ok.inj found).symm

/-- Where there was a directory there is one still. -/
def KeepsDirectories (before after : FileTree) : Prop :=
  ∀ place, before.entry? place = some .directory → after.entry? place = some .directory

theorem KeepsDirectories.refl (tree : FileTree) : tree.KeepsDirectories tree := fun _ => id

theorem KeepsDirectories.trans {first second third : FileTree} (left : first.KeepsDirectories second)
    (right : second.KeepsDirectories third) : first.KeepsDirectories third :=
  fun place standing => right place (left place standing)

theorem KeepsDirectories.resolveFrom (keeps : before.KeepsDirectories after) {names : List Text} {start : Path}
    (found : before.resolveFrom start names = .ok place) : after.resolveFrom start names = .ok place := by
  induction names generalizing start with
  | nil => exact found
  | cons name rest ih =>
    simp only [FileTree.resolveFrom] at found ⊢
    rcases standing : before.entry? start with _ | ⟨_, _⟩ | _
    · simp [standing] at found
    · simp [standing] at found
    · simp only [standing, keeps start standing] at found ⊢
      split at found
      · cases found
      next short =>
        rw [if_neg short]
        split at found
        next upwards => rw [if_pos upwards]; exact ih found
        next inward => rw [if_neg inward]; exact ih found

/-- A path leads to where it led before. -/
theorem KeepsDirectories.resolve (keeps : before.KeepsDirectories after) {path : Path}
    (found : before.resolve path = .ok place) : after.resolve path = .ok place := by
  obtain ⟨sound, found⟩ := resolve_ok_iff.mp found
  exact resolve_ok_iff.mpr ⟨sound, keeps.resolveFrom found⟩

section

variable (noDirectory : tree.entry? place ≠ some .directory) (entry : FileEntry)

include noDirectory

theorem put_here : entry? (tree.put place entry) place = some entry := by
  rw [lookup_put (below_of_ne noDirectory), if_pos rfl]

theorem put_elsewhere {there : Path} (apart : there ≠ place) :
    entry? (tree.put place entry) there = tree.entry? there := by
  rw [lookup_put (below_of_ne noDirectory), if_neg apart]

end

theorem put_surroundings (tree : FileTree) (place : Path) (entry : FileEntry) :
    (tree.put place entry).surroundings = tree.surroundings := by
  unfold put
  split <;> rfl

end FileTree

end Adocify
