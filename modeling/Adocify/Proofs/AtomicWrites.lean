import Adocify.Files.Write
import Adocify.Proofs.FileTrees

/-! Writes are all or nothing. First directories are made on the way to the file; from then on the tree differs
only by the temporary file, until that is moved to its place or removed. Whatever call the operating system
refuses, there is nothing else to be undone. -/

namespace Adocify.FileTree

variable {tree before between after paved current : FileTree} {path place temporary : Path}
  {content : List UInt8} {obstacle : Obstacle}

/-- A part of the path from its beginning leads to the place. -/
def OnTheWay (tree : FileTree) (path place : Path) : Prop :=
  ∃ above below, path = above ++ below ∧ tree.resolve above = .ok place

theorem OnTheWay.later (keeps : before.KeepsDirectories after) (onTheWay : before.OnTheWay path place) :
    after.OnTheWay path place := by
  obtain ⟨above, below, split, leads⟩ := onTheWay
  exact ⟨above, below, split, keeps.resolve leads⟩

/-- A directory that is new, on the way to the path. -/
structure Made (before after : FileTree) (path place : Path) : Prop where
  absent : before.entry? place = none
  directory : after.entry? place = some .directory
  onTheWay : after.OnTheWay path place

/-- Where nothing was touched, only directories on the way to the path are new. -/
structure Spares (before after : FileTree) (path : Path) (touched : Path → Prop) : Prop where
  elsewhere : ∀ place, ¬touched place → after.entry? place = before.entry? place ∨ Made before after path place
  surroundings : after.surroundings = before.surroundings

abbrev Paved (before after : FileTree) (path : Path) : Prop := Spares before after path fun _ => False

theorem Paved.keeps (spares : Paved before after path) : before.KeepsDirectories after := by
  intro place standing
  rcases spares.elsewhere place id with same | made
  · rw [same, standing]
  · rw [made.absent] at standing
    cases standing

theorem Paved.refl (tree : FileTree) (path : Path) : Paved tree tree path := ⟨fun _ _ => .inl rfl, rfl⟩

/-- Changes at some places after directories were made. -/
theorem Paved.touch {touched : Path → Prop} (spares : Paved before between path)
    (same : ∀ place, ¬touched place → after.entry? place = between.entry? place)
    (keeps : between.KeepsDirectories after) (surroundings : after.surroundings = between.surroundings) :
    Spares before after path touched := by
  refine ⟨fun place free => ?_, surroundings.trans spares.surroundings⟩
  rcases spares.elsewhere place id with unchanged | made
  · exact .inl ((same place free).trans unchanged)
  · exact .inr ⟨made.absent, (same place free).trans made.directory, made.onTheWay.later keeps⟩

theorem Paved.trans (first : Paved before between path) (second : Paved between after path) :
    Paved before after path := by
  refine ⟨fun place free => ?_, second.surroundings.trans first.surroundings⟩
  rcases second.elsewhere place free with unchanged | made
  · rcases first.elsewhere place free with same | made
    · exact .inl (unchanged.trans same)
    · exact .inr ⟨made.absent, unchanged.trans made.directory, made.onTheWay.later second.keeps⟩
  · rcases first.elsewhere place free with same | early
    · exact .inr ⟨same ▸ made.absent, made.directory, made.onTheWay⟩
    · exact absurd (early.directory.symm.trans made.absent) nofun

theorem Paved.further {above : Path} (spares : Paved before after above) (below : Path) :
    Paved before after (above ++ below) := by
  refine ⟨fun place free => (spares.elsewhere place free).imp id fun made => ?_, spares.surroundings⟩
  obtain ⟨first, rest, split, leads⟩ := made.onTheWay
  exact ⟨made.absent, made.directory, first, rest ++ below, by rw [split, List.append_assoc], leads⟩

theorem unlessRefused_ok {call : FileCall} {outcome : FileTree} (done : tree.unlessRefused call place outcome = .ok after) :
    after = outcome := by
  simp only [unlessRefused] at done
  split at done
  · cases done
  · exact (Except.ok.inj done).symm

/-- The tree that was paved and a temporary file in it, nothing else. -/
structure Holding (paved current : FileTree) (temporary : Path) (content : List UInt8) : Prop where
  absent : paved.entry? temporary = none
  file : ∃ mode, current.entry? temporary = some (.file content mode)
  elsewhere : ∀ place, place ≠ temporary → current.entry? place = paved.entry? place
  surroundings : current.surroundings = paved.surroundings

namespace Holding

theorem apart (holding : Holding paved current temporary content) : current.entry? temporary ≠ some .directory := by
  obtain ⟨mode, standing⟩ := holding.file
  simp [standing]

theorem keeps (holding : Holding paved current temporary content) : paved.KeepsDirectories current := by
  intro place standing
  have other : place ≠ temporary := by
    rintro rfl
    exact absurd (standing.symm.trans holding.absent) nofun
  rw [holding.elsewhere place other, standing]

theorem put (holding : Holding paved current temporary content) (other : List UInt8) (mode : Nat) :
    Holding paved (current.put temporary (.file other mode)) temporary other := by
  refine ⟨holding.absent, ⟨mode, put_here holding.apart _⟩, fun place apart => ?_, ?_⟩
  · rw [put_elsewhere holding.apart _ apart, holding.elsewhere place apart]
  · rw [put_surroundings, holding.surroundings]

theorem fill {old : List UInt8} (holding : Holding paved current temporary old)
    (filled : current.fill temporary content = .ok after) : Holding paved after temporary content := by
  obtain ⟨mode, standing⟩ := holding.file
  simp only [FileTree.fill, standing] at filled
  rw [unlessRefused_ok filled]
  exact holding.put content mode

theorem setMode (holding : Holding paved current temporary content) {mode : Nat}
    (set : current.setMode temporary mode = .ok after) : Holding paved after temporary content := by
  obtain ⟨_, standing⟩ := holding.file
  simp only [FileTree.setMode, standing] at set
  rw [unlessRefused_ok set]
  exact holding.put content mode

theorem remove (holding : Holding paved current temporary content) (place : Path) :
    entry? (current.remove temporary) place = paved.entry? place := by
  rw [lookup_remove (below_of_ne holding.apart)]
  split
  next here => rw [here, holding.absent]
  next apart => exact holding.elsewhere place apart

end Holding

theorem temporaryName_apart (path : Path) (drawn : Text) :
    temporaryName path drawn ≠ "..".toList ∧ temporaryName path drawn ≠ path.name := by
  have longer : (temporaryName path drawn).length = path.name.length + drawn.length + 6 := by
    simp [temporaryName]
    omega
  constructor
  · intro same
    have short := congrArg List.length same
    rw [longer] at short
    simp at short
  · intro same
    have short := congrArg List.length same
    omega

theorem parent_name (named : path ≠ []) : path.parent ++ [path.name] = path := by
  rw [Path.parent, Path.name, List.getLast?_eq_some_getLast named, Option.getD_some, List.dropLast_append_getLast]

/-- A temporary file beside a path never stands at the path itself. -/
theorem temporary_apart {target : Path} {drawn : Text} (keeps : paved.KeepsDirectories current) (named : path ≠ [])
    (inward : path.name ≠ "..".toList) (beside : paved.resolve (path.parent ++ [temporaryName path drawn]) = .ok temporary)
    (leads : current.resolve path = .ok target) : target ≠ temporary := by
  rw [← parent_name named] at leads
  obtain ⟨parent, led, -, rfl⟩ := resolve_concat beside
  obtain ⟨_, again, -, rfl⟩ := resolve_concat leads
  obtain rfl := Except.ok.inj ((keeps.resolve led).symm.trans again)
  rw [if_neg inward, if_neg (temporaryName_apart path drawn).1]
  intro same
  exact (temporaryName_apart path drawn).2 (List.singleton_inj.mp (List.append_cancel_left same)).symm

/-- The content has come to the path; all else is as it was. -/
structure Moved (paved after : FileTree) (path target : Path) (content : List UInt8) : Prop where
  leads : after.resolve path = .ok target
  file : ∃ mode, after.entry? target = some (.file content mode)
  elsewhere : ∀ place, place ≠ target → after.entry? place = paved.entry? place
  keeps : paved.KeepsDirectories after
  surroundings : after.surroundings = paved.surroundings

theorem rename_ok {source : Path} (renamed : tree.rename source path = .ok after) :
    path ≠ [] ∧ path.name ≠ "..".toList ∧ ∃ target entry, tree.resolve path = .ok target ∧
      tree.entry? target ≠ some .directory ∧ tree.entry? source = some entry ∧
      after = (tree.remove source).put target entry := by
  simp only [rename, bind, Except.bind] at renamed
  split at renamed
  · cases renamed
  next inside =>
    obtain ⟨named, inward⟩ : path ≠ [] ∧ path.name ≠ "..".toList := by simpa [not_or] using inside
    rcases leads : tree.resolve path with obstacle | target
    · simp [leads] at renamed
    simp only [leads] at renamed
    split at renamed
    · cases renamed
    next entry standing other =>
      exact ⟨named, inward, target, entry, rfl, other, standing, unlessRefused_ok renamed⟩
    · cases renamed

theorem Holding.rename {drawn : Text} (holding : Holding paved current temporary content)
    (beside : paved.resolve (path.parent ++ [temporaryName path drawn]) = .ok temporary)
    (renamed : current.rename temporary path = .ok after) : ∃ target, Moved paved after path target content := by
  obtain ⟨named, inward, target, entry, leads, other, moved, rfl⟩ := rename_ok renamed
  obtain ⟨mode, standing⟩ := holding.file
  obtain rfl : FileEntry.file content mode = entry := Option.some.inj (standing.symm.trans moved)
  have apart : target ≠ temporary := temporary_apart holding.keeps named inward beside leads
  have removed := holding.remove
  have free : entry? (current.remove temporary) target ≠ some .directory := by
    rwa [removed, ← holding.elsewhere target apart]
  have elsewhere : ∀ place, place ≠ target →
      entry? ((current.remove temporary).put target (.file content mode)) place = paved.entry? place := by
    intro place away
    rw [put_elsewhere free _ away, removed]
  -- The path still leads to the target: neither that nor the temporary file was a directory on the way to it.
  have keeps : current.KeepsDirectories ((current.remove temporary).put target (.file content mode)) := by
    intro place directory
    have away : place ≠ target := by
      rintro rfl
      exact other directory
    have further : place ≠ temporary := by
      rintro rfl
      exact holding.apart directory
    rw [elsewhere place away, ← holding.elsewhere place further, directory]
  refine ⟨target, keeps.resolve leads, ⟨mode, put_here free _⟩, elsewhere,
    holding.keeps.trans keeps, ?_⟩
  rw [put_surroundings]
  exact holding.surroundings

structure Written (before after : FileTree) (path target : Path) (content : List UInt8) : Prop where
  leads : after.resolve path = .ok target
  file : ∃ mode, after.entry? target = some (.file content mode)
  spares : Spares before after path.parent (· = target)

theorem Written.read {target : Path} (written : Written before after path target content) :
    after.read path = .ok content := by
  obtain ⟨mode, standing⟩ := written.file
  simp only [FileTree.read, bind, Except.bind, written.leads, standing]
  rfl

/-- What a write has done that was refused: nothing, unless the temporary file could not be removed. -/
structure Refused (before after : FileTree) (path : Path) (left : Option Path) : Prop where
  spares : Spares before after path.parent fun place => left = some place
  leftover : ∀ place, left = some place → before.entry? place = none ∧
    (∃ error, before.surroundings.refuses .remove place = some error)

theorem Paved.absent (paved : Paved before after path) (free : after.entry? place = none) :
    before.entry? place = none := by
  rcases paved.elsewhere place id with same | made
  · rw [← same, free]
  · exact made.absent

theorem Moved.written {target : Path} (moved : Moved paved after path target content)
    (spares : Paved before paved path.parent) : Written before after path target content :=
  ⟨moved.leads, moved.file, spares.touch moved.elsewhere moved.keeps moved.surroundings⟩

theorem Paved.refused (spares : Paved before after path.parent) : Refused before after path none :=
  ⟨spares.touch (fun _ _ => rfl) (.refl after) rfl, nofun⟩

theorem Holding.abandon {refusal : Refusal} (holding : Holding paved current temporary content)
    (spares : Paved before paved path.parent) (abandoned : current.abandon temporary path obstacle = (after, refusal)) :
    Refused before after path refusal.left := by
  simp only [FileTree.abandon] at abandoned
  rcases removed : current.unlessRefused .remove temporary (current.remove temporary) with refused | tidied
  · simp only [removed] at abandoned
    obtain ⟨rfl, rfl⟩ := Prod.mk.inj abandoned
    refine ⟨spares.touch (fun place apart => holding.elsewhere place fun here => apart (congrArg some here.symm))
      holding.keeps holding.surroundings, ?_⟩
    rintro place left
    obtain rfl := Option.some.inj left
    refine ⟨spares.absent holding.absent, ?_⟩
    rw [← spares.surroundings, ← holding.surroundings]
    simp only [unlessRefused] at removed
    split at removed
    next error refuses => exact ⟨error, refuses⟩
    next => cases removed
  · simp only [removed] at abandoned
    obtain ⟨rfl, rfl⟩ := Prod.mk.inj abandoned
    obtain rfl := unlessRefused_ok removed
    have same := holding.remove
    have keeps : paved.KeepsDirectories (current.remove temporary) := fun place standing => (same place).trans standing
    exact ⟨spares.touch (fun place _ => same place) keeps holding.surroundings, nofun⟩

end Adocify.FileTree
