import Adocify.Files.Tree

/-! Writing a file as a whole. The content goes into a temporary file beside the file, which then takes its
place. A write that is refused on the way removes the temporary file again. -/

namespace Adocify.FileTree

def temporaryMode : Nat := 0o600

/-- So many names are tried for a temporary file. -/
def temporaryAttempts : Nat := 238328

def noTemporaryName : SystemError := ⟨17, "No usable temporary file name found".toList, []⟩

def temporaryName (path : Path) (drawn : Text) : Text := '.' :: path.name ++ '.' :: drawn ++ ".tmp".toList

/-- Creates an empty file in the parent of a path, under the first of so many drawn names that is free. -/
def createTemporary (tree : FileTree) (path : Path) : Nat → Except Obstacle (FileTree × Path)
  | 0 => .error (.refused noTemporaryName)
  | attempts + 1 => do
    let place ← tree.resolve (path.parent ++ [temporaryName path (drawnName 8 (tree.surroundings.draw attempts))])
    match tree.entry? place with
    | some _ => tree.createTemporary path attempts
    | none =>
      let made ← tree.unlessRefused .create place (tree.put place (.file [] temporaryMode))
      return (made, place)

def fill (tree : FileTree) (place : Path) (content : List UInt8) : Except Obstacle FileTree :=
  match tree.entry? place with
  | some (.file _ mode) => tree.unlessRefused .fill place (tree.put place (.file content mode))
  | some .directory => .error .isADirectory
  | none => .error .missing

def setMode (tree : FileTree) (place : Path) (mode : Nat) : Except Obstacle FileTree :=
  match tree.entry? place with
  | some (.file content _) => tree.unlessRefused .setMode place (tree.put place (.file content mode))
  | some .directory => .ok tree
  | none => .error .missing

/-- The permissions of the file at a path, or else those of a new file. A directory is never replaced, so
its permissions do not matter. -/
def modeFor (tree : FileTree) (path : Path) : Nat :=
  match (tree.resolve path).toOption.bind tree.entry? with
  | some (.file _ mode) => mode &&& 0o777
  | _ => defaultMode

/-- Moves a file to a path, in the place of whatever file is there. -/
def rename (tree : FileTree) (source : Path) (path : Path) : Except Obstacle FileTree := do
  if path.isEmpty || path.name == "..".toList then throw .busy
  let place ← tree.resolve path
  match tree.entry? place, tree.entry? source with
  | some .directory, _ => throw .isADirectory
  | _, some moved => tree.unlessRefused .rename place ((tree.remove source).put place moved)
  | _, none => throw .missing

/-- Fills a temporary file and moves it to the path. Answers the tree that is reached as well. -/
def moveInto (tree : FileTree) (temporary path : Path) (content : List UInt8) : FileTree × Except Obstacle Unit :=
  match tree.fill temporary content with
  | .error obstacle => (tree, .error obstacle)
  | .ok filled =>
    match filled.setMode temporary (filled.modeFor path) with
    | .error obstacle => (filled, .error obstacle)
    | .ok ready =>
      match ready.rename temporary path with
      | .error obstacle => (ready, .error obstacle)
      | .ok moved => (moved, .ok ())

/-- Tidies up after an obstacle. A temporary file that cannot be removed stays. -/
def abandon (tree : FileTree) (temporary path : Path) (obstacle : Obstacle) : FileTree × Refusal :=
  match tree.unlessRefused .remove temporary (tree.remove temporary) with
  | .ok tidied => (tidied, { obstacle, path })
  | .error _ => (tree, { obstacle, path, left := some temporary })

/-- Writes a file as a whole, after making the directories that lead to it. -/
def write (tree : FileTree) (path : Path) (content : List UInt8) : FileTree × Except Refusal Unit :=
  match tree.ensureDirectories path.parent with
  | (tree, .error refusal) => (tree, .error refusal)
  | (tree, .ok ()) =>
    match tree.createTemporary path temporaryAttempts with
    | .error obstacle => (tree, .error { obstacle, path })
    | .ok (tree, temporary) =>
      match tree.moveInto temporary path content with
      | (tree, .ok ()) => (tree, .ok ())
      | (tree, .error obstacle) =>
        let (tree, refusal) := tree.abandon temporary path obstacle
        (tree, .error refusal)

end Adocify.FileTree
