import Adocify.Charset.Utf8
import Adocify.Failure
import Adocify.Files.Path

/-! A tree of files and directories, and the operations on it. An operation is refused with the
operating system's error, unless it never gets as far as the operating system. -/

namespace Adocify

inductive FileEntry where
  | file (content : List UInt8) (mode : Nat)
  | directory
  deriving Repr, DecidableEq

inductive Obstacle where
  | missing
  | exists
  | notADirectory
  | isADirectory
  | busy
  | nameTooLong
  /-- Nothing in the tree stands in the way; permission or room may be lacking, or a device fails. -/
  | refused (error : SystemError)
  /-- The operating system is not asked about such a path. -/
  | brokenName
  /-- More parents are missing than calls can be nested to make them. -/
  | tooDeep
  deriving Repr, DecidableEq

/-- Only what the operating system refuses is a failure of the system. -/
def Obstacle.toFailure (paths : List Text) : Obstacle → Failure
  | .missing => .system (.noSuchFile paths)
  | .exists => .system (.fileExists paths)
  | .notADirectory => .system (.notADirectory paths)
  | .isADirectory => .system (.isADirectory paths)
  | .busy => .system (.busy paths)
  | .nameTooLong => .system (.nameTooLong paths)
  | .refused error => .system error
  | .brokenName => .brokenName
  | .tooDeep => .tooDeep

/-- The calls by which a file is written. -/
inductive FileCall where
  | makeDirectory
  | create
  | fill
  | setMode
  | rename
  | remove
  deriving Repr, DecidableEq

/-- The characters of random names. -/
def nameAlphabet : Text := "abcdefghijklmnopqrstuvwxyz0123456789_".toList

/-- A number as so many characters of a random name. -/
def drawnName : Nat → Nat → Text
  | 0, _ => []
  | count + 1, number =>
    nameAlphabet.getD (number % nameAlphabet.length) '_' :: drawnName count (number / nameAlphabet.length)

/-- What there is beside the tree: the calls that the operating system refuses at a place where the tree has room
for them, the numbers that are drawn for temporary names, and how many calls to make a missing parent can be nested. -/
structure Surroundings where
  refuses : FileCall → Path → Option SystemError := fun _ _ => none
  draw : Nat → Nat := id
  nesting : Nat := 985

/-- The entries below the root, each at the place where it stands. -/
structure FileTree where
  entries : List (Path × FileEntry) := []
  surroundings : Surroundings := {}

namespace FileTree

def defaultMode : Nat := 0o644

def entry? (tree : FileTree) (place : Path) : Option FileEntry :=
  if place.isEmpty then some .directory else tree.entries.lookup place

def put (tree : FileTree) (place : Path) (entry : FileEntry) : FileTree :=
  if (tree.entries.lookup place).isSome then
    { tree with entries := tree.entries.map fun (other, old) => (other, if other = place then entry else old) }
  else { tree with entries := tree.entries ++ [(place, entry)] }

def remove (tree : FileTree) (place : Path) : FileTree :=
  { tree with entries := tree.entries.filter fun (other, _) => other ≠ place }

/-- The outcome of a call that the tree has room for. -/
def unlessRefused (tree : FileTree) (call : FileCall) (place : Path) (outcome : FileTree) : Except Obstacle FileTree :=
  match tree.surroundings.refuses call place with
  | some error => .error (.refused error)
  | none => .ok outcome

/-- The longest name, in bytes. -/
def nameLimit : Nat := 255

/-- The room for a path, in bytes. -/
def pathLimit : Nat := 4096

/-- How many bytes a path takes with what stands behind each name: a slash, or the end. -/
def roomOf (path : Path) : Nat := (path.flatMap fun name => Utf8.encode (name ++ ['/'])).length

/-- Follows names from a place. The last name need not be there; the others must be directories. -/
def resolveFrom (tree : FileTree) (place : Path) : List Text → Except Obstacle Path
  | [] => .ok place
  | name :: rest =>
    match tree.entry? place with
    | none => .error .missing
    | some (.file ..) => .error .notADirectory
    | some .directory =>
      if nameLimit < (Utf8.encode name).length then .error .nameTooLong
      else if name == "..".toList then tree.resolveFrom place.dropLast rest
      else tree.resolveFrom (place ++ [name]) rest

/-- The place to which a path leads. That a name in it is broken or that it is too long is found out before any name
is followed. -/
def resolve (tree : FileTree) (path : Path) : Except Obstacle Path :=
  if path.isBroken then .error .brokenName
  else if pathLimit < roomOf path then .error .nameTooLong
  else tree.resolveFrom [] path

def isDirectory (tree : FileTree) (path : Path) : Bool :=
  match tree.resolve path with
  | .ok place => tree.entry? place == some .directory
  | .error _ => false

def read (tree : FileTree) (path : Path) : Except Obstacle (List UInt8) := do
  let place ← tree.resolve path
  match tree.entry? place with
  | none => throw .missing
  | some .directory => throw .isADirectory
  | some (.file content _) => return content

def makeDirectory (tree : FileTree) (path : Path) : Except Obstacle FileTree := do
  let place ← tree.resolve path
  match tree.entry? place with
  | some _ => throw .exists
  | none => tree.unlessRefused .makeDirectory place (tree.put place .directory)

/-- An obstacle in the way of a path. -/
structure Refusal where
  obstacle : Obstacle
  path : Path
  /-- A temporary file that could not be removed. -/
  left : Option Path := none
  deriving Repr, DecidableEq

/-- Settles an attempt to make a directory. One that is there already is no obstacle. -/
def settled (tree : FileTree) (path : Path) (made : Except Obstacle FileTree) : FileTree × Except Refusal Unit :=
  match made with
  | .ok made => (made, .ok ())
  | .error obstacle => (tree, if tree.isDirectory path then .ok () else .error { obstacle, path })

/-- Makes a directory, and its parents where they are missing; the names are given innermost first.
Each parent is made in a call within the call for its child, and so many can be nested. Parents made on the way
to a refusal remain. -/
def ensureReversed (tree : FileTree) : Nat → List Text → FileTree × Except Refusal Unit
  | _, [] => (tree, .ok ())
  | nesting, name :: above =>
    let path := (name :: above).reverse
    match tree.makeDirectory path with
    | .error .missing =>
      match nesting with
      | 0 => (tree, .error { obstacle := .tooDeep, path })
      | nesting + 1 =>
        match tree.ensureReversed nesting above with
        | (tree, .ok ()) => tree.settled path (tree.makeDirectory path)
        | refused => refused
    | made => tree.settled path made
termination_by structural _ names => names

def ensureDirectories (tree : FileTree) (path : Path) : FileTree × Except Refusal Unit :=
  tree.ensureReversed tree.surroundings.nesting path.reverse

/-- Adds to the end of a file, making the file if it is missing. -/
def append (tree : FileTree) (path : Path) (content : List UInt8) : Except Obstacle FileTree := do
  let place ← tree.resolve path
  match tree.entry? place with
  | some .directory => throw .isADirectory
  | some (.file old mode) => return tree.put place (.file (old ++ content) mode)
  | none => return tree.put place (.file content defaultMode)

end FileTree

end Adocify
