import Adocify.Files.Write
import Adocify.Proofs.FileTrees

/-! What keeps a file from being written. The operating system refuses a call; or the path has a broken name, and the
operating system is not asked; or more parents are missing than calls to make them can be nested. -/

namespace Adocify

/-- A call that takes the path may meet the obstacle: it may be refused, or a name in the path is broken. -/
def Obstacle.OnPath (path : Path) : Obstacle → Prop
  | .brokenName => path.isBroken = true
  | .tooDeep => False
  | _ => True

namespace Path

variable {path : Path} {name : Text}

end Path

theorem Obstacle.OnPath.along {path other : Path} {obstacle : Obstacle} (there : obstacle.OnPath path)
    (broken : path.isBroken = true → other.isBroken = true) : obstacle.OnPath other := by
  cases obstacle with
  | brokenName => exact broken there
  | _ => exact there

namespace FileTree

variable {tree : FileTree} {path place : Path} {obstacle : Obstacle} {α β : Type}

/-- Whatever obstacle the computation meets, it is one on the path. -/
def Meets (path : Path) (computation : Except Obstacle α) : Prop :=
  ∀ obstacle, computation = .error obstacle → obstacle.OnPath path

namespace Meets

theorem ok (value : α) : Meets path (.ok value : Except Obstacle α) := by
  rintro _ ⟨⟩

theorem error (there : obstacle.OnPath path) : Meets path (.error obstacle : Except Obstacle α) := by
  rintro _ ⟨⟩
  exact there

theorem bind {first : Except Obstacle α} {next : α → Except Obstacle β} (here : Meets path first)
    (there : ∀ value, Meets path (next value)) : Meets path (first >>= next) := by
  cases first with
  | error obstacle => exact error (here obstacle rfl)
  | ok value => exact there value

end Meets

end FileTree

end Adocify
