import Adocify.CommandLine.Command
import Adocify.Proofs.AtomicWrites
import Adocify.Proofs.WriteObstacles

/-! Steps that fail. A conversion touches no file before its text is written, and a write has its effect as a
whole or none. A command that fails has changed no file but the one that it logs to. -/

namespace Adocify

open FileTree

variable {before between after files : FileTree} {output place : Path}

/-- What a step that failed leaves of the files. All stay as they were, but for the file that is logged to. What
is new are directories on the way to the output, and a temporary file if its removal was refused. -/
structure Unharmed (before after : FileTree) (output : Path) (logged : Path → Prop) : Prop where
  kept : ∀ place entry, ¬logged place → before.entry? place = some entry → after.entry? place = some entry
  added : ∀ place, ¬logged place → before.entry? place = none →
    after.entry? place = none ∨ Made before after output.parent place ∨
      ∃ error, before.surroundings.refuses .remove place = some error

theorem Unharmed.refl (files : FileTree) (output : Path) (logged : Path → Prop) : Unharmed files files output logged :=
  ⟨fun _ _ _ standing => standing, fun _ _ free => .inl free⟩

namespace CommandLine

/-- The file that a command writes if it writes one. -/
def Arguments.outputPath (arguments : Arguments) : Path :=
  match arguments.destination with
  | some (.toFile path) => path
  | _ => (Path.ofText arguments.input).withSuffix FileSource.outputSuffix

/-- The trees differ at most where something is logged. -/
structure Aside (logged : Path → Prop) (before after : FileTree) : Prop where
  elsewhere : ∀ place, ¬logged place → after.entry? place = before.entry? place
  keeps : before.KeepsDirectories after
  surroundings : after.surroundings = before.surroundings

theorem Aside.refl (logged : Path → Prop) (files : FileTree) : Aside logged files files := ⟨fun _ _ => rfl, .refl files, rfl⟩

theorem Aside.trans {logged : Path → Prop} (first : Aside logged before between) (second : Aside logged between after) :
    Aside logged before after :=
  ⟨fun place free => (second.elsewhere place free).trans (first.elsewhere place free), first.keeps.trans second.keeps,
    second.surroundings.trans first.surroundings⟩

end CommandLine

open CommandLine (run)

end Adocify
