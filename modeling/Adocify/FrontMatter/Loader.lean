import Adocify.FrontMatter.Block
import Adocify.Toml.Document
import Adocify.Yaml.Meaning

/-! What reads the source of a block. A loader is given, and only what it calls malformed is expected of it;
whatever else goes wrong in a loader is passed on. -/

namespace Adocify.FrontMatter

/-- Why a loader makes no value of a source. -/
inductive LoaderFailure where
  /-- The source is not what its style says. -/
  | malformed (reason : Text)
  /-- Whatever else goes wrong in a loader. -/
  | other (failure : Failure)
  deriving Repr, DecidableEq

/-- What becomes of a source of some style. -/
abbrev Loader := Style → Text → Except LoaderFailure Value

namespace Loader

/-- Collections nested deeper than this are not followed. -/
def depth : Nat := 480

/-- The loaders that are used where no others are given, for YAML 1.1 and TOML 1.0. They give no reason for calling
a source malformed, and have no value for half a surrogate pair. -/
def usual : Loader
  | .yaml, source =>
    match Yaml.load depth source with
    | .ok value => .ok value
    | .error .malformed => .error (.malformed [])
    | .error (.failed cause) => .error (.other cause)
  | .toml, source =>
    match (Toml.load depth source).run with
    | some (.ok table) => .ok (.mapping table)
    | some (.error cause) => .error (.other cause)
    | none => .error (.malformed [])

end Loader

end Adocify.FrontMatter
