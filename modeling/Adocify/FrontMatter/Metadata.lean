import Adocify.FrontMatter.Loader
import Adocify.FrontMatter.Seeding
import Adocify.Log

/-! The metadata of a text, and their way into the attributes of its document. Metadata that cannot be
read, or that are no mapping, are dropped with a warning; the block that holds them is cut out all the
same. -/

namespace Adocify.FrontMatter

abbrev Metadata := List (Value × Value)

def warning (message : Text) : LogRecord := ⟨.warning, message⟩

/-- The metadata that the answer of a loader stands for. -/
def metadataOf : Except LoaderFailure Value → Except Failure (Metadata × List LogRecord)
  | .error (.malformed reason) => .ok ([], [warning ("Ignoring invalid front matter: ".toList ++ reason)])
  | .error (.other failure) => .error failure
  | .ok .null => .ok ([], [])
  | .ok (.mapping entries) => .ok (entries, [])
  | .ok other =>
    .ok ([], [warning ("Ignoring front matter that is not a mapping (got ".toList ++ other.kindName ++ [')'])])

structure Parsed where
  metadata : Metadata
  body : Text
  log : List LogRecord := []
  deriving Repr

def parse (loader : Loader) (text : Text) : Except Failure Parsed :=
  match Block.ofText? text with
  | none => .ok { metadata := [], body := text }
  | some block => do
    let (metadata, log) ← metadataOf (loader block.style block.source)
    return { metadata, body := block.body, log }

/-- What a preprocessor leaves of a text, with the attributes and the log records that it adds. -/
structure Extracted where
  text : Text
  attributes : Option Attributes
  log : List LogRecord := []

/-- Cuts the block out and adds its metadata to the attributes, if there are any to add to. -/
def extract (loader : Loader) (text : Text) (attributes : Option Attributes) : Except Failure Extracted := do
  let parsed ← parse loader text
  match attributes with
  | none => return { text := parsed.body, attributes, log := parsed.log }
  | some given =>
    if parsed.metadata.isEmpty then return { text := parsed.body, attributes, log := parsed.log }
    let seeded ← seed given parsed.metadata
    let count := Text.ofNat parsed.metadata.length
    let told := ⟨.debug, "Front matter supplied ".toList ++ count ++ " attribute(s)".toList⟩
    return { text := parsed.body, attributes := some seeded, log := parsed.log ++ [told] }

end Adocify.FrontMatter
