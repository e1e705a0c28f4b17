import Adocify.Proofs.FrontMatterBlocks

/-! What becomes of the metadata of a text. The block is cut out of the text, and metadata that are none are dropped,
unless more goes wrong in the loader than that it calls the source malformed: then there is no result. -/

namespace Adocify.FrontMatter

/-- The metadata that are kept of what a loader answers, and what is logged. Nothing is kept of a failure that is passed
on. -/
inductive Kept : Except LoaderFailure Value → Metadata → List LogRecord → Prop
  | malformed {reason : Text} :
      Kept (.error (.malformed reason)) [] [warning ("Ignoring invalid front matter: ".toList ++ reason)]
  | absent : Kept (.ok .null) [] []
  | mapping {entries : Metadata} : Kept (.ok (.mapping entries)) entries []
  | other {value : Value} (present : value ≠ .null) (single : ∀ entries, value ≠ .mapping entries) :
      Kept (.ok value) []
        [warning ("Ignoring front matter that is not a mapping (got ".toList ++ value.kindName ++ [')'])]

section

variable {answer : Except LoaderFailure Value} {metadata : Metadata} {log : List LogRecord} {cause : Failure}

theorem kept_of_metadataOf (told : metadataOf answer = .ok (metadata, log)) : Kept answer metadata log := by
  unfold metadataOf at told
  split at told
  · cases told
    exact .malformed
  · cases told
  · cases told
    exact .absent
  · cases told
    exact .mapping
  next present single =>
    cases told
    exact .other present single

theorem metadataOf_error_iff : metadataOf answer = .error cause ↔ answer = .error (.other cause) := by
  unfold metadataOf
  split <;> simp

end

/-- What may come of a text. -/
inductive Outcome (loader : Loader) (text : Text) : Except Failure Parsed → Prop
  /-- There is no block, and nothing is cut out. -/
  | whole (none : ¬∃ block : Block, block.Heads (Text.lines text)) :
      Outcome loader text (.ok { metadata := [], body := text })
  /-- The block is cut out, whatever its source stands for. -/
  | cut {block : Block} {parsed : Parsed} (heads : block.Heads (Text.lines text)) (first : block.ClosedFirst)
      (cut : Cut loader block text parsed)
      (kept : Kept (loader block.style (Text.unlines block.content)) parsed.metadata parsed.log) :
      Outcome loader text (.ok parsed)
  /-- The loader fails otherwise than by calling the source malformed, and there is no result. -/
  | stopped {block : Block} {cause : Failure} (heads : block.Heads (Text.lines text)) (first : block.ClosedFirst)
      (failed : loader block.style (Text.unlines block.content) = .error (.other cause)) :
      Outcome loader text (.error cause)

section

variable {loader : Loader} {text : Text} {block : Block} {cause : Failure}

theorem parse_error_iff (found : Block.ofText? text = some block) :
    parse loader text = .error cause ↔ loader block.style (Text.unlines block.content) = .error (.other cause) := by
  rw [parse, found, ← metadataOf_error_iff]
  change (metadataOf (loader block.style block.source)).bind _ = _ ↔ metadataOf (loader block.style block.source) = _
  cases metadataOf (loader block.style block.source) with
  | error other => constructor <;> rintro ⟨⟩ <;> rfl
  | ok kept => constructor <;> rintro ⟨⟩

/-- Metadata that are none are dropped, whatever the loader says against them. What else goes wrong in the loader is what
the text comes to, and nothing else makes it fail. -/
theorem parse_outcome (loader : Loader) (text : Text) :
    Outcome loader text (parse loader text) ∧
      ∀ cause, parse loader text = .error cause ↔ ∃ block : Block, block.Heads (Text.lines text) ∧ block.ClosedFirst ∧
        loader block.style (Text.unlines block.content) = .error (.other cause) := by
  cases found : Block.ofText? text with
  | none =>
    have without : ¬∃ block : Block, block.Heads (Text.lines text) := by
      rw [← Block.ofText?_isSome, found]
      exact Bool.false_ne_true
    rw [parse_kept found]
    exact ⟨.whole without, fun cause => ⟨nofun, fun ⟨block, heads, _⟩ => absurd ⟨block, heads⟩ without⟩⟩
  | some block =>
    obtain ⟨heads, first⟩ := Block.ofText?_iff.mp found
    constructor
    · cases returned : parse loader text with
      | ok parsed =>
        have cut := parse_cut found returned
        exact .cut heads first cut (kept_of_metadataOf cut.loaded)
      | error cause => exact .stopped heads first ((parse_error_iff found).mp returned)
    · intro cause
      rw [parse_error_iff found]
      constructor
      · intro failed
        exact ⟨block, heads, first, failed⟩
      · rintro ⟨other, otherHeads, otherFirst, failed⟩
        obtain rfl := Option.some.inj (found.symm.trans (Block.ofText?_iff.mpr ⟨otherHeads, otherFirst⟩))
        exact failed

end

/-- A date of the right form that does not exist. -/
def missingDay : Text := "date: 2024-02-30".toList

def missingDayPage : Text := "---\n".toList ++ missingDay ++ "\n---\nBody\n".toList

/-- A loader that fails on a missing day, and the usual one does, stops the parse with its failure. -/
theorem missing_day_stops :
    (∀ loader cause, loader .yaml missingDay = .error (.other cause) → parse loader missingDayPage = .error cause) ∧
    Loader.usual .yaml missingDay = .error (.other .unreadableScalar) ∧
    ¬∃ parsed, parse .usual missingDayPage = .ok parsed := by
  have heads : (⟨.yaml, [missingDay], ["Body".toList, []]⟩ : Block).Heads (Text.lines missingDayPage) :=
    ⟨"---".toList, "---".toList, by decide +kernel, by decide +kernel, by decide +kernel, by decide +kernel⟩
  have found := Block.ofText?_iff.mpr ⟨heads, by decide +kernel⟩
  have stops : ∀ loader : Loader, ∀ cause, loader .yaml missingDay = .error (.other cause) →
      parse loader missingDayPage = .error cause := fun loader cause failed => (parse_error_iff found).mpr failed
  have failed : Loader.usual .yaml missingDay = .error (.other .unreadableScalar) := by
    have told : (Loader.usual .yaml missingDay).map (fun _ => ()) = .error (.other .unreadableScalar) := by decide +kernel
    cases answer : Loader.usual .yaml missingDay with
    | error failure => simpa [answer, Except.map] using told
    | ok value => simp [answer, Except.map] at told
  refine ⟨stops, failed, ?_⟩
  rintro ⟨parsed, returned⟩
  exact absurd (returned.symm.trans (stops _ _ failed)) nofun

end Adocify.FrontMatter
