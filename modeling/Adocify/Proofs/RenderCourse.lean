import Adocify.Proofs.RenderComparison
import Adocify.Proofs.RenderedParts

/-! What a rendering consists of. A node's rendering is a course: the changes that the node itself makes,
the renderings of its parts in their order, and then a text put together from theirs. How the node words
its own text is left open. Whatever holds of all courses holds of all renderings. -/

namespace Adocify.AsciiDoc

/-- What is done to finished texts. -/
inductive Settling where
  | macroText
  | attributeValue
  | cell
  | flat
  | sentences
  | trimmed
  | ended

def Settling.apply : Settling → Text → Text
  | .macroText => escapeMacroText
  | .attributeValue => escapeAttributeValue
  | .cell => Text.substitute '|' ['\\', '|']
  | .flat => Text.substitute '\n' [' ']
  | .sentences => ventilate
  | .trimmed => Text.stripRight
  | .ended => Text.endWithNewline

/-- The text holds the given texts in their order, settled, with anything else between them. -/
inductive Assembled : List Text → Text → Prop where
  | literal (text : Text) : Assembled [] text
  | whole (text : Text) : Assembled [text] text
  | append {first second : List Text} {text other : Text} (left : Assembled first text)
      (right : Assembled second other) : Assembled (first ++ second) (text ++ other)
  | settle {texts : List Text} {text : Text} (settling : Settling) (assembled : Assembled texts text) :
      Assembled texts (settling.apply text)

/-- The texts are laid into lines, each line holding those next in order. A line that comes out empty
may be left out. -/
inductive Laid : List Text → List Text → Prop where
  | nil : Laid [] []
  | cons {first others lines : List Text} {line : Text} (assembled : Assembled first line)
      (rest : Laid others lines) : Laid (first ++ others) (line :: lines)
  | drop {first others lines : List Text} (assembled : Assembled first []) (rest : Laid others lines) :
      Laid (first ++ others) lines

/-- The address stands under the images directory. -/
def InDirectory (options : Options) (url : Text) : Prop :=
  ∃ directory, options.imagesDirectory = some directory ∧ trimSlashes directory ++ ['/'] <+: url

/-- The attributes that a node may register: only a document says what it is, and only an image where images are. -/
inductive Registers (options : Options) : Node → Text → Prop where
  | anywhere {node : Node} : Registers options node experimental.toList
  | document {nodes : List Node} : Registers options (.document nodes) doctype
  | image {node : Node} {url : Text} (shown : url ∈ ownImages node) (inside : InDirectory options url) :
      Registers options node "imagesdir".toList

/-- What a node changes of its own; lists are entered and left around their items only. -/
def Change.Befits (options : Options) (node : Node) : Change → Prop
  | .enterList _ | .leaveList => False
  | .register name _ => Registers options node name.toList
  | _ => True

def Own (options : Options) (node : Node) (change : Change) : Prop :=
  change.ArisesAt options node ∧ change.Befits options node

/-- The failures that are a node's own. -/
def Refuses (options : Options) : Node → Failure → Prop
  | .heading _ content, failure => idLine options content = .error failure
  | .list _ items _ _, failure => failure = .misplaced ∧ ∃ item ∈ items, ∀ blocks status, item ≠ .listItem blocks status
  | .table header rows _ _, failure => tableWidth (header.toList ++ rows) = .error failure
  | .tableRow cells, failure => rowSpan cells = .error failure
  | .foreign kind _ location, failure => failure = .unsupportedNode kind (location.map (·.describe))
  | .stray kind, failure => failure = .unsupportedNode kind none
  | _, _ => False

/-- A link whose address is all that is written of it. -/
def WrittenBare : Node → Prop
  | .link url content title => !isPresent title && isBareUrl url (Node.plainTexts content)
  | _ => False

/-- The text that a node may make of the texts of its parts. -/
def Makes : Node → List Text → Text → Prop
  | .foreign .., _, _ | .stray _, _, _ | .footnoteReference _, _, _ => False
  | node, texts, text => WrittenBare node ∨ Assembled texts text

/-- Two outcomes are the same failure, or else both succeed with values that fit. -/
def Completes {α β : Type} (fits : α → β → Prop) : Except Failure α → Except Failure β → Prop
  | .ok value, .ok result => fits value result
  | .error failure, .error other => failure = other
  | _, _ => False

theorem completes_ok {α β : Type} {fits : α → β → Prop} {result : Except Failure α} {value : β}
    (completes : Completes fits result (.ok value)) : ∃ found, result = .ok found ∧ fits found value := by
  cases result with
  | ok found => exact ⟨found, rfl, completes⟩
  | error failure => exact completes.elim

theorem completes_error {α β : Type} {fits : α → β → Prop} {result : Except Failure α} {failure : Failure}
    (completes : Completes fits result (.error failure)) : result = .error failure := by
  cases result with
  | ok found => exact completes.elim
  | error other => exact congrArg Except.error completes

theorem map_ok {α β : Type} {compute : α → β} {result : Except Failure α} {value : β}
    (ended : result.map compute = .ok value) : ∃ found, result = .ok found ∧ compute found = value := by
  cases result with
  | ok found => exact ⟨found, rfl, Except.ok.inj ended⟩
  | error failure => cases ended

theorem map_error {α β : Type} {compute : α → β} {result : Except Failure α} {failure : Failure}
    (ended : result.map compute = .error failure) : result = .error failure := by
  cases result with
  | ok found => cases ended
  | error other => exact congrArg Except.error (Except.error.inj ended)

def bareReference (identifier : Text) : Text := "footnote:".toList ++ identifier ++ "[]".toList

def noteReference (identifier text : Text) : Text :=
  "footnote:".toList ++ identifier ++ '[' :: escapeMacroText text ++ [']']

def presentTexts (texts : List Text) : List Text := texts.filter fun text => !text.isEmpty

/-- The text of a footnote whose blocks have these texts. -/
def noteText (texts : List Text) : Text := flattened (presentTexts texts)

def unknownNote (identifier : Text) : LogRecord :=
  ⟨.warning, "Footnote reference '".toList ++ identifier ++ "' has no definition".toList⟩

mutual

/-- The rendering of a node from one context to another, with so many steps from footnote to footnote left. -/
inductive Passage (options : Options) : Nat → Node → Context → Except Failure Text → Context → Prop where
  | parts {depth node before result outcome after}
      (course : Course options depth (Own options node) (Refuses options node) (partsOf node) before result after)
      (makes : Completes (Makes node) result outcome)
      (ran : (renderNode options (renderFootnote options depth) node).runIn before = (outcome, after)) :
      Passage options depth node before outcome after
  | repeated {depth identifier before} (written : identifier ∈ before.emitted) :
      Passage options depth (.footnoteReference identifier) before (.ok (bareReference identifier)) before
  | undefined {depth identifier before} (fresh : identifier ∉ before.emitted)
      (missing : before.footnotes.lookup identifier = none) :
      Passage options depth (.footnoteReference identifier) before (.ok (bareReference identifier))
        ((Change.note [unknownNote identifier]).apply before)
  | exhausted {identifier content before} (fresh : identifier ∉ before.emitted)
      (found : before.footnotes.lookup identifier = some content) :
      Passage options 0 (.footnoteReference identifier) before (.error (.circularFootnote identifier)) before
  | noted {depth identifier content before texts after} (fresh : identifier ∉ before.emitted)
      (found : before.footnotes.lookup identifier = some content)
      (course : Course options depth (fun _ => False) (fun _ => False) content before (.ok texts) after)
      (written : (renderFootnote options (depth + 1) identifier content).runIn before =
        (.ok (presentTexts texts), after)) :
      Passage options (depth + 1) (.footnoteReference identifier) before
        (.ok (noteReference identifier (noteText texts))) ((Change.emit identifier).apply after)
  | failed {depth identifier content before failure after} (fresh : identifier ∉ before.emitted)
      (found : before.footnotes.lookup identifier = some content)
      (course : Course options depth (fun _ => False) (fun _ => False) content before (.error failure) after) :
      Passage options (depth + 1) (.footnoteReference identifier) before (.error failure) after

/-- A stretch of a rendering in which the nodes are rendered in turn. -/
inductive Course (options : Options) : Nat → (Change → Prop) → (Failure → Prop) → List Node → Context →
    Except Failure (List Text) → Context → Prop where
  | nil {depth own refuses context} : Course options depth own refuses [] context (.ok []) context
  | change {depth own refuses context change} (arises : own change) :
      Course options depth own refuses [] context (.ok []) (change.apply context)
  | refuse {depth own refuses context failure} (refused : refuses failure) :
      Course options depth own refuses [] context (.error failure) context
  | visit {depth own refuses node before outcome after} (passage : Passage options depth node before outcome after) :
      Course options depth own refuses [node] before (outcome.map fun text => [text]) after
  | append {depth own refuses nodes others before texts between result after}
      (first : Course options depth own refuses nodes before (.ok texts) between)
      (rest : Course options depth own refuses others between result after) :
      Course options depth own refuses (nodes ++ others) before (result.map (texts ++ ·)) after
  | stop {depth own refuses nodes others before failure after}
      (first : Course options depth own refuses nodes before (.error failure) after) :
      Course options depth own refuses (nodes ++ others) before (.error failure) after
  | inside {depth own refuses nodes before result after} (marker : Char)
      (content : Course options depth own refuses nodes ((Change.enterList marker).apply before) result after) :
      Course options depth own refuses nodes before result (Change.leaveList.apply after)

end

/-- Every rendering of the node is a course of its parts. -/
def Follows (options : Options) (depth : Nat) (node : Node) : Prop :=
  ∀ before, Passage options depth node before
    ((renderNode options (renderFootnote options depth) node).runIn before).1
    ((renderNode options (renderFootnote options depth) node).runIn before).2

/-- Whose course it is: its own changes and failures. -/
structure Stage where
  options : Options
  depth : Nat
  own : Change → Prop
  refuses : Failure → Prop

namespace Stage

variable {stage : Stage} {α β : Type} {nodes others : List Node}

/-- The computation takes a course through the nodes, and its value fits their texts. -/
def Takes (stage : Stage) (nodes : List Node) (fits : List Text → α → Prop) (computation : Render α) : Prop :=
  ∀ before, ∃ result,
    Course stage.options stage.depth stage.own stage.refuses nodes before result (computation.runIn before).2 ∧
      Completes fits result (computation.runIn before).1

theorem Takes.pure {fits : List Text → α → Prop} {value : α} (here : fits [] value) :
    stage.Takes [] fits (pure value) :=
  fun _ => ⟨.ok [], .nil, here⟩

theorem Takes.bind {first : Render α} {next : α → Render β} {fits : List Text → α → Prop} {whole : List Text → β → Prop}
    (takes : stage.Takes nodes fits first)
    (rest : ∀ texts value, fits texts value → stage.Takes others (fun more => whole (texts ++ more)) (next value)) :
    stage.Takes (nodes ++ others) whole (first >>= next) := by
  intro before
  obtain ⟨result, course, completes⟩ := takes before
  rw [Render.runIn_bind]
  generalize first.runIn before = ended at course completes
  obtain ⟨failure | value, between⟩ := ended
  · cases result with
    | ok texts => exact False.elim completes
    | error other =>
      obtain rfl : other = failure := completes
      exact ⟨.error other, .stop course, rfl⟩
  · cases result with
    | error other => exact False.elim completes
    | ok texts =>
      obtain ⟨more, later, fit⟩ := rest texts value completes between
      refine ⟨more.map (texts ++ ·), .append course later, ?_⟩
      generalize ((next value).runIn between).1 = outcome at fit
      cases more <;> cases outcome <;> exact fit

theorem Takes.andThen {first : Render α} {next : α → Render β} {fits : List Text → α → Prop}
    {whole : List Text → β → Prop} (takes : stage.Takes nodes fits first)
    (rest : ∀ texts value, fits texts value → stage.Takes [] (fun more => whole (texts ++ more)) (next value)) :
    stage.Takes nodes whole (first >>= next) := by
  have both := takes.bind rest
  rwa [List.append_nil] at both

theorem Takes.map {first : Render α} {compute : α → β} {fits : List Text → α → Prop} {whole : List Text → β → Prop}
    (takes : stage.Takes nodes fits first) (implies : ∀ texts value, fits texts value → whole texts (compute value)) :
    stage.Takes nodes whole (first >>= fun value => Pure.pure (compute value)) := by
  refine takes.andThen fun texts value fit => .pure ?_
  rw [List.append_nil]
  exact implies texts value fit

/-- A computation that renders nothing, before the others. -/
theorem Takes.before {first : Render α} {next : α → Render β} {fits : α → Prop} {whole : List Text → β → Prop}
    (takes : stage.Takes [] (fun texts value => texts = [] ∧ fits value) first)
    (rest : ∀ value, fits value → stage.Takes nodes whole (next value)) :
    stage.Takes nodes whole (first >>= next) := by
  refine takes.bind fun texts value fit => ?_
  obtain ⟨rfl, fit⟩ := fit
  exact rest value fit

theorem Takes.get : stage.Takes [] (fun texts _ => texts = [] ∧ True) (get : Render Context) :=
  fun _ => ⟨.ok [], .nil, rfl, trivial⟩

theorem Takes.modify (change : Change) (arises : stage.own change) :
    stage.Takes [] (fun texts _ => texts = [] ∧ True) (modify change.apply : Render Unit) :=
  fun _ => ⟨.ok [], .change arises, rfl, trivial⟩

theorem Takes.lift {result : Except Failure α} (refused : ∀ failure, result = .error failure → stage.refuses failure) :
    stage.Takes [] (fun texts value => texts = [] ∧ result = .ok value) (liftM result : Render α) := by
  intro before
  rw [Render.runIn_liftM]
  cases result with
  | ok value => exact ⟨.ok [], .nil, rfl, rfl⟩
  | error failure => exact ⟨.error failure, .refuse (refused failure rfl), rfl⟩

theorem Takes.fail {failure : Failure} {fits : List Text → α → Prop} (refused : stage.refuses failure) :
    stage.Takes [] fits (throw failure) :=
  fun _ => ⟨.error failure, .refuse refused, rfl⟩

theorem Takes.visit {node : Node} (follows : Follows stage.options stage.depth node) :
    stage.Takes [node] (fun texts text => texts = [text])
      (renderNode stage.options (renderFootnote stage.options stage.depth) node) := by
  intro before
  refine ⟨_, .visit (follows before), ?_⟩
  generalize (Render.runIn _ before).1 = outcome
  cases outcome <;> rfl

theorem Takes.insideList {content : Render α} {fits : List Text → α → Prop} (marker : Char)
    (takes : stage.Takes nodes fits content) : stage.Takes nodes fits (Render.insideList marker content) := by
  intro before
  obtain ⟨result, course, completes⟩ := takes ((Change.enterList marker).apply before)
  exact ⟨result, .inside marker course, completes⟩

theorem Takes.sequence {computations : List (Render Text)} {each : List (List Node)}
    (takes : List.Forall₂ (fun nodes computation => stage.Takes nodes Assembled computation) each computations) :
    stage.Takes each.flatten Laid (Render.sequence computations) := by
  induction takes with
  | nil => exact .pure .nil
  | cons first rest ih =>
    refine first.bind fun texts line assembled => ?_
    exact ih.map fun more lines laid => .cons assembled laid

theorem Takes.mono {computation : Render α} {fits weaker : List Text → α → Prop}
    (takes : stage.Takes nodes fits computation)
    (implies : ∀ texts value, fits texts value → weaker texts value) : stage.Takes nodes weaker computation := by
  intro before
  obtain ⟨result, course, completes⟩ := takes before
  refine ⟨result, course, ?_⟩
  generalize (computation.runIn before).1 = outcome at completes
  cases result <;> cases outcome <;> first | exact implies _ _ completes | exact completes

end Stage

end Adocify.AsciiDoc
