import Adocify.Conversion

/-! The stages of a conversion that succeeds. The source is read and preprocessed, what it describes is rendered
with the attributes that the preprocessors leave, and the postprocessors amend the text. -/

namespace Adocify

namespace Logged

variable {α β : Type} {log after : List LogRecord}

/-- The computation succeeds with the value, and this is its log. -/
def Gives (computation : Logged α) (log : List LogRecord) (value : α) (after : List LogRecord) : Prop :=
  computation.run.run log = (.ok value, after)

theorem gives_bind {first : Logged α} {next : α → Logged β} {result : β} :
    (first >>= next).Gives log result after ↔
      ∃ value between, first.Gives log value between ∧ (next value).Gives between result after := by
  simp only [Gives, ExceptT.run_bind, StateT.run_bind]
  rcases first.run.run log with ⟨failure | value, between⟩
  · exact ⟨nofun, nofun⟩
  · exact ⟨fun given => ⟨value, between, rfl, given⟩, fun ⟨_, _, rfl, given⟩ => given⟩

theorem gives_pure {value result : α} : (pure value : Logged α).Gives log result after ↔ value = result ∧ log = after :=
  ⟨fun | rfl => ⟨rfl, rfl⟩, fun ⟨same, kept⟩ => same ▸ kept ▸ rfl⟩

theorem gives_lift {answer : Except Failure α} {result : α} :
    (liftM answer : Logged α).Gives log result after ↔ answer = .ok result ∧ log = after := by
  cases answer with
  | error failure => exact ⟨nofun, nofun⟩
  | ok value => exact ⟨fun | rfl => ⟨rfl, rfl⟩, fun | ⟨rfl, rfl⟩ => rfl⟩

theorem gives_debug {message : Text} {result : Unit} (ended : (Logged.debug message).Gives log result after) :
    after = log ++ [⟨.debug, message⟩] :=
  (congrArg Prod.snd ended).symm

end Logged

section

variable {given last : Attributes} {text : Text} {log after : List LogRecord}

theorem parseMarkdown_gives {tokenizer : Markdown.Tokenizer} {options : Markdown.Options} {children : List Node}
    (ended : (parseMarkdown tokenizer options text).Gives log children after) :
    Markdown.read tokenizer options text = .ok children := by
  obtain ⟨found, _, described, rest⟩ := Logged.gives_bind.mp ended
  obtain ⟨_, _, -, rest⟩ := Logged.gives_bind.mp rest
  obtain ⟨rfl, -⟩ := Logged.gives_pure.mp rest
  exact (Logged.gives_lift.mp described).1

theorem renderLogged_gives {options : AsciiDoc.Options} {node : Node} {rendered : Text}
    (ended : (renderLogged options given node).Gives log (rendered, last) after) :
    (AsciiDoc.render options given node).outcome = .ok rendered ∧
      last = (AsciiDoc.render options given node).context.attributes := by
  obtain ⟨_, _, -, rest⟩ := Logged.gives_bind.mp ended
  generalize AsciiDoc.render options given node = rendering at rest
  obtain ⟨outcome, context⟩ := rendering
  cases outcome with
  | error failure => cases rest
  | ok text =>
    obtain ⟨same, -⟩ := Logged.gives_pure.mp rest
    obtain ⟨rfl, rfl⟩ := Prod.mk.inj same
    exact ⟨rfl, rfl⟩

end

def normalizedNote (text : Text) : LogRecord :=
  ⟨.debug, "Normalized ".toList ++ Text.ofNat text.length ++ " characters of Markdown".toList⟩

/-- What a request comes to before anything is rendered: the document, and the attributes that go with it. -/
structure Preparation (request : ConversionRequest) where
  parserOptions : Markdown.Options
  rendererOptions : AsciiDoc.Options
  preprocessors : List Preprocessor
  source : Text
  prepared : Text
  attributes : Attributes
  children : List Node
  log : List LogRecord
  after : List LogRecord
  chosen : request.options = .ok (parserOptions, rendererOptions)
  enlisted : request.preprocessorsChosen = .ok preprocessors
  read : (request.source.readWith request.codecs request.encoding request.detection).Gives [] source log
  prepares : (Processor.applyAll (request.attributes.getD []) preprocessors (some source)).Gives
    (log ++ [normalizedNote source]) (some prepared, attributes) after
  describes : Markdown.read request.tokenizer parserOptions prepared = .ok children

namespace Preparation

variable {request : ConversionRequest}

def rendering (preparation : Preparation request) : AsciiDoc.Rendering :=
  AsciiDoc.render preparation.rendererOptions preparation.attributes (.document preparation.children)

end Preparation

/-- The text that postprocessors make of a rendered one. -/
def Amended (request : ConversionRequest) (document : ParsedDocument) (rendered result : Text) : Prop :=
  ∃ postprocessors before after, request.postprocessorsChosen = .ok postprocessors ∧
    (Processor.amendAll document postprocessors (Text.dropEndWhile (· == '\n') rendered)).Gives before result after

theorem converted_prepared {request : ConversionRequest} {last : Attributes} {text : Text} {after : List LogRecord}
    (ended : request.converted.Gives [] (text, last) after) :
    ∃ (preparation : Preparation request) (rendered result : Text),
      preparation.rendering.outcome = .ok rendered ∧ last = preparation.rendering.context.attributes ∧
      Amended request ⟨preparation.children, preparation.parserOptions⟩ rendered result ∧
      text = Text.endWithNewline result := by
  -- The stages are taken off in their order.
  obtain ⟨⟨parserOptions, rendererOptions⟩, _, first, ended⟩ := Logged.gives_bind.mp ended
  obtain ⟨chosen, rfl⟩ := Logged.gives_lift.mp first
  obtain ⟨preprocessors, _, second, ended⟩ := Logged.gives_bind.mp ended
  obtain ⟨enlisted, rfl⟩ := Logged.gives_lift.mp second
  obtain ⟨postprocessors, _, third, ended⟩ := Logged.gives_bind.mp ended
  obtain ⟨finishing, rfl⟩ := Logged.gives_lift.mp third
  obtain ⟨source, log, read, ended⟩ := Logged.gives_bind.mp ended
  obtain ⟨_, _, told, ended⟩ := Logged.gives_bind.mp ended
  obtain rfl := Logged.gives_debug told
  obtain ⟨⟨prepared, seeded⟩, between, prepares, ended⟩ := Logged.gives_bind.mp ended
  cases prepared with
  | none => cases ended
  | some prepared =>
    obtain ⟨children, _, described, ended⟩ := Logged.gives_bind.mp ended
    obtain ⟨_, _, -, ended⟩ := Logged.gives_bind.mp ended
    obtain ⟨⟨rendered, left⟩, _, rendering, ended⟩ := Logged.gives_bind.mp ended
    obtain ⟨succeeded, rfl⟩ := renderLogged_gives rendering
    obtain ⟨result, _, amended, ended⟩ := Logged.gives_bind.mp ended
    obtain ⟨same, -⟩ := Logged.gives_pure.mp ended
    obtain ⟨rfl, rfl⟩ := Prod.mk.inj same
    let preparation : Preparation request :=
      { parserOptions, rendererOptions, preprocessors, source, prepared, attributes := seeded, children, log,
        after := between, chosen, enlisted, read, prepares, describes := parseMarkdown_gives described }
    exact ⟨preparation, rendered, result, succeeded, rfl, ⟨postprocessors, _, _, finishing, amended⟩, rfl⟩

end Adocify
