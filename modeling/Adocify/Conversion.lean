import Adocify.AsciiDoc.Render
import Adocify.Destination
import Adocify.FrontMatter.Metadata
import Adocify.Markdown.Tokenizer
import Adocify.Processor
import Adocify.Source
import Adocify.TableOfContents

/-! Conversion of Markdown to AsciiDoc: the source becomes a text, preprocessors change it, it is
parsed and rendered, postprocessors change the result, and that is delivered. Attributes are worked
on in a copy; the caller's own are changed only when everything has succeeded. -/

namespace Adocify

/-- A document as it was parsed. -/
structure ParsedDocument where
  children : List Node
  options : Markdown.Options
  deriving Repr

abbrev Preprocessor := Processor Attributes

abbrev Postprocessor := Processor ParsedDocument

namespace Preprocessor

def frontMatter (loader : FrontMatter.Loader) : Preprocessor where
  parameters := some ⟨2, false⟩
  run
    | none, _ => throw .misplaced
    | some text, attributes => do
      let extracted ← liftM (FrontMatter.extract loader text attributes)
      Logged.report extracted.log
      return (some extracted.text, extracted.attributes)

def tableOfContents : Preprocessor where
  parameters := some ⟨2, false⟩
  run
    | none, _ => throw .illTyped
    | some text, attributes =>
      let (text, changed) := TableOfContents.replace text (attributes.getD [])
      return (some text, attributes.map fun _ => changed)

/-- The preprocessors that run where the caller chooses none of his own. -/
def usual (loader : FrontMatter.Loader) : List Preprocessor := [frontMatter loader, tableOfContents]

end Preprocessor

/-- What a conversion relies on and does not decide itself. -/
structure Tools where
  tokenizer : Markdown.Tokenizer := .usual
  loader : FrontMatter.Loader := .usual
  codecs : Codecs := Charset.codecs
  /-- What a detector says of the source, if there is a detector. -/
  detection : Option Detection := none

/-- What to convert and how. -/
structure ConversionRequest extends Tools where
  source : Source
  destination : Destination := .caller
  /-- The caller's attributes, if there are any to be kept up to date. -/
  attributes : Option Attributes := none
  preprocessors : Option (ProcessorChoice Attributes) := none
  postprocessors : ProcessorChoice ParsedDocument := .other .null
  /-- Further postprocessors, which run last. -/
  finishers : ProcessorChoice ParsedDocument := .other .null
  encoding : Option Text := none
  parserSettings : Settings := Markdown.Options.defaults
  rendererSettings : Settings := AsciiDoc.Options.defaults
  /-- Single options, each for the component that has one of that name. -/
  overrides : List (Text × Value) := []

/-- What is left after an attempt to convert. -/
structure Conversion where
  outcome : Except Failure (Option Text)
  attributes : Option Attributes
  destination : Destination
  files : FileTree
  log : List LogRecord

namespace ConversionRequest

/-- The options in force. Overrides that name no option of the parser are the renderer's. -/
def options (request : ConversionRequest) : Except Failure (Markdown.Options × AsciiDoc.Options) := do
  let (parser, renderer) :=
    request.overrides.partition fun (name, _) => (Markdown.Options.defaults.lookup name).isSome
  let parserSettings ←
    if parser.isEmpty then pure request.parserSettings else Markdown.Options.amend request.parserSettings parser
  let rendererSettings ←
    if renderer.isEmpty then pure request.rendererSettings
    else AsciiDoc.Options.amend request.rendererSettings renderer
  return (Markdown.Options.ofSettings parserSettings, AsciiDoc.Options.ofSettings rendererSettings)

def preprocessorsChosen (request : ConversionRequest) : Except Failure (List Preprocessor) :=
  match request.preprocessors with
  | none => .ok (Preprocessor.usual request.loader)
  | some choice => choice.processors "preprocessors"

def postprocessorsChosen (request : ConversionRequest) : Except Failure (List Postprocessor) := do
  let own ← request.postprocessors.processors "postprocessors"
  let finishers ← request.finishers.processors "postprocess"
  return own ++ finishers

end ConversionRequest

/-- The children of the document that a Markdown text describes. -/
def parseMarkdown (tokenizer : Markdown.Tokenizer) (options : Markdown.Options) (text : Text) : Logged (List Node) := do
  let children ← liftM (Markdown.read tokenizer options text)
  Logged.debug ("Parsed ".toList ++ Text.ofNat children.length ++ " top-level blocks (".toList ++
    options.flavorName ++ " input)".toList)
  return children

/-- Renders a document, and answers the attributes that the rendering leaves as well. -/
def renderLogged (options : AsciiDoc.Options) (attributes : Attributes) (node : Node) :
    Logged (Text × Attributes) := do
  let rendering := AsciiDoc.render options attributes node
  Logged.report rendering.context.log
  match rendering.outcome with
  | .error failure => throw failure
  | .ok text => return (text, rendering.context.attributes)

/-- Delivers what was rendered, its end settled once more. There is no answer; a text that goes to no file
and no stream is lost. -/
def deliverRendering (rendering : AsciiDoc.Rendering) (destination : Destination) (files : FileTree) : Delivery :=
  match rendering.outcome with
  | .error failure => { outcome := .error failure, destination, files, log := rendering.context.log }
  | .ok text =>
    let delivery := destination.deliver files (Text.endWithNewline text)
    { delivery with outcome := delivery.outcome.map fun _ => none, log := rendering.context.log ++ delivery.log }

namespace ConversionRequest

/-- The converted text and the attributes that the conversion leaves. -/
def converted (request : ConversionRequest) : Logged (Text × Attributes) := do
  let (parserOptions, rendererOptions) ← liftM request.options
  let preprocessors ← liftM request.preprocessorsChosen
  let postprocessors ← liftM request.postprocessorsChosen
  let text ← request.source.readWith request.codecs request.encoding request.detection
  Logged.debug ("Normalized ".toList ++ Text.ofNat text.length ++ " characters of Markdown".toList)
  let (prepared, attributes) ← Processor.applyAll (request.attributes.getD []) preprocessors (some text)
  match prepared with
  | none => throw .misplaced
  | some prepared =>
    let children ← parseMarkdown request.tokenizer parserOptions prepared
    Logged.debug ("Parsed ".toList ++ Text.ofNat children.length ++ " top-level block(s)".toList)
    let (rendered, attributes) ← renderLogged rendererOptions attributes (.document children)
    let result ← Processor.amendAll ⟨children, parserOptions⟩ postprocessors
      (Text.dropEndWhile (· == '\n') rendered)
    return (Text.endWithNewline result, attributes)

end ConversionRequest

/-- Converts and delivers. -/
def convert (request : ConversionRequest) (files : FileTree) : Conversion :=
  match request.converted.run.run [] with
  | (.error failure, log) => ⟨.error failure, request.attributes, request.destination, files, log⟩
  | (.ok (text, attributes), log) =>
    let delivery := request.destination.deliver files text
    let log := log ++ delivery.log
    match delivery.outcome with
    | .error failure => ⟨.error failure, request.attributes, delivery.destination, delivery.files, log⟩
    | .ok answer =>
      let attributes := request.attributes.map (·.update attributes)
      ⟨.ok answer, attributes, delivery.destination, delivery.files, log⟩

end Adocify
