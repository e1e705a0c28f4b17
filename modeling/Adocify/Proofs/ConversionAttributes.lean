import Adocify.Proofs.ConversionStages
import Adocify.Proofs.SessionAttributes

/-! The caller's attributes in a conversion. The front matter, the table of contents and the rendering each
register attributes in a copy. If every stage succeeds, what is new in the copy is appended to the caller's
attributes, and otherwise these stay as they were. -/

namespace Adocify

namespace FrontMatter

/-- The entries that metadata supply, in their order. -/
def supplied : Metadata → Except Failure Attributes
  | [] => .ok []
  | (key, value) :: rest => do
    let name ← writtenText key
    if isIgnored name then supplied rest
    else
      let text ← attributeText value
      return (attributeName name, .text text) :: (← supplied rest)

theorem seed_eq (attributes : Attributes) (metadata : Metadata) :
    seed attributes metadata = (supplied metadata).map attributes.registerAll := by
  induction metadata generalizing attributes with
  | nil => rfl
  | cons entry rest ih =>
    obtain ⟨key, value⟩ := entry
    simp only [seed, supplied, bind, Except.bind]
    rcases writtenText key with failure | name
    · rfl
    cases ignored : isIgnored name with
    | true => simpa only [ignored, if_true] using ih attributes
    | false =>
      simp only [ignored, Bool.false_eq_true, if_false]
      rcases attributeText value with failure | text
      · rfl
      simp only [ih]
      rcases supplied rest with failure | entries <;> rfl

/-- Each entry comes of a key and its value; a title has another name, and a layout is left out. -/
theorem supplied_entry {metadata : Metadata} {entries : Attributes} (supplies : supplied metadata = .ok entries)
    {entry : Text × Value} (member : entry ∈ entries) :
    ∃ key value name text, (key, value) ∈ metadata ∧ writtenText key = .ok name ∧ name ≠ "layout".toList ∧
      attributeText value = .ok text ∧ entry = (attributeName name, .text text) := by
  induction metadata generalizing entries with
  | nil =>
    obtain rfl := Except.ok.inj supplies
    cases member
  | cons first rest ih =>
    obtain ⟨key, value⟩ := first
    simp only [supplied, bind, Except.bind] at supplies
    rcases written : writtenText key with failure | name
    · simp [written] at supplies
    simp only [written] at supplies
    cases ignored : isIgnored name with
    | true =>
      simp only [ignored, if_true] at supplies
      obtain ⟨key, value, name, text, inside, found⟩ := ih supplies member
      exact ⟨key, value, name, text, .tail _ inside, found⟩
    | false =>
      simp only [ignored, Bool.false_eq_true, if_false] at supplies
      rcases shown : attributeText value with failure | text
      · simp [shown] at supplies
      rcases later : supplied rest with failure | others
      · simp [shown, later] at supplies
      simp only [shown, later, pure, Except.pure, Except.ok.injEq] at supplies
      subst supplies
      rcases List.mem_cons.mp member with rfl | inside
      · have other : name ≠ "layout".toList := by simpa [isIgnored] using ignored
        exact ⟨key, value, name, text, List.mem_cons_self, written, other, shown, rfl⟩
      · obtain ⟨key, value, name, text, within, found⟩ := ih later inside
        exact ⟨key, value, name, text, .tail _ within, found⟩

theorem extract_ok {loader : Loader} {text : Text} {given : Attributes} {extracted : Extracted}
    (ended : extract loader text (some given) = .ok extracted) :
    ∃ parsed entries, parse loader text = .ok parsed ∧ supplied parsed.metadata = .ok entries ∧
      extracted.text = parsed.body ∧ extracted.attributes = some (given.registerAll entries) := by
  simp only [extract, bind, Except.bind] at ended
  rcases read : parse loader text with failure | parsed
  · simp [read] at ended
  simp only [read, seed_eq] at ended
  split at ended
  next none =>
    obtain rfl := Except.ok.inj ended
    rw [List.isEmpty_iff] at none
    exact ⟨parsed, [], rfl, none ▸ rfl, rfl, rfl⟩
  next some =>
    rcases supplies : supplied parsed.metadata with failure | entries
    · simp [supplies, Except.map] at ended
    simp only [supplies, Except.map] at ended
    obtain rfl := Except.ok.inj ended
    exact ⟨parsed, entries, rfl, supplies, rfl, rfl⟩

end FrontMatter

namespace TableOfContents

/-- What is registered if there is a block to replace. -/
def placed (text : Text) : Attributes :=
  if (replaceFrom true text).isSome then [("toc".toList, .text "macro".toList)] else []

theorem replace_eq (text : Text) (attributes : Attributes) :
    replace text attributes = ((replaceFrom true text).getD text, attributes.registerAll (placed text)) := by
  unfold replace placed
  cases replaceFrom true text <;> rfl

end TableOfContents

section

variable {loader : FrontMatter.Loader} {given last : Attributes} {text : Text} {answer : Option Text}
  {log after : List LogRecord}

/-- A processor that takes a second argument. -/
theorem apply_gives {processor : Preprocessor} (takes : Parameters.takeSecond processor.parameters = true)
    (ended : (processor.apply (some text) given).Gives log (answer, last) after) :
    ∃ changed, (processor.run (some text) (some given)).Gives log (answer, changed) after ∧ last = changed.getD given := by
  rw [Processor.apply, if_pos takes, Logged.gives_bind] at ended
  obtain ⟨⟨found, changed⟩, between, ran, rest⟩ := ended
  obtain ⟨same, rfl⟩ := Logged.gives_pure.mp rest
  obtain ⟨rfl, rfl⟩ := Prod.mk.inj same
  exact ⟨changed, ran, rfl⟩

theorem frontMatter_gives
    (ended : ((Preprocessor.frontMatter loader).apply (some text) given).Gives log (answer, last) after) :
    ∃ parsed entries, FrontMatter.parse loader text = .ok parsed ∧
      FrontMatter.supplied parsed.metadata = .ok entries ∧
      answer = some parsed.body ∧ last = given.registerAll entries := by
  obtain ⟨changed, ran, rfl⟩ := apply_gives rfl ended
  obtain ⟨extracted, _, lifted, rest⟩ := Logged.gives_bind.mp ran
  obtain ⟨_, _, -, rest⟩ := Logged.gives_bind.mp rest
  obtain ⟨same, -⟩ := Logged.gives_pure.mp rest
  obtain ⟨rfl, rfl⟩ := Prod.mk.inj same
  obtain ⟨parsed, entries, read, supplies, body, registered⟩ :=
    FrontMatter.extract_ok (Logged.gives_lift.mp lifted).1
  exact ⟨parsed, entries, read, supplies, congrArg some body, congrArg (Option.getD · given) registered⟩

theorem tableOfContents_gives
    (ended : (Preprocessor.tableOfContents.apply (some text) given).Gives log (answer, last) after) :
    answer = some ((TableOfContents.replaceFrom true text).getD text) ∧
      last = given.registerAll (TableOfContents.placed text) := by
  obtain ⟨changed, ran, rfl⟩ := apply_gives rfl ended
  simp only [Preprocessor.tableOfContents, TableOfContents.replace_eq] at ran
  obtain ⟨same, -⟩ := Logged.gives_pure.mp ran
  obtain ⟨rfl, rfl⟩ := Prod.mk.inj same
  exact ⟨rfl, rfl⟩

theorem usual_gives
    (ended : (Processor.applyAll given (Preprocessor.usual loader) (some text)).Gives log (answer, last) after) :
    ∃ parsed entries, FrontMatter.parse loader text = .ok parsed ∧
      FrontMatter.supplied parsed.metadata = .ok entries ∧
      answer = some ((TableOfContents.replaceFrom true parsed.body).getD parsed.body) ∧
      last = given.registerAll (entries ++ TableOfContents.placed parsed.body) := by
  obtain ⟨⟨cut, seeded⟩, _, first, rest⟩ := Logged.gives_bind.mp ended
  obtain ⟨parsed, entries, read, supplies, rfl, rfl⟩ := frontMatter_gives first
  obtain ⟨⟨replaced, placed⟩, _, second, rest⟩ := Logged.gives_bind.mp rest
  obtain ⟨rfl, rfl⟩ := tableOfContents_gives second
  obtain ⟨same, -⟩ := Logged.gives_pure.mp rest
  obtain ⟨rfl, rfl⟩ := Prod.mk.inj same
  exact ⟨parsed, entries, read, supplies, rfl, (Attributes.registerAll_append given entries _).symm⟩

end

/-- How the attributes of a conversion come about that keeps to the usual preprocessors. -/
structure Derivation (request : ConversionRequest) (given : Attributes) where
  parserOptions : Markdown.Options
  rendererOptions : AsciiDoc.Options
  text : Text
  log : List LogRecord
  parsed : FrontMatter.Parsed
  supplied : Attributes
  children : List Node
  rendered : Attributes
  chosen : request.options = .ok (parserOptions, rendererOptions)
  read : (request.source.readWith request.codecs request.encoding request.detection).Gives [] text log
  parses : FrontMatter.parse request.loader text = .ok parsed
  supplies : FrontMatter.supplied parsed.metadata = .ok supplied
  describes : Markdown.read request.tokenizer parserOptions
    ((TableOfContents.replaceFrom true parsed.body).getD parsed.body) = .ok children
  registrable : AsciiDoc.AllRegistrable rendererOptions rendered
  registers :
    let before := given.registerAll (supplied ++ TableOfContents.placed parsed.body)
    (AsciiDoc.render rendererOptions before (.document children)).context.attributes = before.registerAll rendered

namespace Derivation

variable {request : ConversionRequest} {given : Attributes} (derivation : Derivation request given)

def front : Attributes := Attributes.fresh given.names derivation.supplied

def contents : Attributes :=
  Attributes.fresh (given ++ derivation.front).names (TableOfContents.placed derivation.parsed.body)

def registered : Attributes :=
  Attributes.fresh (given ++ derivation.front ++ derivation.contents).names derivation.rendered

theorem registerAll_eq :
    given.registerAll (derivation.supplied ++ TableOfContents.placed derivation.parsed.body ++ derivation.rendered) =
      given ++ derivation.front ++ derivation.contents ++ derivation.registered := by
  simp only [Attributes.registerAll_append]
  rw [Attributes.registerAll_eq given, Attributes.registerAll_eq, Attributes.registerAll_eq]
  rfl

end Derivation

theorem converted_gives {request : ConversionRequest} {given last : Attributes} {text : Text} {after : List LogRecord}
    (owned : request.attributes = some given) (usual : request.preprocessors = none)
    (ended : request.converted.Gives [] (text, last) after) :
    ∃ derivation : Derivation request given,
      last = given ++ derivation.front ++ derivation.contents ++ derivation.registered := by
  obtain ⟨⟨parserOptions, rendererOptions, preprocessors, source, prepared, seeded, children, log, _, chosen, enlisted,
    read, prepares, describes⟩, rendered, result, -, rfl, -, -⟩ := converted_prepared ended
  rw [ConversionRequest.preprocessorsChosen, usual] at enlisted
  obtain rfl := Except.ok.inj enlisted
  rw [owned, Option.getD_some] at prepares
  obtain ⟨parsed, supplied, parses, supplies, answered, rfl⟩ := usual_gives prepares
  obtain rfl := Option.some.inj answered
  obtain ⟨entries, registrable, registers⟩ := AsciiDoc.render_appends rendererOptions
    (given.registerAll (supplied ++ TableOfContents.placed parsed.body)) (.document children)
  let derivation : Derivation request given :=
    { parserOptions, rendererOptions, text := source, log, parsed, supplied, children, rendered := entries, chosen, read,
      parses, supplies, describes, registrable, registers }
  refine ⟨derivation, ?_⟩
  simp only [Preparation.rendering]
  rw [registers, ← Attributes.registerAll_append]
  exact derivation.registerAll_eq

/-- A conversion that fails, at whatever stage, leaves the caller's attributes as they were. One that succeeds
with the usual preprocessors appends to them, each only where its name was new: what the front matter supplies,
then the place of the table of contents, then what the rendering registers. -/
theorem attributes_all_or_nothing (request : ConversionRequest) (files : FileTree) :
    (∀ failure, (convert request files).outcome = .error failure →
      (convert request files).attributes = request.attributes) ∧
    ∀ given answer, request.attributes = some given → given.names.Nodup → request.preprocessors = none →
      (convert request files).outcome = .ok answer →
      ∃ derivation : Derivation request given,
        (convert request files).attributes =
          some (given ++ derivation.front ++ derivation.contents ++ derivation.registered) ∧
        ∀ entry ∈ derivation.front, entry.1 ∉ given.names ∧
          ∃ key value name text, (key, value) ∈ derivation.parsed.metadata ∧
            FrontMatter.writtenText key = .ok name ∧ name ≠ "layout".toList ∧
            FrontMatter.attributeText value = .ok text ∧ entry = (FrontMatter.attributeName name, .text text) := by
  unfold convert
  rcases ended : request.converted.run.run [] with ⟨failure | ⟨text, last⟩, log⟩
  · exact ⟨fun _ _ => rfl, fun _ _ _ _ _ succeeded => nomatch succeeded⟩
  simp only
  cases delivered : (request.destination.deliver files text).outcome with
  | error failure => exact ⟨fun _ _ => rfl, fun _ _ _ _ _ succeeded => nomatch succeeded⟩
  | ok answer =>
    refine ⟨fun failure failed => (nomatch failed), fun given _ owned distinct usual _ => ?_⟩
    obtain ⟨derivation, rfl⟩ := converted_gives owned usual ended
    refine ⟨derivation, ?_, fun entry member => ?_⟩
    · rw [owned, ← derivation.registerAll_eq, Option.map_some, Attributes.update_registerAll distinct]
    · obtain ⟨inside, new⟩ := Attributes.mem_fresh member
      exact ⟨new, FrontMatter.supplied_entry derivation.supplies inside⟩

/-- Front matter with two titles, with a layout, and with a name that the caller has given already. -/
def suppliedPage : ConversionRequest where
  source := .text <| "+++\ntitle = 'A'\ndoctitle = 'B'\nlayout = 1\nuser = 2\ntags = ['a', 1]\n+++\n".toList ++
    "<!-- TOC -->\n<!-- /TOC -->\n\n**File > Save**\n".toList
  attributes := some [("user".toList, .text "me".toList)]

def suppliedAttributes : List (Text × Text) :=
  [("user".toList, "me".toList), ("doctitle".toList, "A".toList), ("tags".toList, "a, 1".toList),
    ("toc".toList, "macro".toList), ("experimental".toList, [])]

theorem attributes_all_or_nothing_page :
    let full : OutputStream := { name := "out".toList, make := .textBuffer, full := true }
    let refused := convert { suppliedPage with destination := .toStream full } {}
    let succeeded := convert suppliedPage {}
    refused.outcome = .error (.outputWrite "out".toList none (some .noSpace)) ∧
    refused.attributes = suppliedPage.attributes ∧
    (∃ derivation : Derivation suppliedPage [("user".toList, .text "me".toList)],
      succeeded.attributes = some ([("user".toList, .text "me".toList)] ++ derivation.front ++ derivation.contents ++
        derivation.registered)) ∧
    succeeded.attributes.map (·.map fun entry => (entry.1, entry.2.display)) = some suppliedAttributes := by
  intro full refused succeeded
  have refusal : refused.outcome = .error (.outputWrite "out".toList none (some .noSpace)) := by decide +kernel
  have success : succeeded.outcome = .ok (some ("= A\n:user: me\n:tags: a, 1\n:toc: macro\n:experimental:\n\n".toList ++
      "toc::[]\n\nmenu:File[Save]\n".toList)) ∧
      succeeded.attributes.map (·.map fun entry => (entry.1, entry.2.display)) = some suppliedAttributes := by
    decide +kernel
  have kept := (attributes_all_or_nothing { suppliedPage with destination := .toStream full } {}).1 _ refusal
  obtain ⟨derivation, extended, -⟩ :=
    (attributes_all_or_nothing suppliedPage {}).2 _ _ rfl (List.nodup_singleton _) rfl success.1
  exact ⟨refusal, kept, ⟨derivation, extended⟩, success.2⟩

end Adocify
