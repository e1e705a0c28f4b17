import Mathlib.Data.List.Forall2
import Adocify.Proofs.RenderLogic
import Adocify.Proofs.TextSqueezing

/-! Two renderings side by side. A comparison says which contexts, texts and failures of two runs fit
together; its laws say that every elementary step keeps the contexts fitting. What both runs do with
a tree is then settled once for all comparisons, and a claim about rendering supplies the laws. A
claim about single runs compares a run with itself. -/

namespace Adocify.AsciiDoc

/-- The attributes that rendering may register, each with the only value it takes. -/
inductive Registrable (options : Options) : Text → Value → Prop where
  | experimental : Registrable options AsciiDoc.experimental.toList (.text [])
  | imagesDirectory {directory : Text} (given : options.imagesDirectory = some directory) :
      Registrable options "imagesdir".toList (.text (trimSlashes directory))
  | book : Registrable options doctype (.text "book".toList)

/-- The elementary changes of a context. -/
inductive Change where
  | note (records : List LogRecord)
  | register (name : String) (value : Value)
  | enterList (marker : Char)
  | leaveList
  | enterSection (level : Whole)
  | beginTable (width : Int)
  | emit (identifier : Text)
  | collect (nodes : List Node)
  | classify (book : Bool)

namespace Change

def apply : Change → Context → Context
  | .note records, context => { context with log := context.log ++ records }
  | .register name value, context =>
    { context with attributes := context.attributes.register name.toList value }
  | .enterList marker, context => { context with listStack := marker :: context.listStack }
  | .leaveList, context => { context with listStack := context.listStack.tail }
  | .enterSection level, context =>
    { context with
      sectionLevel := if isDiscrete context.sectionLevel level then context.sectionLevel else level
      headings := ⟨level, isDiscrete context.sectionLevel level⟩ :: context.headings }
  | .beginTable width, context => { context with tableColumns := width }
  | .emit identifier, context => { context with emitted := context.emitted ++ [identifier] }
  | .collect nodes, context => { context with footnotes := context.footnotes.collect (.document nodes) }
  | .classify book, context => { context with book := some book }

/-- The changes that the rendering of a node may make by itself. -/
def ArisesAt (options : Options) : Change → Node → Prop
  | .note _, _ => True
  | .register name value, _ => Registrable options name.toList value
  | .enterList _, .list .. | .leaveList, .list .. => True
  | .enterSection level, .heading other _ => level = other
  | .beginTable _, .table .. => True
  | .emit identifier, .footnoteReference other => identifier = other
  | .collect nodes, .document others => nodes = others
  | .classify _, .document _ => True
  | _, _ => False

end Change

/-- All that rendering reads of a context below the document itself. -/
structure SameView (first second : Context) : Prop where
  listStack : first.listStack = second.listStack
  sectionLevel : first.sectionLevel = second.sectionLevel
  tableColumns : first.tableColumns = second.tableColumns
  footnotes : first.footnotes = second.footnotes
  emitted : first.emitted = second.emitted

/-- Texts that go through everything rendering does with a finished text. -/
structure Interchangeable (text : Text → Text → Prop) : Prop where
  refl : ∀ content, text content content
  append : ∀ {a b c d}, text a b → text c d → text (a ++ c) (b ++ d)
  isEmpty : ∀ {a b}, text a b → a.isEmpty = b.isEmpty
  head : ∀ {a b}, text a b → ∀ {visible : Char → Bool}, (∀ c, Text.isBreak c = true → visible c = false) →
    a.head?.any visible = b.head?.any visible
  last : ∀ {a b}, text a b → ∀ {visible : Char → Bool}, (∀ c, Text.isBreak c = true → visible c = false) →
    a.getLast?.any visible = b.getLast?.any visible
  substitute : ∀ {a b}, text a b → ∀ old new,
    (Text.isBreak old = true → new ≠ [] ∧ ∀ c ∈ new, Text.isBreak c = true) →
    text (Text.substitute old new a) (Text.substitute old new b)
  stripRight : ∀ {a b}, text a b → text (Text.stripRight a) (Text.stripRight b)

theorem Interchangeable.equal : Interchangeable Eq where
  refl _ := rfl
  append := by rintro _ _ _ _ rfl rfl; rfl
  isEmpty := by rintro _ _ rfl; rfl
  head := by rintro _ _ rfl _ _; rfl
  last := by rintro _ _ rfl _ _; rfl
  substitute := by rintro _ _ rfl _ _ _; rfl
  stripRight := by rintro _ _ rfl; rfl

def Options.withWrap (options : Options) (wrap : Wrap) : Options := { options with wrap }

def wrapped (options : Options) (text : Text) : Text := if options.wrap = .ventilate then ventilate text else text

structure Comparison where
  /-- The trees that are compared. -/
  node : Node → Prop
  /-- The footnotes that their contexts may hold. -/
  definition : Text → List Node → Prop
  context : Context → Context → Prop
  text : Text → Text → Prop
  /-- The failures that may end both runs. -/
  failure : Failure → Prop

namespace Comparison

/-- The options of the two runs differ at most in how they wrap lines. -/
structure Lawful (comparison : Comparison) (options : Options) (wrap : Wrap) : Prop where
  text : Interchangeable comparison.text
  lineBreak : ∀ soft, comparison.text (lineBreak options soft) (lineBreak (options.withWrap wrap) soft)
  wrapped : ∀ {a b}, comparison.text a b →
    comparison.text (wrapped options a) (wrapped (options.withWrap wrap) b)
  change : ∀ (change : Change) {node}, comparison.node node → change.ArisesAt options node →
    ∀ {first second}, comparison.context first second → comparison.context (change.apply first) (change.apply second)
  view : ∀ {first second}, comparison.context first second → SameView first second
  attributes : ∀ {nodes}, comparison.node (.document nodes) →
    ∀ {first second}, comparison.context first second → first.attributes = second.attributes
  defined : ∀ {first second identifier content}, comparison.context first second →
    first.footnotes.lookup identifier = some content → comparison.definition identifier content
  literal : ∀ content, comparison.node (.text content)
  child : ∀ {parent child}, comparison.node parent → child ∈ parent.children → comparison.node child
  misplaced : comparison.failure .misplaced
  illTyped : comparison.failure .illTyped
  foreign : ∀ {kind content location}, comparison.node (.foreign kind content location) →
    comparison.failure (.unsupportedNode kind (location.map (·.describe)))
  stray : ∀ {kind}, comparison.node (.stray kind) → comparison.failure (.unsupportedNode kind none)

variable {α β γ δ : Type}

/-- Two ends of a computation that fit together. -/
inductive Meet (comparison : Comparison) (value : α → β → Prop) :
    Except Failure α × Context → Except Failure β × Context → Prop where
  | ok {x y first second} (same : value x y) (context : comparison.context first second) :
      Meet comparison value (.ok x, first) (.ok y, second)
  | error {failure first second} (allowed : comparison.failure failure) (context : comparison.context first second) :
      Meet comparison value (.error failure, first) (.error failure, second)

theorem Meet.context {comparison : Comparison} {value : α → β → Prop} {first second}
    (met : comparison.Meet value first second) : comparison.context first.2 second.2 := by
  cases met with
  | ok same context => exact context
  | error allowed context => exact context

theorem Meet.equal {comparison : Comparison} {first second : Except Failure α × Context}
    (met : comparison.Meet Eq first second) : first.1 = second.1 := by
  cases met with
  | ok same context => rw [same]
  | error allowed context => rfl

theorem Meet.allowed {comparison : Comparison} {value : α → β → Prop} {first second}
    (met : comparison.Meet value first second) {failure : Failure} (failed : first.1 = .error failure) :
    comparison.failure failure := by
  cases met with
  | ok same context => cases failed
  | error allowed context =>
    cases failed
    exact allowed

/-- From contexts that fit together the two computations reach ends that fit together. -/
def Agree (comparison : Comparison) (value : α → β → Prop) (first : Render α) (second : Render β) : Prop :=
  ∀ before before', comparison.context before before' →
    comparison.Meet value (first.runIn before) (second.runIn before')

namespace Agree

variable {comparison : Comparison} {value : α → β → Prop}

theorem pure {x : α} {y : β} (same : value x y) : comparison.Agree value (pure x) (pure y) :=
  fun _ _ context => .ok same context

theorem bind {first : Render α} {second : Render β} {next : α → Render γ} {next' : β → Render δ} {result : γ → δ → Prop}
    (agree : comparison.Agree value first second)
    (rest : ∀ x y, value x y → comparison.Agree result (next x) (next' y)) :
    comparison.Agree result (first >>= next) (second >>= next') := by
  intro before before' context
  have met := agree before before' context
  rw [Render.runIn_bind, Render.runIn_bind]
  generalize first.runIn before = here at met
  generalize second.runIn before' = there at met
  cases met with
  | ok same context => exact rest _ _ same _ _ context
  | error allowed context => exact .error allowed context

theorem mono {weaker : α → β → Prop} {first : Render α} {second : Render β} (agree : comparison.Agree value first second)
    (implies : ∀ x y, value x y → weaker x y) : comparison.Agree weaker first second := by
  intro before before' context
  have met := agree before before' context
  generalize first.runIn before = here at met
  generalize second.runIn before' = there at met
  cases met with
  | ok same context => exact .ok (implies _ _ same) context
  | error allowed context => exact .error allowed context

/-- Agreement has to do with contexts and failures only. -/
theorem along {other : Comparison} {first : Render α} {second : Render β} (agree : comparison.Agree value first second)
    (contexts : other.context = comparison.context)
    (failures : ∀ failure, comparison.failure failure → other.failure failure) : other.Agree value first second := by
  intro before before' context
  have met := agree before before' (contexts ▸ context)
  generalize first.runIn before = here at met
  generalize second.runIn before' = there at met
  cases met with
  | ok same context => exact .ok same (contexts ▸ context)
  | error allowed context => exact .error (failures _ allowed) (contexts ▸ context)

theorem fail {failure : Failure} (allowed : comparison.failure failure) :
    comparison.Agree value (throw failure) (throw failure) :=
  fun _ _ context => .error allowed context

theorem get : comparison.Agree comparison.context get get := fun _ _ context => .ok context context

theorem lift {result : Except Failure α} (allowed : ∀ failure, result = .error failure → comparison.failure failure) :
    comparison.Agree Eq (liftM result) (liftM result) := by
  intro before before' context
  rw [Render.runIn_liftM, Render.runIn_liftM]
  cases result with
  | ok value => exact .ok rfl context
  | error failure => exact .error (allowed failure rfl) context

/-- Several computations in a row agree if each pair does. -/
theorem sequence {first : List (Render α)} {second : List (Render β)}
    (agree : List.Forall₂ (comparison.Agree value) first second) :
    comparison.Agree (List.Forall₂ value) (Render.sequence first) (Render.sequence second) := by
  induction agree with
  | nil => exact pure .nil
  | cons head tail ih =>
    refine bind head fun x y same => ?_
    exact bind ih fun xs ys others => pure (.cons same others)

end Agree

namespace Lawful

variable {comparison : Comparison} {options : Options} {wrap : Wrap}

theorem modify (laws : comparison.Lawful options wrap) {node : Node} (admitted : comparison.node node) (change : Change)
    (arises : change.ArisesAt options node) :
    comparison.Agree Eq (modify change.apply : Render Unit) (modify change.apply : Render Unit) :=
  fun _ _ context => .ok rfl (laws.change change admitted arises context)

theorem report (laws : comparison.Lawful options wrap) (level : LogLevel) (message : Text) :
    comparison.Agree Eq (Render.report level message) (Render.report level message) :=
  laws.modify (laws.literal []) (.note [⟨level, message⟩]) trivial

theorem register (laws : comparison.Lawful options wrap) {name : String} {value : Value}
    (registrable : Registrable options name.toList value) :
    comparison.Agree Eq (Render.register name value) (Render.register name value) :=
  laws.modify (laws.literal []) (.register name value) registrable

theorem insideList (laws : comparison.Lawful options wrap) {ordered items start tight}
    (admitted : comparison.node (.list ordered items start tight)) (marker : Char) {value : α → β → Prop}
    {first : Render α} {second : Render β} (agree : comparison.Agree value first second) :
    comparison.Agree value (Render.insideList marker first) (Render.insideList marker second) := by
  intro before before' context
  have met := agree _ _ (laws.change (.enterList marker) admitted trivial context)
  rw [Render.runIn_insideList, Render.runIn_insideList]
  simp only [Change.apply] at met
  generalize first.runIn _ = here at met
  generalize second.runIn _ = there at met
  have left : ∀ {after after'}, comparison.context after after' →
      comparison.context (Change.leaveList.apply after) (Change.leaveList.apply after') :=
    laws.change .leaveList admitted trivial
  cases met with
  | ok same context => exact .ok same (left context)
  | error allowed context => exact .error allowed (left context)

end Lawful

end Comparison

end Adocify.AsciiDoc
