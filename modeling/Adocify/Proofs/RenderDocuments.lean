import Adocify.Proofs.RenderBlocks

/-! Documents under a comparison. What a document's tree yields is kept apart from the header, which is
put together from the attributes at the end. -/

namespace Adocify.AsciiDoc

/-- What a document's own tree yields; there is a title if a heading was promoted. -/
structure TreeParts where
  title : Option Text
  prologue : List Text
  body : List Text

/-- The text of a heading that was promoted. -/
def promotedTitle (options : Options) (decision : DocumentStructure) (opening : Option (List Child)) :
    Render (Option Text) :=
  match decision.title.isSome, opening with
  | true, some heading => do
    let text ← inlineContent options heading
    return some text
  | _, _ => return none

def treeParts (options : Options) (decision : DocumentStructure) (opening : Option (List Child)) (children : List Child) :
    Render TreeParts := do
  let title ← promotedTitle options decision opening
  let prologue ← Child.renderPresent (children.take decision.prologue.length)
  let body ← Child.renderPresent (children.drop (children.length - decision.body.length))
  return ⟨title, prologue, body⟩

/-- The header of what the tree yields, for the attributes before and after the tree was rendered. -/
def TreeParts.header (parts : TreeParts) (before after : Attributes) : List Text :=
  headerLines (parts.title.or ((suppliedTitle before).map (·.display))) after

theorem documentParts_eq (options : Options) (nodes : List Node) (opening : Option (List Child)) (children : List Child) :
    documentParts options nodes opening children = do
      let decision ← decideStructure nodes
      let before ← get
      let parts ← treeParts options decision opening children
      let after ← get
      return ⟨parts.prologue, parts.header before.attributes after.attributes, parts.body⟩ := by
  unfold documentParts treeParts promotedTitle TreeParts.header
  congr 1
  funext decision
  congr 1
  funext before
  cases decision.title.isSome <;> cases opening <;> simp

/-- Texts that fit together in the parts of two documents. -/
structure TreeParts.Fit (text : Text → Text → Prop) (first second : TreeParts) : Prop where
  title : Option.Rel text first.title second.title
  prologue : List.Forall₂ text first.prologue second.prologue
  body : List.Forall₂ text first.body second.body

theorem TreeParts.Fit.eq {first second : TreeParts} (fit : TreeParts.Fit Eq first second) : first = second := by
  obtain ⟨title, prologue, body⟩ := fit
  rw [List.forall₂_eq_eq_eq] at prologue body
  obtain ⟨ownTitle, _, _⟩ := first
  obtain ⟨otherTitle, _, _⟩ := second
  obtain rfl : ownTitle = otherTitle := by
    cases title with
    | none => rfl
    | some same => rw [same]
  rw [TreeParts.mk.injEq]
  exact ⟨rfl, prologue, body⟩

namespace Interchangeable

variable {text : Text → Text → Prop} (laws : Interchangeable text)

include laws

theorem headerLines {title title' : Option Text} (same : Option.Rel text title title') (attributes : Attributes) :
    List.Forall₂ text (headerLines title attributes) (headerLines title' attributes) := by
  refine List.rel_append (List.rel_append ?_ (laws.sameTexts _)) (laws.sameTexts _)
  cases same with
  | none => exact .nil
  | @some a b agree =>
    cases shown : b.isEmpty with
    | true =>
      simp only [Option.filter, laws.isEmpty agree, shown]
      exact .nil
    | false =>
      simp only [Option.filter, laws.isEmpty agree, shown]
      exact .cons (laws.behind _ agree) .nil

theorem joinedParts {first second : DocumentParts} (prologue : List.Forall₂ text first.prologue second.prologue)
    (header : List.Forall₂ text first.header second.header) (body : List.Forall₂ text first.body second.body) :
    text first.join second.join := by
  have headers := laws.join ['\n'] header
  have lead := laws.join blankLine prologue
  have opening : text (if (Text.join blankLine first.prologue).isEmpty then Text.unlines first.header
        else Text.join blankLine first.prologue ++ '\n' :: Text.unlines first.header)
      (if (Text.join blankLine second.prologue).isEmpty then Text.unlines second.header
        else Text.join blankLine second.prologue ++ '\n' :: Text.unlines second.header) := by
    by_cases empty : (Text.join blankLine second.prologue).isEmpty = true
    · rw [if_pos empty, if_pos (laws.isEmpty lead ▸ empty)]
      exact headers
    · rw [if_neg empty, if_neg (laws.isEmpty lead ▸ empty)]
      exact laws.append lead (laws.cons '\n' headers)
  apply laws.join
  by_cases empty : (Text.unlines second.header).isEmpty = true
  · rw [if_pos empty, if_pos (laws.isEmpty headers ▸ empty)]
    exact List.rel_append prologue body
  · rw [if_neg empty, if_neg (laws.isEmpty headers ▸ empty)]
    exact .cons opening body

end Interchangeable

namespace Comparison.Lawful

variable {comparison : Comparison} {options : Options} {wrap : Wrap} (laws : comparison.Lawful options wrap)

include laws

theorem treeParts (decision : DocumentStructure) {opening opening' : Option (List Child)} {first second : List Child}
    (openings : Option.Rel comparison.Siblings opening opening') (siblings : comparison.Siblings first second) :
    comparison.Agree (TreeParts.Fit comparison.text) (treeParts options decision opening first)
      (treeParts (options.withWrap wrap) decision opening' second) := by
  have title : comparison.Agree (Option.Rel comparison.text)
      (promotedTitle options decision opening) (promotedTitle (options.withWrap wrap) decision opening') := by
    cases openings with
    | none => cases promoted : decision.title.isSome <;> simpa only [promotedTitle, promoted] using .pure .none
    | some heading =>
      cases promoted : decision.title.isSome with
      | true =>
        simp only [promotedTitle, promoted]
        exact .bind (laws.inlineContent heading) fun _ _ agree => .pure (.some agree)
      | false => simpa only [promotedTitle, promoted] using .pure .none
  simp only [AsciiDoc.treeParts, siblings.length_eq]
  refine .bind title fun _ _ titles => ?_
  refine .bind (laws.renderPresent (List.forall₂_take _ siblings)) fun _ _ prologue => ?_
  exact .bind (laws.renderPresent (List.forall₂_drop _ siblings)) fun _ _ body => .pure ⟨titles, prologue, body⟩

theorem decideStructure {nodes : List Node} (admitted : comparison.node (.document nodes)) :
    comparison.Agree Eq (decideStructure nodes) (decideStructure nodes) := by
  refine .bind (laws.modify admitted (.collect nodes) rfl) fun _ _ _ => ?_
  refine .bind .get fun context context' same => ?_
  simp only [← laws.attributes admitted same]
  refine .bind (laws.report _ _) fun _ _ _ => ?_
  refine .bind (laws.modify admitted (.classify _) trivial) fun _ _ _ => ?_
  split
  · exact .bind (laws.register .book) fun _ _ _ => .pure rfl
  · exact .pure rfl

/-- A document inside another takes its header from the attributes, which must then be the same. -/
theorem documentParts {nodes : List Node} (admitted : comparison.node (.document nodes))
    {opening opening' : Option (List Child)} {first second : List Child}
    (openings : Option.Rel comparison.Siblings opening opening') (siblings : comparison.Siblings first second) :
    comparison.Agree (fun parts parts' => comparison.text parts.join parts'.join)
      (documentParts options nodes opening first) (documentParts (options.withWrap wrap) nodes opening' second) := by
  rw [documentParts_eq, documentParts_eq]
  refine .bind (laws.decideStructure admitted) fun decision _ same => same ▸ ?_
  refine .bind .get fun before before' start => ?_
  refine .bind (laws.treeParts decision openings siblings) fun parts parts' fit => ?_
  refine .bind .get fun after after' last => ?_
  have titles : Option.Rel comparison.text (parts.title.or ((suppliedTitle before.attributes).map (·.display)))
      (parts'.title.or ((suppliedTitle before'.attributes).map (·.display))) := by
    obtain ⟨title, _, _⟩ := parts
    obtain ⟨title', _, _⟩ := parts'
    rw [← laws.attributes admitted start]
    cases fit.title with
    | some agree => exact .some agree
    | none => cases suppliedTitle before.attributes with
      | none => exact .none
      | some value => exact .some (laws.text.refl _)
  refine .pure (laws.text.joinedParts fit.prologue ?_ fit.body)
  simp only [TreeParts.header, ← laws.attributes admitted last]
  exact laws.text.headerLines titles after.attributes

end Comparison.Lawful

end Adocify.AsciiDoc
