import Mathlib.Data.List.Forall2
import Adocify.Proofs.TokenReadings

/-! The entries into which a definition list is divided. Its heads and items stand in one row. An entry begins with each
head and takes in the items up to the next one, so that of a row in which a head leads nothing is lost. -/

namespace Adocify.Markdown

open DefinitionPart (leading entries)

/-- The node that a head or an item of a definition list becomes. -/
inductive Becomes : Token → Node → Prop where
  | term {literal tight details children nodes} (reads : Reads (inlineNodes children) nodes) :
      Becomes (.element .definitionHead literal tight details children) (.definitionTerm nodes)
  | description {literal tight details children nodes} (describes : Describes children nodes) :
      Becomes (.element .definitionItem literal tight details children) (.definitionDescription nodes)

/-- A head or an item. -/
def Token.isPart (token : Token) : Bool := token.isHead || token.isItem

theorem Token.not_isPart {token : Token} (noHead : token.isHead = false) (noItem : token.isItem = false) :
    ¬token.isPart = true := by
  rw [isPart, noHead, noItem]
  exact Bool.false_ne_true

/-- Of the heads and items the first is a head. -/
def HeadLeads (tokens : List Token) : Prop := ∀ first ∈ tokens.find? Token.isPart, first.isHead = true

/-- The nodes are what the items of the stretch become, in order. -/
def ItemsBecome (stretch : List Token) (nodes : List Node) : Prop :=
  List.Forall₂ Becomes (stretch.filter Token.isItem) nodes

/-- What the entries of a definition list keep of its heads and items. -/
structure Kept (tokens : List Token) (entries : List (Node × List Node)) : Prop where
  /-- The terms are what the heads become, in order. -/
  terms : List.Forall₂ Becomes (tokens.filter Token.isHead) (entries.map (·.1))
  /-- The heads divide the tokens into stretches, the first of which comes before all of them. The descriptions of an
  entry are what the items in the stretch behind its head become. -/
  descriptions : List.Forall₂ ItemsBecome (tokens.splitOnP Token.isHead).tail (entries.map (·.2))
  /-- Read in a row, the entries are what all heads and items become, exactly if a head leads. -/
  row : List.Forall₂ Becomes (tokens.filter Token.isPart) (Node.entryChildren entries) ↔ HeadLeads tokens

def DefinitionPart.node : DefinitionPart → Node
  | .term content => .definitionTerm content
  | .description content => .definitionDescription content

/-- The entries leave out nothing but the descriptions before the first term. -/
theorem DefinitionPart.leading_entries (parts : List DefinitionPart) :
    leading parts ++ Node.entryChildren (entries parts) = parts.map node := by
  induction parts with
  | nil => rfl
  | cons part rest ih =>
    rw [List.map_cons, ← ih]
    cases part <;> rfl

namespace Parted

variable {tokens : List Token} {parts : List DefinitionPart}

theorem terms (parted : Parted tokens parts) :
    List.Forall₂ Becomes (tokens.filter Token.isHead) ((entries parts).map (·.1)) := by
  induction parted with
  | nil => exact .nil
  | term reads _ ih => exact .cons (.term reads) ih
  | description _ _ ih => exact ih
  | other noHead _ _ ih =>
    rw [List.filter_cons_of_neg (Bool.eq_false_iff.mp noHead)]
    exact ih

theorem stretches (parted : Parted tokens parts) :
    List.Forall₂ ItemsBecome (tokens.splitOnP Token.isHead) (leading parts :: (entries parts).map (·.2)) := by
  induction parted with
  | nil => exact .cons .nil .nil
  | term reads _ ih =>
    simp only [List.splitOnP_cons_eq_if_modifyHead, Token.isHead, if_true]
    exact .cons .nil ih
  | description describes _ ih =>
    obtain ⟨stretch, behind, here, others, same⟩ := List.forall₂_cons_right_iff.mp ih
    simp only [List.splitOnP_cons_eq_if_modifyHead, Token.isHead, Bool.false_eq_true, if_false, same]
    exact .cons (.cons (.description describes) here) others
  | other noHead noItem _ ih =>
    obtain ⟨stretch, behind, here, others, same⟩ := List.forall₂_cons_right_iff.mp ih
    rw [List.splitOnP_cons_eq_if_modifyHead, if_neg (Bool.eq_false_iff.mp noHead), same]
    refine .cons ?_ others
    rw [ItemsBecome, List.filter_cons_of_neg (Bool.eq_false_iff.mp noItem)]
    exact here

theorem row (parted : Parted tokens parts) :
    List.Forall₂ Becomes (tokens.filter Token.isPart) (parts.map DefinitionPart.node) := by
  induction parted with
  | nil => exact .nil
  | term reads _ ih => exact .cons (.term reads) ih
  | description describes _ ih => exact .cons (.description describes) ih
  | other noHead noItem _ ih =>
    rw [List.filter_cons_of_neg (Token.not_isPart noHead noItem)]
    exact ih

theorem leading_iff (parted : Parted tokens parts) : leading parts = [] ↔ HeadLeads tokens := by
  induction parted with
  | nil => exact ⟨fun _ => nofun, fun _ => rfl⟩
  | term => exact ⟨fun _ first found => Option.some.inj found ▸ rfl, fun _ => rfl⟩
  | description =>
    constructor
    · exact nofun
    · intro leads
      exact absurd (leads _ rfl) Bool.false_ne_true
  | other noHead noItem _ ih =>
    rw [HeadLeads, List.find?_cons_of_neg (Token.not_isPart noHead noItem)]
    exact ih

theorem row_iff (parted : Parted tokens parts) :
    List.Forall₂ Becomes (tokens.filter Token.isPart) (Node.entryChildren (entries parts)) ↔ HeadLeads tokens := by
  have whole := DefinitionPart.leading_entries parts
  rw [← parted.leading_iff]
  constructor
  · intro row
    have lengths := congrArg List.length whole
    rw [List.length_append, ← row.length_eq, ← parted.row.length_eq] at lengths
    exact List.eq_nil_of_length_eq_zero (by omega)
  · intro none
    rw [none, List.nil_append] at whole
    rw [whole]
    exact parted.row

theorem kept (parted : Parted tokens parts) : Kept tokens (entries parts) where
  terms := parted.terms
  descriptions := by
    obtain ⟨_, _, _, behind, same⟩ := List.forall₂_cons_right_iff.mp parted.stretches
    rw [same]
    exact behind
  row := parted.row_iff

end Parted

/-- Unless it refuses a stray, the reader makes of a definition list one entry for each head, in order. An entry has the
term that its head becomes and the descriptions that the items between this head and the next one, or the end, become,
in order. Items before the first head are left out, so that nothing is lost exactly if a head leads. -/
theorem definition_list_kept (tokens : List Token) (literal : Option Text) (tight : Option Value)
    (details : TokenDetails) :
    Settles (Token.AnyStray tokens) (fun found => ∃ entries, found = some (.definitionList entries) ∧ Kept tokens entries)
      (blockNode (.element .definitionList literal tight details tokens)) := by
  simp only [blockNode]
  apply (definitionParts_settles tokens).bind
  intro parts parted _
  exact .pure ⟨entries parts, rfl, parted.kept⟩

/-- Heads without items, a token of another kind within an entry, and an item of inline content beside one of blocks. -/
example :
    (blockNode (.branch .definitionList [
      .branch .definitionHead [.leaf .text ['a']],
      .branch .definitionHead [.leaf .text ['b']],
      .branch .definitionItem [.leaf .text ['x']],
      .leaf .blankLine [],
      .branch .definitionItem [.branch .blockText [.leaf .text ['y']]],
      .branch .definitionHead []])).run [] =
    .ok (some (.definitionList [
      (.definitionTerm [.text ['a']], []),
      (.definitionTerm [.text ['b']], [
        .definitionDescription [.paragraph [.text ['x']]],
        .definitionDescription [.paragraph [.text ['y']]]]),
      (.definitionTerm [], [])]), []) := rfl

end Adocify.Markdown
