import Adocify.Document.PlainText
import Adocify.Text.Blank
import Adocify.Text.Case

/-! Admonitions: content that opens with a strong label such as "Note:". -/

namespace Adocify.AsciiDoc

def admonitionLabels : List (Text × Text) :=
  ["NOTE", "TIP", "IMPORTANT", "CAUTION", "WARNING"].map fun label => (Text.lower label.toList, label.toList)

def startsWithColon : Node → Bool
  | .text content => content.head? = some ':'
  | _ => false

/-- The text behind a label, without the colon and the blanks that separate them. -/
def behindLabel (content : Text) : Text := Text.stripLeft (content.dropWhile (· = ':'))

/-- The label and what follows it. The colon may end the label or begin the text behind it. -/
def splitAdmonition (view : α → Node) (ofText : Text → α) : List α → Option (Text × List α)
  | first :: second :: rest =>
    match view first with
    | .strong content =>
      let written := Text.strip (Node.plainTexts content)
      let hasColon := written.getLast? = some ':' || startsWithColon (view second)
      let name := Text.lower (Text.strip (Text.dropEndWhile (· = ':') written))
      match admonitionLabels.lookup name with
      | some label =>
        if !hasColon then none
        else match view second with
          | .text content =>
            let stripped := behindLabel content
            some (label, if stripped.isEmpty then rest else ofText stripped :: rest)
          | _ => some (label, second :: rest)
      | none => none
    | _ => none
  | _ => none

end Adocify.AsciiDoc
