import Adocify.Attributes

/-! A generated table of contents. The block of one, from the mark that opens it at the beginning of a
line to the mark that closes it, gives way to the macro that generates another. -/

namespace Adocify.TableOfContents

def opening : Text := "<!-- TOC ".toList

def closing : Text := "<!-- /TOC -->".toList

def directive : Text := "toc::[]".toList

/-- What follows the block at the beginning of the text. -/
def afterBlock? (text : Text) : Option Text :=
  if opening.isPrefixOf text then (Text.breakOn closing (text.drop opening.length)).map (·.2) else none

/-- Looks for the first block; `lineStart` tells that a line begins here. -/
def replaceFrom (lineStart : Bool) : Text → Option Text
  | [] => none
  | c :: rest =>
    match if lineStart then afterBlock? (c :: rest) else none with
    | some after => some (directive ++ after)
    | none => (replaceFrom (c = '\n') rest).map (c :: ·)

/-- Replaces the first block, and lets the attributes place the table of contents there. -/
def replace (text : Text) (attributes : Attributes) : Text × Attributes :=
  match replaceFrom true text with
  | some replaced => (replaced, attributes.register "toc".toList (.text "macro".toList))
  | none => (text, attributes)

end Adocify.TableOfContents
