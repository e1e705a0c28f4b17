import Adocify.Text.Basic

/-! Addresses in angle brackets. Each reader is given what follows the opening bracket and answers the
address and what follows the closing one. -/

namespace Adocify.Markdown.Autolink

/-- The text up to a closing bracket. -/
def bracketed? (text : Text) : Option (Text × Text) :=
  match Text.cut '>' text with
  | (address, some after) => some (address, after)
  | (_, none) => none

def isSchemePart (c : Char) : Bool := c.isAlphanum || c == '.' || c == '+' || c == '-'

def isAddressPart (c : Char) : Bool := 0x20 < c.toNat && c != '<'

/-- A scheme of two to thirty-two characters, a colon, and no blanks. -/
def isUri (address : Text) : Bool :=
  let scheme := address.takeWhile isSchemePart
  scheme.head?.any Char.isAlpha && 2 ≤ scheme.length && scheme.length ≤ 32 &&
    (address.drop scheme.length).head? = some ':' && address.all isAddressPart

def isMailboxPart (c : Char) : Bool := c.isAlphanum || ".!#$%&'*+/=?^_\x60\x7b|\x7d~-".toList.contains c

def isHostLabel (label : Text) : Bool :=
  1 ≤ label.length && label.length ≤ 63 && label.all (fun c => c.isAlphanum || c == '-') &&
    label.head? != some '-' && label.getLast? != some '-'

def isMail (address : Text) : Bool :=
  match Text.cut '@' address with
  | (mailbox, some host) =>
    !mailbox.isEmpty && mailbox.all isMailboxPart && (Text.splitOn '.' host).all isHostLabel
  | (_, none) => false

/-- The destination that the address stands for, if it is one. -/
def destination? (address : Text) : Option Text :=
  if isUri address then some address
  else if isMail address then some ("mailto:".toList ++ address)
  else none

end Adocify.Markdown.Autolink
