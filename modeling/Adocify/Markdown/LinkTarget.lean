import Adocify.Charset.Utf8
import Adocify.Markdown.Line
import Adocify.Text.Blank
import Adocify.Text.Case
import Adocify.Text.Punctuation

/-! Where links lead: labels, destinations and titles as they are written in Markdown. -/

namespace Adocify.Markdown

structure LinkTarget where
  /-- The destination, with percent signs for what does not belong into one. -/
  url : Text
  title : Option Text := none
  deriving Repr, DecidableEq

/-- A backslash makes punctuation literal, and is literal itself before anything else. -/
def unescape : Text → Text
  | '\\' :: c :: rest => if Text.isAsciiPunctuation c then c :: unescape rest else '\\' :: unescape (c :: rest)
  | c :: rest => c :: unescape rest
  | [] => []

/-- Labels are compared without regard to case and to the width of blanks. -/
def labelKey (label : Text) : Text := Text.upper (Text.lower (Text.join [' '] (Text.words label)))

namespace LinkTarget

def standsInUrl (c : Char) : Bool := c.isAlphanum || "_.-~:/?#@!$&()*+,;=%".toList.contains c

def percentByte (byte : UInt8) : Text := '%' :: (Text.hex 2 byte.toNat).map Char.toUpper

def encodeUrl (url : Text) : Text :=
  url.flatMap fun c => if standsInUrl c then [c] else (Utf8.encodeChar c).flatMap percentByte

/-- The text up to an unescaped character that ends it, and what follows from there. -/
def takeUnescaped (ends : Char → Bool) : Text → Text × Text
  | '\\' :: c :: rest =>
    if Text.isAsciiPunctuation c then
      let (taken, after) := takeUnescaped ends rest
      ('\\' :: c :: taken, after)
    else if ends '\\' then ([], '\\' :: c :: rest)
    else
      let (taken, after) := takeUnescaped ends (c :: rest)
      ('\\' :: taken, after)
  | c :: rest =>
    if ends c then ([], c :: rest)
    else
      let (taken, after) := takeUnescaped ends rest
      (c :: taken, after)
  | [] => ([], [])

/-- A destination without brackets ends at a blank or where a parenthesis closes that it did not open;
`depth` of its own are open, and none may be so at its end. -/
def takeBare (depth : Nat) : Text → Option (Text × Text)
  | [] => if depth = 0 then some ([], []) else none
  | '\\' :: c :: rest =>
    if Text.isAsciiPunctuation c then (takeBare depth rest).map fun (taken, after) => ('\\' :: c :: taken, after)
    else (takeBare depth (c :: rest)).map fun (taken, after) => ('\\' :: taken, after)
  | c :: rest =>
    if c.toNat ≤ 0x20 || c.toNat == 0x7f || (c == ')' && depth == 0) then
      if depth = 0 then some ([], c :: rest) else none
    else
      let deeper := if c == '(' then depth + 1 else if c == ')' then depth - 1 else depth
      (takeBare deeper rest).map fun (taken, after) => (c :: taken, after)

/-- A destination as written, and what follows it. -/
def destination? (text : Text) : Option (Text × Text) :=
  match text with
  | '<' :: rest =>
    match takeUnescaped (fun c => c == '<' || c == '>' || c == '\n') rest with
    | (written, '>' :: after) => some (written, after)
    | _ => none
  | _ => takeBare 0 text

/-- A title as written, and what follows it. -/
def title? : Text → Option (Text × Text)
  | '"' :: rest => closedBy '"' (takeUnescaped (· == '"') rest)
  | '\'' :: rest => closedBy '\'' (takeUnescaped (· == '\'') rest)
  | '(' :: rest => closedBy ')' (takeUnescaped (fun c => c == '(' || c == ')') rest)
  | _ => none
where
  closedBy (mark : Char) : Text × Text → Option (Text × Text)
    | (written, c :: after) => if c = mark then some (written, after) else none
    | _ => none

def ofWritten (url : Text) (title : Option Text) : LinkTarget where
  url := encodeUrl (unescape url)
  title := (title.map unescape).filter (!·.isEmpty)

/-- The target in parentheses after a link's text; given is what follows the opening parenthesis. -/
def inline? (text : Text) : Option (LinkTarget × Text) := do
  let (url, rest) ← destination? (text.dropWhile isSpacing)
  match rest.dropWhile isSpacing with
  | ')' :: after => return (ofWritten url none, after)
  | written =>
    if written.length = rest.length then none
    else
      let (title, rest) ← title? written
      match rest.dropWhile isSpacing with
      | ')' :: after => return (ofWritten url (some title), after)
      | _ => none

/-- The label in brackets; given is what follows the opening bracket. -/
def label? (text : Text) : Option (Text × Text) :=
  match takeUnescaped (fun c => c == '[' || c == ']') text with
  | (label, ']' :: after) => if label.length ≤ 999 then some (label, after) else none
  | _ => none

/-- What follows the line, if only blanks are left of it. -/
def lineEnd? (text : Text) : Option Text :=
  match text.dropWhile isSpaceOrTab with
  | [] => some []
  | '\n' :: rest => some rest
  | _ => none

/-- Blanks with at most one newline among them. -/
def skipSpacing (text : Text) : Text :=
  match text.dropWhile isSpaceOrTab with
  | '\n' :: rest => rest.dropWhile isSpaceOrTab
  | rest => rest

/-- A definition at the front of a paragraph: its label, its target and the lines that follow it. A
title must end its line; on a line of its own it may as well be no title at all. -/
def definition? : Text → Option (Text × LinkTarget × Text)
  | '[' :: text => do
    let (label, rest) ← label? text
    if Text.isBlankText label then none
    else
      let rest ← match rest with
        | ':' :: rest => some (skipSpacing rest)
        | _ => none
      let bracketed := rest.head? == some '<'
      let (url, rest) ← destination? rest
      if url.isEmpty && !bracketed then none
      else
        let plain := (lineEnd? rest).map fun after => (label, ofWritten url none, after)
        let written := skipSpacing rest
        let titled := do
          if written.length = rest.length then none
          else
            let (title, after) ← title? written
            let after ← lineEnd? after
            return (label, ofWritten url (some title), after)
        titled <|> plain
  | _ => none

/-- All definitions at the front of a paragraph, and what is left of it. -/
def definitions : Nat → Text → List (Text × LinkTarget) × Text
  | 0, text => ([], text)
  | count + 1, text =>
    match definition? text with
    | none => ([], text)
    | some (label, target, rest) =>
      let (others, rest) := definitions count rest
      ((labelKey label, target) :: others, rest)

end LinkTarget

/-- Splits a paragraph into the link definitions that it begins with and its proper text. -/
def splitDefinitions (paragraph : Text) : List (Text × LinkTarget) × Text :=
  LinkTarget.definitions paragraph.length paragraph

end Adocify.Markdown
