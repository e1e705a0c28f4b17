import Adocify.Markdown.Grammar
import Adocify.Markdown.Tree

/-! From a Markdown text to the tree of its document. What cuts the text into tokens is given; only what it says
against the text is reported as a failure to parse it, whatever else goes wrong there is passed on. -/

namespace Adocify.Markdown

/-- Why there are no tokens of a text. -/
inductive TokenizerFailure where
  /-- The tokenizer cannot go on with the text. -/
  | fault (reason : Text)
  /-- Whatever else goes wrong in a tokenizer. -/
  | other (failure : Failure)
  deriving Repr, DecidableEq

def TokenizerFailure.toFailure : TokenizerFailure → Failure
  | .fault reason => .parsing ("Markdown parsing failed: ".toList ++ reason) (some "tokenize".toList)
  | .other failure => failure

/-- What becomes of a text under options. -/
abbrev Tokenizer := Options → Text → Except TokenizerFailure (List Token)

/-- The tokenizer that is used where no other is given. It has tokens for every text; where readers of Markdown
disagree about a text, another tokenizer may have others. -/
def Tokenizer.usual : Tokenizer := fun options text => .ok (tokensOf options text)

/-- The children of the document that a text describes. -/
def read (tokenizer : Tokenizer) (options : Options) (text : Text) : Except Failure (List Node) := do
  let tokens ← (tokenizer options text).mapError TokenizerFailure.toFailure
  documentOf tokens

end Adocify.Markdown
