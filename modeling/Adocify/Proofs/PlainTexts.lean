import Adocify.Document.PlainText
import Adocify.Markdown.Tree

/-! The plain text of inline content, read from tokens and read from the nodes that they become. The description of an
image is read from its tokens, before there are nodes. Both readings take the same texts in the same order, but only
that of the nodes shows where a line breaks. -/

namespace Adocify.Markdown

namespace Token

/-- Inline tokens as a grammar makes them. Other tokens stand below spans and images only, and next to the content that
a text or a code span has. -/
inductive WellTyped : Token → Prop
  | literal {kind : TokenKind} (reads : kind = .text ∨ kind = .codeSpan) (content : Text)
      (tight : Option Value) (details : TokenDetails) (children : List Token) :
      WellTyped (.element kind (some content) tight details children)
  | silent {kind : TokenKind} {content : Option Text}
      (mute : kind = .inlineHtml ∨ kind = .footnoteReference ∨ content = none ∧ (kind = .text ∨ kind = .codeSpan))
      (tight : Option Value) (details : TokenDetails) : WellTyped (.element kind content tight details [])
  | lineEnd {kind : TokenKind} (breaks : kind = .lineBreak ∨ kind = .softBreak) (content : Option Text)
      (tight : Option Value) (details : TokenDetails) : WellTyped (.element kind content tight details [])
  | image (content : Option Text) (tight : Option Value) (details : TokenDetails) {children : List Token}
      (below : ∀ child ∈ children, WellTyped child) : WellTyped (.element .image content tight details children)
  | span {kind : TokenKind} (holds : kind = .strong ∨ kind = .emphasis ∨ kind = .strikethrough ∨ kind = .link)
      (content : Option Text) (tight : Option Value) (details : TokenDetails) {children : List Token}
      (below : ∀ child ∈ children, WellTyped child) : WellTyped (.element kind content tight details children)

mutual

/-- The plain text with `gap` for each line break. The description of an image shows none of its own. -/
def textWith (gap : Text) : Token → Text
  | .element .text (some literal) .. | .element .codeSpan (some literal) .. => literal
  | .element .lineBreak .. | .element .softBreak .. => gap
  | .element .image _ _ _ children => plainTexts children
  | .element _ _ _ _ children => textsWith gap children
  | .stray => []

def textsWith (gap : Text) : List Token → Text
  | [] => []
  | token :: rest => textWith gap token ++ textsWith gap rest

end

mutual

/-- How many lines break outside descriptions of images. -/
def breakCount : Token → Nat
  | .element .text (some _) .. | .element .codeSpan (some _) .. | .element .image .. => 0
  | .element .lineBreak .. | .element .softBreak .. => 1
  | .element _ _ _ _ children => breakCounts children
  | .stray => 0

def breakCounts : List Token → Nat
  | [] => 0
  | token :: rest => breakCount token + breakCounts rest

end

variable {tokens : List Token} {token : Token} {gap : Text}

theorem plainTexts_eq (below : ∀ token ∈ tokens, token.plainText = token.textWith []) :
    plainTexts tokens = textsWith [] tokens := by
  induction tokens with
  | nil => rfl
  | cons token rest ih =>
    obtain ⟨here, later⟩ := List.forall_mem_cons.mp below
    rw [plainTexts, textsWith, here, ih later]

/-- The plain text of tokens passes over line breaks. -/
theorem plainText_eq (typed : token.WellTyped) : token.plainText = token.textWith [] := by
  induction typed with
  | literal reads => rcases reads with rfl | rfl <;> rfl
  | silent mute => rcases mute with rfl | rfl | ⟨rfl, rfl | rfl⟩ <;> rfl
  | lineEnd breaks => rcases breaks with rfl | rfl <;> rfl
  | image => rfl
  | span holds _ _ _ _ below => rcases holds with rfl | rfl | rfl | rfl <;> exact plainTexts_eq below

/-- With gaps in it the text is longer by as many gaps as lines break, and otherwise the same. -/
def Widened (gap short long : Text) (breaks : Nat) : Prop :=
  short.Sublist long ∧ long.length = short.length + gap.length * breaks

theorem Widened.refl (gap text : Text) : Widened gap text text 0 := ⟨List.Sublist.refl text, rfl⟩

theorem textsWith_widened (below : ∀ token ∈ tokens,
      Widened gap (token.textWith []) (token.textWith gap) token.breakCount) :
    Widened gap (textsWith [] tokens) (textsWith gap tokens) (breakCounts tokens) := by
  induction tokens with
  | nil => exact .refl gap []
  | cons token rest ih =>
    obtain ⟨⟨here, longer⟩, later⟩ := List.forall_mem_cons.mp below
    obtain ⟨there, others⟩ := ih later
    refine ⟨here.append there, ?_⟩
    rw [textsWith, textsWith, breakCounts, List.length_append, List.length_append, longer, others, Nat.mul_add]
    omega

theorem textWith_widened (gap : Text) (typed : token.WellTyped) :
    Widened gap (token.textWith []) (token.textWith gap) token.breakCount := by
  induction typed with
  | literal reads content => rcases reads with rfl | rfl <;> exact .refl gap content
  | silent mute => rcases mute with rfl | rfl | ⟨rfl, rfl | rfl⟩ <;> exact .refl gap []
  | lineEnd breaks => rcases breaks with rfl | rfl <;> exact ⟨List.nil_sublist gap, by simp [textWith, breakCount]⟩
  | image => exact .refl gap _
  | span holds _ _ _ _ below => rcases holds with rfl | rfl | rfl | rfl <;> exact textsWith_widened below

theorem Widened.same_iff {short long : Text} {breaks : Nat} (widened : Widened gap short long breaks) (wide : gap ≠ []) :
    long = short ↔ breaks = 0 := by
  obtain ⟨kept, longer⟩ := widened
  have positive := List.length_pos_iff.mpr wide
  constructor
  · intro same
    rw [same, Nat.left_eq_add, Nat.mul_eq_zero] at longer
    omega
  · intro unbroken
    rw [unbroken, Nat.mul_zero, Nat.add_zero] at longer
    exact (kept.eq_of_length longer.symm).symm

end Token

variable {tokens : List Token} {table : FootnoteTable}

/-- The token becomes a node whose plain text has a blank for each line break. No footnote is met on the way. -/
def ReadsInline (table : FootnoteTable) (token : Token) : Prop :=
  ∃ node, (inlineNode token).run table = .ok (some node, table) ∧ node.plainText = token.textWith [' ']

theorem inlineNodes_read (each : ∀ token ∈ tokens, ReadsInline table token) :
    ∃ nodes, (inlineNodes tokens).run table = .ok (nodes, table) ∧
      Node.plainTexts nodes = Token.textsWith [' '] tokens := by
  induction tokens with
  | nil => exact ⟨[], rfl, rfl⟩
  | cons token rest ih =>
    obtain ⟨⟨node, here, own⟩, later⟩ := List.forall_mem_cons.mp each
    obtain ⟨nodes, there, others⟩ := ih later
    refine ⟨node :: nodes, ?_, ?_⟩
    · rw [inlineNodes, StateT.run_bind, here]
      change ((inlineNodes rest).run table >>= _) = _
      rw [there]
      rfl
    · rw [Node.plainTexts, Token.textsWith, own, others]

theorem inlineNode_reads {token : Token} (typed : token.WellTyped) (table : FootnoteTable) :
    ReadsInline table token := by
  induction typed with
  | literal reads => rcases reads with rfl | rfl <;> exact ⟨_, rfl, rfl⟩
  | silent mute => rcases mute with rfl | rfl | ⟨rfl, rfl | rfl⟩ <;> exact ⟨_, rfl, rfl⟩
  | lineEnd breaks => rcases breaks with rfl | rfl <;> exact ⟨_, rfl, rfl⟩
  | image => exact ⟨_, rfl, rfl⟩
  | span holds _ _ _ _ below =>
    obtain ⟨nodes, read, same⟩ := inlineNodes_read below
    rcases holds with rfl | rfl | rfl | rfl
    all_goals
      simp only [ReadsInline, inlineNode, StateT.run_bind, read]
      exact ⟨_, rfl, same⟩

/-- What tokens describe an image by is the plain text of the nodes that they become, except that it passes over the line
breaks for which the nodes show a blank. So the two are the same exactly if no line breaks outside the descriptions of
images within. -/
theorem plain_texts_agree_iff (typed : ∀ token ∈ tokens, token.WellTyped) (table : FootnoteTable) :
    ∃ nodes description,
      (inlineNodes tokens).run table = .ok (nodes, table) ∧
      (∀ content tight details, (inlineNode (.element .image content tight details tokens)).run table =
        .ok (some (.image (details.url.getD []) description details.title), table)) ∧
      Node.plainTexts nodes = Token.textsWith [' '] tokens ∧ description = Token.textsWith [] tokens ∧
      (description = Node.plainTexts nodes ↔ Token.breakCounts tokens = 0) := by
  obtain ⟨nodes, read, shown⟩ := inlineNodes_read fun token member => inlineNode_reads (typed token member) table
  have described : Token.plainTexts tokens = Token.textsWith [] tokens :=
    Token.plainTexts_eq fun token member => Token.plainText_eq (typed token member)
  have widened := Token.textsWith_widened fun token member => Token.textWith_widened [' '] (typed token member)
  refine ⟨nodes, Token.plainTexts tokens, read, fun _ _ _ => rfl, shown, described, ?_⟩
  rw [shown, described, eq_comm]
  exact widened.same_iff (List.cons_ne_nil _ _)

theorem brokenTexts_wellTyped (first second : Text) :
    ∀ token ∈ [Token.leaf .text first, .leaf .softBreak [], .leaf .text second], token.WellTyped := by
  have text (content : Text) : (Token.leaf .text content).WellTyped := .literal (.inl rfl) content none {} []
  have softBreak : (Token.leaf .softBreak []).WellTyped := .lineEnd (.inr rfl) (some []) none {}
  simp [text, softBreak]

/-- Emphasised code, an image whose own description breaks, and a footnote. -/
def describingTokens : List Token := [
  .branch .emphasis [.leaf .codeSpan "a b".toList],
  .branch .image [.leaf .text " c".toList, .leaf .softBreak [], .leaf .text "d".toList],
  .leaf .footnoteReference "1".toList]

theorem plain_texts_agree_iff_nested : (∀ token ∈ describingTokens, token.WellTyped) ∧
    ∃ nodes description, (inlineNodes describingTokens).run [] = .ok (nodes, []) ∧
      (inlineNode (.branch .image describingTokens)).run [] = .ok (some (.image [] description none), []) ∧
      Node.plainTexts nodes = "a b cd".toList ∧ description = "a b cd".toList := by
  have emphasised : ∀ token ∈ [Token.leaf .codeSpan "a b".toList], token.WellTyped :=
    List.forall_mem_singleton.mpr (.literal (.inr rfl) "a b".toList none {} [])
  have typed : ∀ token ∈ describingTokens, token.WellTyped := by
    refine List.forall_mem_cons.mpr ⟨.span (.inr (.inl rfl)) none none {} emphasised, ?_⟩
    refine List.forall_mem_cons.mpr ⟨.image none none {} (brokenTexts_wellTyped _ _), ?_⟩
    exact List.forall_mem_singleton.mpr (.silent (.inr (.inl rfl)) none {})
  obtain ⟨nodes, description, read, images, -, passed, same⟩ := plain_texts_agree_iff typed []
  have whole : description = "a b cd".toList := passed
  exact ⟨typed, nodes, description, read, images none none {}, (same.mpr rfl).symm.trans whole, whole⟩

def brokenTokens : List Token := [.leaf .text ['a'], .leaf .softBreak [], .leaf .text ['b']]

/-- A line that breaks in a description joins two words, which the nodes of the same tokens keep apart. -/
theorem broken_description_joined : (∀ token ∈ brokenTokens, token.WellTyped) ∧
    (inlineNodes brokenTokens).run [] = .ok ([.text ['a'], .lineBreak true, .text ['b']], []) ∧
    Node.plainTexts [.text ['a'], .lineBreak true, .text ['b']] = "a b".toList ∧
    (inlineNode (.branch .image brokenTokens)).run [] = .ok (some (.image [] "ab".toList none), []) :=
  ⟨brokenTexts_wellTyped _ _, rfl, rfl, rfl⟩

end Adocify.Markdown
