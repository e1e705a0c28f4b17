import Adocify.Proofs.RenderTrees
import Adocify.Proofs.TextSqueezing

/-! The ways of wrapping lines. Two runs that wrap lines differently register and report the same, and
their texts stay the same when squeezed: what is looked at in a finished text is its emptiness and
the visible characters at its ends, and no break is put where none was. -/

namespace Adocify

open Text (squeeze glue isBreak unbroken)

theorem Text.squeeze_dropWhile (text : Text) :
    glue ' ' (squeeze (text.dropWhile isSpaceOrTab)) = glue ' ' (squeeze text) := by
  induction text with
  | nil => rfl
  | cons c rest ih =>
    by_cases blank : isSpaceOrTab c = true
    · rw [List.dropWhile_cons_of_pos blank, ih, squeeze_cons, glue_again (isBreak_of_blank blank)]
    · rw [List.dropWhile_cons_of_neg blank]

namespace AsciiDoc

/-- A run of blanks is passed over only behind the newline that stands for it. -/
theorem squeeze_ventilateFrom (skip : Nat) (before : Option Char) (text : Text) :
    squeeze (ventilateFrom skip before text) = squeeze (text.drop skip) := by
  fun_induction ventilateFrom skip before text with
  | case1 => simp
  | case2 skip before c rest ih => rw [ih, List.drop_succ_cons]
  | case3 before c rest here ih =>
    have broken : isBreak c = true := Text.isBreak_of_blank (by simp_all)
    have passed : rest.drop (rest.takeWhile isSpaceOrTab).length = rest.dropWhile isSpaceOrTab := by
      have split : rest.takeWhile isSpaceOrTab ++ rest.dropWhile isSpaceOrTab = rest := List.takeWhile_append_dropWhile
      calc rest.drop (rest.takeWhile isSpaceOrTab).length
        _ = (rest.takeWhile isSpaceOrTab ++ rest.dropWhile isSpaceOrTab).drop (rest.takeWhile isSpaceOrTab).length := by
          rw [split]
        _ = rest.dropWhile isSpaceOrTab := List.drop_left
    rw [List.drop_zero, Text.squeeze_cons, Text.squeeze_cons, ih, passed, Text.glue_break broken,
      Text.glue_break (by decide), Text.squeeze_dropWhile]
  | case4 before c rest here ih => rw [Text.squeeze_cons, ih, List.drop_zero, List.drop_zero, Text.squeeze_cons]

theorem squeeze_ventilate (text : Text) : squeeze (ventilate text) = squeeze text :=
  squeeze_ventilateFrom 0 none text

theorem squeezed_interchangeable : Interchangeable fun first second => squeeze first = squeeze second where
  refl _ := rfl
  append {a b c d} same others := by rw [Text.squeeze_append, Text.squeeze_append, same, others]
  isEmpty {a b} same := by
    rw [Bool.eq_iff_iff, List.isEmpty_iff, List.isEmpty_iff, ← Text.squeeze_eq_nil, same, Text.squeeze_eq_nil]
  head {a b} same visible ignored := by rw [← Text.head_squeeze a ignored, same, Text.head_squeeze b ignored]
  last {a b} same visible ignored := by rw [← Text.last_squeeze a ignored, same, Text.last_squeeze b ignored]
  substitute {a b} same old new kept := by rw [← Text.squeeze_substitute kept a, same, Text.squeeze_substitute kept b]
  stripRight {a b} same := by rw [Text.squeeze_stripRight, same, Text.squeeze_stripRight]

theorem squeeze_wrapped (options : Options) (text : Text) : squeeze (wrapped options text) = squeeze text := by
  rw [wrapped]
  split
  · exact squeeze_ventilate text
  · rfl

theorem squeeze_softBreak (options : Options) : squeeze (lineBreak options true) = [' '] := by
  simp only [lineBreak, Bool.not_true, Bool.false_eq_true, if_false]
  split <;> decide

/-- Runs over the same tree whose texts are the same when squeezed. -/
def rewrapped : Comparison where
  node _ := True
  definition _ _ := True
  context := Eq
  text first second := squeeze first = squeeze second
  failure _ := True

theorem rewrapped_lawful (options : Options) (wrap : Wrap) : rewrapped.Lawful options wrap where
  text := squeezed_interchangeable
  lineBreak soft := by
    cases soft with
    | false => rfl
    | true => exact (squeeze_softBreak options).trans (squeeze_softBreak (options.withWrap wrap)).symm
  wrapped same := (squeeze_wrapped options _).trans (same.trans (squeeze_wrapped (options.withWrap wrap) _).symm)
  change := by rintro _ _ - - _ _ rfl; rfl
  view := by rintro _ _ rfl; exact ⟨rfl, rfl, rfl, rfl, rfl⟩
  attributes := by rintro _ - _ _ rfl; rfl
  defined _ _ := trivial
  literal _ := trivial
  child _ _ := trivial
  misplaced := trivial
  illTyped := trivial
  foreign _ := trivial
  stray _ := trivial

/-- However lines are wrapped, rendering leaves the same state, and it fails alike or yields the same words. -/
theorem wrapping_keeps_words (options : Options) (wrap : Wrap) (attributes : Attributes) (document : Node) :
    (render options attributes document).context = (render (options.withWrap wrap) attributes document).context ∧
    ((∃ failure, (render options attributes document).outcome = .error failure ∧
        (render (options.withWrap wrap) attributes document).outcome = .error failure) ∨
      ∃ text text', (render options attributes document).outcome = .ok text ∧
        (render (options.withWrap wrap) attributes document).outcome = .ok text' ∧ text.unbroken = text'.unbroken) := by
  have admitted : rewrapped.node document := trivial
  have met := (rewrapped_lawful options wrap).tree (fun _ _ _ => ⟨trivial, fun _ _ => trivial⟩) admitted
    { attributes } { attributes } rfl
  simp only [render_eq]
  generalize (renderTree options document).runIn { attributes } = ending at met
  generalize (renderTree (options.withWrap wrap) document).runIn { attributes } = ending' at met
  cases met with
  | error allowed same => exact ⟨same, .inl ⟨_, rfl, rfl⟩⟩
  | @ok text text' _ _ same context =>
    refine ⟨context, .inr ⟨_, _, rfl, rfl, ?_⟩⟩
    rw [Text.unbroken_endWithNewline, Text.unbroken_endWithNewline, ← Text.unbroken_squeeze text, same,
      Text.unbroken_squeeze text']

end AsciiDoc

end Adocify
