import Adocify.Proofs.RenderFrames

/-! What is said of renderings that succeed. An account speaks of one node, and of nodes in a row, with the
texts that they are rendered to and the contexts before and after. If it can be given for every step of a
course, it can be given for every rendering that does not fail. -/

namespace Adocify.AsciiDoc

structure Account where
  node : Node → Text → Context → Context → Prop
  row : List Node → List Text → Context → Context → Prop

namespace Account

structure Lawful (account : Account) (options : Options) (root : Node) : Prop where
  quiet : ∀ {before after}, after.emitted = before.emitted → before.attributes <+: after.attributes →
    account.row [] [] before after
  one : ∀ {node text before after}, account.node node text before after → account.row [node] [text] before after
  append : ∀ {nodes others texts more before between after}, account.row nodes texts before between →
    account.row others more between after → account.row (nodes ++ others) (texts ++ more) before after
  inside : ∀ {nodes texts marker before after}, account.row nodes texts ((Change.enterList marker).apply before) after →
    account.row nodes texts before (Change.leaveList.apply after)
  parts : ∀ {depth node texts text before after}, Inside root node → account.row (partsOf node) texts before after →
    Makes node texts text → (renderNode options (renderFootnote options depth) node).runIn before = (.ok text, after) →
    account.node node text before after
  repeated : ∀ {identifier before}, identifier ∈ before.emitted →
    account.node (.footnoteReference identifier) (bareReference identifier) before before
  undefined : ∀ {identifier before after}, (notesOf root).lookup identifier = none → after.emitted = before.emitted →
    before.attributes <+: after.attributes →
    account.node (.footnoteReference identifier) (bareReference identifier) before after
  noted : ∀ {depth identifier content texts before after}, identifier ∉ before.emitted →
    (notesOf root).lookup identifier = some content → account.row content texts before after →
    (renderFootnote options depth identifier content).runIn before = (.ok (presentTexts texts), after) →
    account.node (.footnoteReference identifier) (noteReference identifier (noteText texts)) before
      ((Change.emit identifier).apply after)

variable {account : Account} {options : Options} {root : Node}

mutual

theorem Lawful.passage (laws : account.Lawful options root) : ∀ {depth node before outcome after},
    Passage options depth node before outcome after → Inside root node → before.footnotes = notesOf root →
      ∀ {text}, outcome = .ok text → account.node node text before after
  | _, _, _, _, _, .parts course makes ran, inside, start, text, ended => by
    obtain ⟨texts, made, fits⟩ := completes_ok (ended ▸ makes)
    have told := Lawful.course laws course (steady_own inside) (quiet_own (makes_apart fits))
      (fun part member => inside.part member) start made
    exact laws.parts inside told fits (ended ▸ ran)
  | _, _, _, _, _, .repeated written, _, _, _, ended => by
    obtain rfl := Except.ok.inj ended
    exact laws.repeated written
  | _, _, _, _, _, .undefined _ missing, _, start, _, ended => by
    obtain rfl := Except.ok.inj ended
    exact laws.undefined (start ▸ missing) rfl (List.prefix_refl _)
  | _, _, _, _, _, .exhausted _ _, _, _, _, ended => nomatch ended
  | _, _, _, _, _, .noted fresh found course written, _, start, _, ended => by
    obtain rfl := Except.ok.inj ended
    rw [start] at found
    have told := Lawful.course laws course steady_note (fun arises => arises.elim) (fun block member => .note found member)
      start rfl
    exact laws.noted fresh found told written
  | _, _, _, _, _, .failed _ _ _, _, _, _, ended => nomatch ended
termination_by structural _ _ _ _ _ passage => passage

theorem Lawful.course (laws : account.Lawful options root) : ∀ {depth own refuses nodes before result after},
    Course options depth own refuses nodes before result after → (steady root).Keeps own → Quiet own →
      (∀ node ∈ nodes, Inside root node) → before.footnotes = notesOf root →
      ∀ {texts}, result = .ok texts → account.row nodes texts before after
  | _, _, _, _, _, _, _, .nil, _, _, _, _, _, ended => by
    obtain rfl := Except.ok.inj ended
    exact laws.quiet rfl (List.prefix_refl _)
  | _, _, _, _, _, _, _, .change arises, _, quiet, _, _, _, ended => by
    obtain rfl := Except.ok.inj ended
    exact laws.quiet (quiet arises) (Frame.attributes_kept _ _)
  | _, _, _, _, _, _, _, .refuse _, _, _, _, _, _, ended => nomatch ended
  | _, _, _, _, _, _, _, .visit passage, _, _, inside, start, texts, ended => by
    obtain ⟨text, made, rfl⟩ := map_ok ended
    exact laws.one (Lawful.passage laws passage (inside _ List.mem_cons_self) start made)
  | _, _, _, _, _, _, _, @Course.append _ _ _ _ nodes _ _ _ _ _ _ first rest, keeps, quiet, inside, start, texts, ended => by
    obtain ⟨more, made, rfl⟩ := map_ok ended
    have left : ∀ node ∈ nodes, Inside root node := fun node member => inside node (List.mem_append_left _ member)
    have told := Lawful.course laws first keeps quiet left start rfl
    exact laws.append told (Lawful.course laws rest keeps quiet
      (fun node member => inside node (List.mem_append_right _ member)) (first.steady keeps left start) made)
  | _, _, _, _, _, _, _, .stop _, _, _, _, _, _, ended => nomatch ended
  | _, _, _, _, _, _, _, .inside _ content, keeps, quiet, inside, start, _, ended =>
    laws.inside (Lawful.course laws content keeps quiet inside start ended)
termination_by structural _ _ _ _ _ _ _ course => course

end

/-- The rendering of a document that succeeds is put together from the texts of its parts, of which the
account can be given. -/
theorem Lawful.render {attributes : Attributes} {nodes : List Node} (laws : account.Lawful options (.document nodes))
    {text : Text} (rendered : (render options attributes (.document nodes)).outcome = .ok text) :
    ∃ texts body, account.row (partsOf (.document nodes)) texts (opened nodes attributes)
        (AsciiDoc.render options attributes (.document nodes)).context ∧
      Assembled texts body ∧ text = Text.endWithNewline body := by
  obtain ⟨result, course, completes⟩ := render_course options attributes nodes
  obtain ⟨texts, made, body, assembled, written⟩ := completes_ok (rendered ▸ completes)
  have told := laws.course course (steady_own (.inl ⟨[], rfl⟩)) (quiet_own fun _ => Node.noConfusion) inside_document rfl made
  exact ⟨texts, body, told, assembled, written⟩

end Account

end Adocify.AsciiDoc
