import Adocify.Proofs.ReachedNodes
import Adocify.Proofs.SessionAttributes
import Adocify.Proofs.TextLines

/-! Where the targets of images lead. One attribute is put before every target of a document, and each image decides on
its own whether its target is written relative to the images directory. -/

namespace Adocify.AsciiDoc

abbrev imagesdir : Text := "imagesdir".toList

/-- The target that is written for an address. -/
def writtenTarget (options : Options) (url : Text) : Text :=
  match options.imagesDirectory with
  | none => url
  | some directory =>
    let start := trimSlashes directory ++ ['/']
    if start.isPrefixOf url then url.drop start.length else url

/-- What a reader of the document puts together from a target and the directory that all targets are relative to. -/
def resolved (directory : Option Value) (target : Text) : Text :=
  match directory with
  | some value => value.display ++ '/' :: target
  | none => target

section

variable {options : Options} {url : Text}

theorem written_outside (outside : ¬InDirectory options url) : writtenTarget options url = url := by
  rw [writtenTarget]
  split
  · rfl
  next directory given =>
    exact if_neg fun under => outside ⟨directory, given, List.isPrefixOf_iff_prefix.mp under⟩

theorem written_inside (inside : InDirectory options url) : ∃ directory, options.imagesDirectory = some directory ∧
    url = trimSlashes directory ++ '/' :: writtenTarget options url := by
  obtain ⟨directory, given, rest, rfl⟩ := inside
  refine ⟨directory, given, ?_⟩
  simp [writtenTarget, given]

/-- The target is written, and the directory stands in the attributes if it was left out of the target. -/
theorem imageTarget_ran {before after : Context} {target : Text}
    (ran : (imageTarget options url).runIn before = (.ok target, after)) :
    target = writtenTarget options url ∧ (InDirectory options url → imagesdir ∈ after.attributes.names) := by
  cases given : options.imagesDirectory with
  | none =>
    simp only [imageTarget, writtenTarget, given] at ran ⊢
    obtain ⟨rfl, rfl⟩ := Render.runIn_pure_ok.mp ran
    refine ⟨rfl, ?_⟩
    rintro ⟨directory, found, -⟩
    rw [given] at found
    cases found
  | some directory =>
    simp only [imageTarget, writtenTarget, given] at ran ⊢
    by_cases under : (trimSlashes directory ++ ['/']).isPrefixOf url = true
    · rw [if_pos under] at ran ⊢
      obtain ⟨_, between, registered, ran⟩ := Render.runIn_bind_ok.mp ran
      obtain ⟨rfl, rfl⟩ := Render.runIn_pure_ok.mp ran
      obtain ⟨-, rfl⟩ := Prod.mk.inj registered
      exact ⟨rfl, fun _ => Attributes.mem_register _ _ _⟩
    · rw [if_neg under] at ran ⊢
      obtain ⟨rfl, rfl⟩ := Render.runIn_pure_ok.mp ran
      refine ⟨rfl, ?_⟩
      rintro ⟨other, found, inside⟩
      obtain rfl := Option.some.inj (given.symm.trans found)
      exact absurd (List.isPrefixOf_iff_prefix.mpr inside) under

/-- The text holds the macro of an image with this target, within a line or as a block. -/
def ShowsTarget (text target : Text) : Prop :=
  "image:".toList ++ target ++ ['['] <:+: text ∨ "image::".toList ++ target ++ ['['] <:+: text

theorem ShowsTarget.within {text whole target : Text} (shown : ShowsTarget text target) (inside : text <:+: whole) :
    ShowsTarget whole target :=
  shown.imp (fun here => here.trans inside) fun here => here.trans inside

section

variable {before after : Context} {text : Text}

theorem image_ran {alternative : Text} {title : Option Text}
    (ran : (image options url alternative title).runIn before = (.ok text, after)) :
    ShowsTarget text (writtenTarget options url) ∧ (InDirectory options url → imagesdir ∈ after.attributes.names) := by
  obtain ⟨target, between, located, ran⟩ := Render.runIn_bind_ok.mp ran
  obtain ⟨rfl, rfl⟩ := Render.runIn_pure_ok.mp ran
  obtain ⟨rfl, registers⟩ := imageTarget_ran located
  refine ⟨.inl (List.IsPrefix.isInfix ?_), registers⟩
  simp only [List.append_assoc, List.cons_append, List.prefix_append_right_inj]
  exact List.prefix_append _ _

theorem blockImage_ran {found : BlockImage} (ran : (blockImage options found).runIn before = (.ok text, after)) :
    ShowsTarget text (writtenTarget options found.url) ∧
      (InDirectory options found.url → imagesdir ∈ after.attributes.names) := by
  obtain ⟨target, between, located, ran⟩ := Render.runIn_bind_ok.mp ran
  obtain ⟨rfl, rfl⟩ := Render.runIn_pure_ok.mp ran
  obtain ⟨rfl, registers⟩ := imageTarget_ran located
  have shown (linked : Text) : ShowsTarget
      ("image::".toList ++ writtenTarget options found.url ++ '[' :: escapeMacroText found.alternative ++ linked ++ [']'])
      (writtenTarget options found.url) := by
    refine .inr (List.IsPrefix.isInfix ?_)
    simp only [List.append_assoc, List.cons_append, List.prefix_append_right_inj]
    exact List.prefix_append _ _
  refine ⟨?_, registers⟩
  split
  · exact (shown _).within ((List.suffix_cons _ _).trans (List.suffix_append _ _)).isInfix
  · exact shown _

theorem ShowsTarget.filled {target : Text} (shown : ShowsTarget text target) : text ≠ [] := by
  rintro rfl
  rcases shown with inside | inside <;> exact absurd (List.infix_nil.mp inside) (by simp)

theorem paragraph_ran (stage : Stage) {content : List Node} (shown : url ∈ ownImages (.paragraph content))
    (ran : (paragraph stage.options (content.map stage.child)).runIn before = (.ok text, after)) :
    ShowsTarget text (writtenTarget stage.options url) ∧
      (InDirectory stage.options url → imagesdir ∈ after.attributes.names) := by
  obtain ⟨found, image, rfl⟩ := Option.map_eq_some_iff.mp (Option.mem_toList.mp shown)
  simp only [paragraph, Stage.nodes_eq, image] at ran
  exact blockImage_ran ran

/-- What is rendered later takes no attribute away. -/
theorem children_kept {stage : Stage} {nodes : List Node} {texts : List Text}
    (ran : (Render.sequence ((nodes.map stage.child).map (·.rendered))).runIn before = (.ok texts, after)) :
    before.attributes <+: after.attributes := by
  have takes : stage.Takes nodes Laid (Render.sequence ((nodes.map stage.child).map (·.rendered))) :=
    .children fun node _ => follows stage.options stage.depth node
  have kept : Frame.appending.same before _ := (Frame.appending_lawful stage.options).takes takes
    (fun _ _ => Frame.attributes_kept _ _) (fun _ _ => trivial) trivial
  rwa [ran] at kept

/-- A node shows the images of its own, each by the target that is written for its address. -/
theorem ownImage_ran {depth : Nat} {node : Node} (shown : url ∈ ownImages node)
    (ran : (renderNode options (renderFootnote options depth) node).runIn before = (.ok text, after)) :
    ShowsTarget text (writtenTarget options url) ∧ (InDirectory options url → imagesdir ∈ after.attributes.names) := by
  have children (nodes : List Node) : renderChildren options (renderFootnote options depth) nodes =
      nodes.map (Stage.plain options depth).child := Stage.renderChildren_eq (.plain options depth) nodes
  cases node with
  | image address alternative title =>
    obtain rfl := List.mem_singleton.mp shown
    rw [renderNode] at ran
    exact image_ran ran
  | paragraph content =>
    rw [renderNode, children] at ran
    exact paragraph_ran (.plain options depth) shown ran
  | blockQuote nodes =>
    rcases nodes with _ | ⟨first, rest⟩
    · cases shown
    cases first with
    | paragraph content =>
      simp only [ownImages] at shown
      cases split : splitAdmonition id .text content with
      | none =>
        rw [split] at shown
        cases shown
      | some found =>
        obtain ⟨label, remainder⟩ := found
        rw [split] at shown
        have labelled : splitAdmonition (·.node) (Child.ofText options)
            (content.map (Stage.plain options depth).child) = _ := Stage.splitAdmonition_eq content
        rw [split] at labelled
        simp only [renderNode, children, blockQuote, Option.bind_some, labelled, Option.map_some, List.cons_append,
          List.nil_append] at ran
        obtain ⟨texts, last, all, ran⟩ := Render.runIn_bind_ok.mp ran
        obtain ⟨rfl, rfl⟩ := Render.runIn_pure_ok.mp ran
        obtain ⟨own, between, others, here, behind, rfl⟩ := Render.sequence_cons_ok.mp all
        obtain ⟨shows, registers⟩ := paragraph_ran (.plain options depth) shown here
        refine ⟨shows.within ?_, fun inside => ?_⟩
        · rw [List.filter_cons_of_pos (by simpa using shows.filled), Text.join_cons]
          refine ⟨'[' :: label ++ "]\n====\n".toList,
            Text.continued blankLine (others.filter fun text => !text.isEmpty) ++ "\n====".toList, ?_⟩
          simp only [List.append_assoc, List.cons_append]
        · exact ((children_kept behind).map Prod.fst).subset (registers inside)
    | _ => cases shown
  | _ => cases shown

end

end

/-- An image with this address is rendered in the course of the tree's rendering. -/
def ImageReached (root : Node) (url : Text) : Prop := ∃ node, Reaches (notesOf root) root node ∧ url ∈ ownImages node

/-- A node that shows an image of the images directory. -/
def ShowsDirectory (options : Options) (node : Node) : Prop := ∃ url ∈ ownImages node, InDirectory options url

theorem spared_imagesdir (root : Node) (options : Options) :
    (spared root (ShowsDirectory options) fun context => context.attributes.get? imagesdir).Lawful options := by
  refine spared_lawful ?_ (fun _ _ => rfl) fun _ => rfl
  rintro node change other ⟨-, befits⟩ context
  cases change with
  | register name value =>
    refine Attributes.get?_register_other (fun same => ?_) value
    rw [Change.Befits, ← same] at befits
    cases befits with
    | image shown inside => exact other ⟨_, shown, inside⟩
  | _ => rfl

section

variable {options : Options} {attributes : Attributes} {nodes : List Node} {url : Text}

theorem reaches_text {table : FootnoteTable} {content : Text} {next : Node} (reaches : Reaches table (.text content) next) :
    next = .text content := by
  rcases Relation.ReflTransGen.cases_head reaches with rfl | ⟨first, part | ⟨identifier, others, same, -⟩, -⟩
  · rfl
  · cases part
  · cases same

/-- Without an image of the images directory nothing says where images are. -/
theorem imagesdir_untouched (none : ∀ url, ImageReached (.document nodes) url → ¬InDirectory options url) :
    (render options attributes (.document nodes)).context.attributes.get? imagesdir = attributes.get? imagesdir := by
  obtain ⟨result, course, -⟩ := render_course options attributes nodes
  have laws := spared_imagesdir (.document nodes) options
  have settled : (opened nodes attributes).attributes.get? imagesdir = attributes.get? imagesdir := by
    simp only [opened]
    split
    · exact Attributes.get?_register_other (by decide) _
    · rfl
  refine Eq.trans (laws.course course (fun arises start => ?_) (fun part member => ?_) rfl).2 settled
  · refine laws.change ⟨.inl ⟨[], rfl⟩, fun next reaches => ?_⟩ arises start
    rw [reaches_text reaches]
    rintro ⟨url, shown, -⟩
    cases shown
  · refine ⟨inside_document part member, ?_⟩
    rintro next reaches ⟨url, shown, inside⟩
    exact none url ⟨next, .head (.inl member) reaches, shown⟩ inside

/-- Every image that is reached is rendered, and the directory of its target is given. -/
theorem image_rendered {text : Text} (rendered : (render options attributes (.document nodes)).outcome = .ok text)
    {node : Node} (reaches : Reaches (notesOf (.document nodes)) (.document nodes) node) (shown : url ∈ ownImages node) :
    (∃ depth before own after,
      (renderNode options (renderFootnote options depth) node).runIn before = (.ok own, after)) ∧
    (InDirectory options url →
      imagesdir ∈ (render options attributes (.document nodes)).context.attributes.names) := by
  have apart : ¬IsReference node := by
    intro reference
    cases node with
    | footnoteReference => cases shown
    | _ => exact reference
  obtain ⟨depth, before, own, after, ran, kept⟩ := reached_rendered rendered reaches apart
  have registers := (ownImage_ran shown ran).2
  exact ⟨⟨depth, before, own, after, ran⟩, fun inside => (kept.map Prod.fst).subset (registers inside)⟩

end

/-- What all targets of a document are relative to: what the mapping says, or else the images directory, if an image
stands under it. -/
inductive DirectoryGiven (options : Options) (attributes : Attributes) (root : Node) : Option Value → Prop where
  | supplied {value : Value} (held : attributes.get? imagesdir = some value) :
      DirectoryGiven options attributes root (some value)
  | registered {url directory : Text} (unset : attributes.get? imagesdir = none) (reached : ImageReached root url)
      (given : options.imagesDirectory = some directory) (under : trimSlashes directory ++ ['/'] <+: url) :
      DirectoryGiven options attributes root (some (.text (trimSlashes directory)))
  | none (unset : attributes.get? imagesdir = none)
      (apart : ∀ url, ImageReached root url → ¬InDirectory options url) : DirectoryGiven options attributes root none

section

variable {options : Options} {attributes : Attributes} {nodes : List Node} {url text : Text}

theorem directory_given (rendered : (render options attributes (.document nodes)).outcome = .ok text) :
    DirectoryGiven options attributes (.document nodes)
      ((render options attributes (.document nodes)).context.attributes.get? imagesdir) := by
  obtain ⟨entries, registrable, left⟩ := render_appends options attributes (.document nodes)
  cases held : attributes.get? imagesdir with
  | some value =>
    obtain ⟨added, appended, -⟩ := Attributes.registerAll_appends attributes entries
    rw [left, Attributes.get?_prefix ⟨added, appended.symm⟩ held]
    exact .supplied held
  | none =>
    by_cases shown : ∃ url, ImageReached (.document nodes) url ∧ InDirectory options url
    · obtain ⟨url, ⟨node, reaches, own⟩, inside⟩ := shown
      have known := (image_rendered rendered reaches own).2 inside
      obtain ⟨directory, given, under⟩ := inside
      rw [← Attributes.holds_iff, Attributes.holds, Option.isSome_iff_exists] at known
      obtain ⟨value, found⟩ := known
      rw [found]
      rw [left] at found
      have registered := registrable _ (Attributes.mem_of_get?_registerAll held found)
      cases registered with
      | imagesDirectory same =>
        obtain rfl := Option.some.inj (given.symm.trans same)
        exact .registered held ⟨node, reaches, own⟩ given under
    · have apart : ∀ url, ImageReached (.document nodes) url → ¬InDirectory options url :=
        fun url reached inside => shown ⟨url, reached, inside⟩
      rw [imagesdir_untouched apart, held]
      exact .none held apart

/-- What is written relative to the images directory leads back, if nothing else was named. -/
theorem DirectoryGiven.leads {root : Node} {directory : Option Value}
    (given : DirectoryGiven options attributes root directory) (reached : ImageReached root url)
    (inside : InDirectory options url)
    (known : ∀ value, attributes.get? imagesdir = some value →
      ∃ own, options.imagesDirectory = some own ∧ value.display = trimSlashes own) :
    resolved directory (writtenTarget options url) = url := by
  obtain ⟨own, named, whole⟩ := written_inside inside
  obtain ⟨value, found, shown⟩ : ∃ value, directory = some value ∧ value.display = trimSlashes own := by
    cases given with
    | @supplied value held =>
      obtain ⟨other, same, shown⟩ := known value held
      obtain rfl := Option.some.inj (named.symm.trans same)
      exact ⟨value, rfl, shown⟩
    | registered _ _ same =>
      obtain rfl := Option.some.inj (named.symm.trans same)
      exact ⟨_, rfl, rfl⟩
    | none _ apart => exact absurd inside (apart url reached)
  rw [found, resolved, shown]
  exact whole.symm

end

/-- An image is shown by its target wherever it is rendered. An image of the images directory leads to its address unless
the mapping names another directory, and any other image does so as long as no directory is named. -/
theorem image_targets_lead (options : Options) (attributes : Attributes) {nodes : List Node} {text : Text}
    (rendered : (render options attributes (.document nodes)).outcome = .ok text) :
    let root := Node.document nodes
    let directory := (render options attributes root).context.attributes.get? imagesdir
    DirectoryGiven options attributes root directory ∧
    (∀ url, InDirectory options url → ∃ prefixed, options.imagesDirectory = some prefixed ∧
      url = trimSlashes prefixed ++ '/' :: writtenTarget options url) ∧
    (∀ url, ¬InDirectory options url → writtenTarget options url = url) ∧
    (∀ node url, url ∈ ownImages node →
      (Reaches (notesOf root) root node → ∃ depth before own after,
        (renderNode options (renderFootnote options depth) node).runIn before = (.ok own, after)) ∧
      ∀ depth before own after,
        (renderNode options (renderFootnote options depth) node).runIn before = (.ok own, after) →
        ShowsTarget own (writtenTarget options url)) ∧
    ∀ url, ImageReached root url →
      (InDirectory options url →
        (∀ value, attributes.get? imagesdir = some value →
          ∃ own, options.imagesDirectory = some own ∧ value.display = trimSlashes own) →
        resolved directory (writtenTarget options url) = url) ∧
      (¬InDirectory options url → attributes.get? imagesdir = none →
        (∀ other, ImageReached root other → ¬InDirectory options other) →
        resolved directory (writtenTarget options url) = url) := by
  intro root directory
  have given := directory_given rendered
  refine ⟨given, fun url => written_inside, fun url => written_outside,
    fun node url shown => ⟨?_, ?_⟩, fun url reached => ⟨?_, ?_⟩⟩
  · exact fun reaches => (image_rendered rendered reaches shown).1
  · exact fun depth before own after ran => (ownImage_ran shown ran).1
  · exact fun inside known => given.leads reached inside known
  · intro outside unset apart
    have none : directory = none := (imagesdir_untouched apart).trans unset
    rw [none, resolved, written_outside outside]

def pictures : List Node :=
  [.paragraph [.text "See ".toList, .image "images/a.png".toList "A".toList none],
    .blockQuote [.paragraph [.strong [.text "Note:".toList], .image "images/b.png".toList [] none]]]

/-- Both images are written relative to the directory that the first one registers. -/
theorem image_targets_lead_pictures :
    let options : Options := { imagesDirectory := some "images/".toList }
    (render options [] (.document pictures)).outcome =
      .ok ":imagesdir: images\n\nSee image:a.png[A]\n\n[NOTE]\n====\nimage::b.png[]\n====\n".toList ∧
    resolved ((render options [] (.document pictures)).context.attributes.get? imagesdir) "b.png".toList =
      "images/b.png".toList := by
  intro options
  have rendered : (render options [] (.document pictures)).outcome =
      .ok ":imagesdir: images\n\nSee image:a.png[A]\n\n[NOTE]\n====\nimage::b.png[]\n====\n".toList := by
    decide +kernel
  have reached : ImageReached (.document pictures) "images/b.png".toList :=
    ⟨_, .single (.inl (List.mem_cons_of_mem _ List.mem_cons_self)), List.mem_cons_self⟩
  obtain ⟨-, -, -, -, leads⟩ := image_targets_lead options [] rendered
  have target : writtenTarget options "images/b.png".toList = "b.png".toList := by decide +kernel
  refine ⟨rendered, target ▸ (leads _ reached).1 ?_ nofun⟩
  exact ⟨_, rfl, "b.png".toList, by decide +kernel⟩

/-- A directory that the mapping names is put before targets that nothing was left out of; and the directory of one
image is put before the target of another. -/
theorem image_targets_misled :
    let supplied : Attributes := [(imagesdir, .text "pics".toList)]
    let alone : List Node := [.paragraph [.image "pics/a.png".toList [] none]]
    let options : Options := { imagesDirectory := some "images".toList }
    let mixed : List Node :=
      [.paragraph [.image "images/a.png".toList [] none], .paragraph [.image "other/b.png".toList [] none]]
    (render {} supplied (.document alone)).outcome = .ok ":imagesdir: pics\n\nimage::pics/a.png[]\n".toList ∧
    resolved ((render {} supplied (.document alone)).context.attributes.get? imagesdir)
      (writtenTarget {} "pics/a.png".toList) = "pics/pics/a.png".toList ∧
    (render options [] (.document mixed)).outcome =
      .ok ":imagesdir: images\n\nimage::a.png[]\n\nimage::other/b.png[]\n".toList ∧
    resolved ((render options [] (.document mixed)).context.attributes.get? imagesdir)
      (writtenTarget options "other/b.png".toList) = "images/other/b.png".toList := by
  intro supplied alone options mixed
  exact ⟨by decide +kernel, by decide +kernel, by decide +kernel, by decide +kernel⟩

end Adocify.AsciiDoc
