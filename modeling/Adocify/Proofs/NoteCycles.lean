import Mathlib.Data.List.Perm.Subperm
import Adocify.Proofs.RenderFrames

/-! Footnotes that do not refer to themselves. A rendering follows references from footnote to footnote,
and since no footnote comes up twice on the way, it never runs out of steps. What makes it fail is then a
node that it has reached. -/

namespace Adocify

namespace FootnoteTable

/-- A footnote refers to the footnotes that its content has references to. -/
def Refers (table : FootnoteTable) (identifier other : Text) : Prop :=
  ∃ content, table.lookup identifier = some content ∧ ∃ block ∈ content, block.Contains (.footnoteReference other)

/-- No footnote refers to itself, directly or through others. -/
def Acyclic (table : FootnoteTable) : Prop := ∀ identifier, ¬Relation.TransGen table.Refers identifier identifier

variable {table : FootnoteTable}

/-- What the table tells of a footnote the other tells as well. -/
def Within (table other : FootnoteTable) : Prop :=
  ∀ {identifier content}, table.lookup identifier = some content → other.lookup identifier = some content

theorem within_add (table : FootnoteTable) (definition : Text × List Node) : table.Within (table.add definition) := by
  intro identifier content found
  simp only [add]
  split
  · exact found
  · rw [List.lookup_append, found, Option.some_or]

/-- What is recorded of a footnote stays as it is. -/
theorem within_collect (table : FootnoteTable) (node : Node) : table.Within (table.collect node) := by
  simp only [collect]
  generalize node.footnotes = definitions
  induction definitions generalizing table with
  | nil => exact id
  | cons definition rest ih => exact fun found => ih (table.add definition) (table.within_add definition found)

/-- Footnotes of a tree, none of them twice. -/
structure DefinedIn (root : Node) (table : FootnoteTable) : Prop where
  distinct : (table.map (·.1)).Nodup
  defined : ∀ note ∈ table, note ∈ root.footnotes

theorem DefinedIn.add {root : Node} (known : DefinedIn root table) {definition : Text × List Node}
    (defined : definition ∈ root.footnotes) : DefinedIn root (table.add definition) := by
  simp only [FootnoteTable.add]
  split
  next => exact known
  next absent =>
    have fresh : definition.1 ∉ table.map (·.1) := by
      simpa using absent
    refine ⟨?_, List.forall_mem_append.mpr ⟨known.defined, List.forall_mem_singleton.mpr defined⟩⟩
    rw [List.map_append, List.map_singleton, ← List.concat_eq_append]
    exact known.distinct.concat fresh

theorem DefinedIn.collect {root node : Node} (known : DefinedIn root table)
    (defined : ∀ note ∈ node.footnotes, note ∈ root.footnotes) : DefinedIn root (table.collect node) := by
  simp only [FootnoteTable.collect]
  generalize node.footnotes = definitions at defined
  induction definitions generalizing table with
  | nil => exact known
  | cons definition rest ih =>
    exact ih (known.add (defined definition List.mem_cons_self)) fun note member => defined note (.tail _ member)

theorem DefinedIn.length {root : Node} (known : DefinedIn root table) : table.length ≤ root.footnotes.length := by
  have inside : table.map (·.1) ⊆ root.footnotes.map (·.1) := List.map_subset _ known.defined
  have bound := (List.subperm_of_subset known.distinct inside).length_le
  rwa [List.length_map, List.length_map] at bound

/-- Distinct footnotes of a table are at most as many as it has entries. -/
theorem length_known {identifiers : List Text} (distinct : identifiers.Nodup)
    (known : ∀ identifier ∈ identifiers, (table.lookup identifier).isSome) : identifiers.length ≤ table.length := by
  have inside : identifiers ⊆ table.map (·.1) := by
    intro identifier member
    obtain ⟨content, found⟩ := Option.isSome_iff_exists.mp (known identifier member)
    exact List.mem_map.mpr ⟨_, mem_of_lookup found, rfl⟩
  have bound := (List.subperm_of_subset distinct inside).length_le
  rwa [List.length_map] at bound

/-- Footnotes that refer only to lower ones do not refer to themselves. -/
theorem acyclic_of_rank (rank : Text → Nat)
    (falls : ∀ note ∈ table, ∀ block ∈ note.2,
      block.Everywhere fun node => ∀ other, node = .footnoteReference other → rank other < rank note.1) :
    table.Acyclic := by
  have steps : ∀ {identifier other}, table.Refers identifier other → rank other < rank identifier := by
    rintro identifier other ⟨content, found, block, member, inside⟩
    exact falls _ (mem_of_lookup found) block member _ inside other rfl
  have down : ∀ {identifier other}, Relation.TransGen table.Refers identifier other → rank other < rank identifier := by
    intro identifier other refers
    induction refers with
    | single step => exact steps step
    | tail _ step ih => exact (steps step).trans ih
  exact fun identifier refers => Nat.lt_irrefl _ (down refers)

end FootnoteTable

namespace AsciiDoc

open FootnoteTable (Refers Acyclic)

section

variable {table : FootnoteTable} {identifier other : Text} {content : List Node} {block node next : Node}

/-- The node stands in a footnote that is reached through references. -/
def Held (table : FootnoteTable) (identifier : Text) (node : Node) : Prop :=
  ∃ inner content, Relation.ReflTransGen table.Refers identifier inner ∧ table.lookup inner = some content ∧
    ∃ block ∈ content, block.Contains node

/-- A footnote is not reached from its own content. -/
theorem acyclic_unreached (acyclic : Acyclic table) (found : table.lookup identifier = some content)
    (member : block ∈ content) : ¬Reaches table block (.footnoteReference identifier) := by
  intro reaches
  have start : Held table identifier block := ⟨identifier, content, .refl, found, block, member, .refl⟩
  have below {parent child : Node} (held : Held table identifier parent) (under : child ∈ parent.children) :
      Held table identifier child := by
    obtain ⟨inner, others, refers, known, holder, within, above⟩ := held
    exact ⟨inner, others, refers, known, holder, within, above.tail under⟩
  have noted {other : Text} {others : List Node} {next : Node} (held : Held table identifier (.footnoteReference other))
      (known : table.lookup other = some others) (inside : next ∈ others) : Held table identifier next := by
    obtain ⟨inner, around, refers, outer, holder, within, reference⟩ := held
    exact ⟨other, others, refers.tail ⟨around, outer, holder, within, reference⟩, known, next, inside, .refl⟩
  rcases reaches.within (Held table identifier) below noted (.inr start) with ⟨text, same⟩ | held
  · cases same
  · obtain ⟨inner, others, refers, known, holder, within, inside⟩ := held
    exact acyclic identifier (.tail' refers ⟨others, known, holder, within, inside⟩)

/-- The footnotes from which a node was come to; together with the steps that are left they are as many
as the table has. -/
structure Trail (table : FootnoteTable) (depth : Nat) (node : Node) (trail : List Text) : Prop where
  distinct : trail.Nodup
  enough : table.length ≤ trail.length + depth
  passed : ∀ identifier ∈ trail, ∃ content, table.lookup identifier = some content ∧ ∃ block ∈ content,
    Reaches table block node

variable {depth : Nat} {trail : List Text}

theorem Trail.start (enough : table.length ≤ depth) (node : Node) : Trail table depth node [] :=
  ⟨.nil, by simpa using enough, nofun⟩

theorem Trail.part (passed : Trail table depth node trail) (member : next ∈ partsOf node) :
    Trail table depth next trail := by
  refine ⟨passed.distinct, passed.enough, fun identifier inside => ?_⟩
  obtain ⟨content, found, block, within, reaches⟩ := passed.passed identifier inside
  exact ⟨content, found, block, within, reaches.tail (.inl member)⟩

theorem Trail.fresh (passed : Trail table depth (.footnoteReference identifier) trail) (acyclic : Acyclic table) :
    identifier ∉ trail := by
  intro inside
  obtain ⟨content, found, block, within, reaches⟩ := passed.passed identifier inside
  exact acyclic_unreached acyclic found within reaches

theorem Trail.known (passed : Trail table depth node trail) :
    ∀ identifier ∈ trail, (table.lookup identifier).isSome := by
  intro identifier inside
  obtain ⟨content, found, -⟩ := passed.passed identifier inside
  rw [found, Option.isSome_some]

theorem Trail.note (passed : Trail table (depth + 1) (.footnoteReference identifier) trail) (acyclic : Acyclic table)
    (found : table.lookup identifier = some content) (member : block ∈ content) :
    Trail table depth block (identifier :: trail) := by
  refine ⟨List.nodup_cons.mpr ⟨passed.fresh acyclic, passed.distinct⟩, ?_, fun other inside => ?_⟩
  · have enough := passed.enough
    rw [List.length_cons]
    omega
  · rcases List.mem_cons.mp inside with rfl | earlier
    · exact ⟨content, found, block, member, .refl⟩
    · obtain ⟨others, known, holder, within, reaches⟩ := passed.passed other earlier
      exact ⟨others, known, holder, within, reaches.tail (.inr ⟨identifier, content, rfl, found, member⟩)⟩

/-- The steps do not run out. -/
theorem Trail.unexhausted (passed : Trail table 0 (.footnoteReference identifier) trail) (acyclic : Acyclic table)
    (found : table.lookup identifier = some content) : False := by
  have distinct : (identifier :: trail).Nodup := List.nodup_cons.mpr ⟨passed.fresh acyclic, passed.distinct⟩
  have known : ∀ other ∈ identifier :: trail, (table.lookup other).isSome := by
    intro other inside
    rcases List.mem_cons.mp inside with rfl | earlier
    · rw [found, Option.isSome_some]
    · exact passed.known other earlier
  have bound := FootnoteTable.length_known distinct known
  have enough := passed.enough
  rw [List.length_cons] at bound
  omega

end

/-- The failure is that of a node that is reached. -/
def Blamed (options : Options) (table : FootnoteTable) (node : Node) (failure : Failure) : Prop :=
  ∃ culprit, Reaches table node culprit ∧ Refuses options culprit failure

/-- Footnotes that have been recorded stay. -/
def growing : Frame := ⟨fun _ => True, fun _ => True, fun before after => before.footnotes.Within after.footnotes⟩

theorem growing_change (change : Change) (before : Context) :
    before.footnotes.Within (change.apply before).footnotes := by
  cases change with
  | collect nodes => exact FootnoteTable.within_collect _ _
  | _ => exact id

theorem growing_lawful (options : Options) : growing.Lawful options where
  refl _ := id
  trans first second := fun found => second (first found)
  kept _ _ := trivial
  part _ _ := trivial
  note _ _ _ _ := trivial
  change _ _ _ := growing_change _ _
  entered _ _ := trivial
  inside _ _ same := same

/-- Footnotes are recorded from the tree only, and none twice. -/
def recording (root : Node) : Frame where
  node := Inside root
  context context := context.footnotes.DefinedIn root
  same before after := before.footnotes.DefinedIn root → after.footnotes.DefinedIn root

theorem recording_lawful (root : Node) (options : Options) : (recording root).Lawful options where
  refl _ := id
  trans first second := second ∘ first
  kept start same := same start
  part inside member := inside.part member
  note start _ found member := .inr (Node.contains_note (start.defined _ (FootnoteTable.mem_of_lookup found)) member)
  change := by
    rintro node change before inside arises - known
    cases change with
    | collect nodes =>
      cases node with
      | document others =>
        obtain rfl : nodes = others := arises.1
        refine known.collect fun note member => ?_
        rcases inside with ⟨content, same⟩ | inside
        · cases same
        · have defined := (Node.mem_footnotes_iff _).mp member
          exact (Node.mem_footnotes_iff root).mpr (inside.trans defined)
      | _ => exact arises.1.elim
    | _ => exact known
  entered _ start := start
  inside _ _ same := same

section

variable {options : Options} {last : FootnoteTable}

theorem Passage.grows {depth : Nat} {node : Node} {before after : Context} {outcome : Except Failure Text}
    (passage : Passage options depth node before outcome after) : before.footnotes.Within after.footnotes :=
  (growing_lawful options).passage passage trivial trivial

theorem Course.grows {depth : Nat} {own : Change → Prop} {refuses : Failure → Prop} {nodes : List Node}
    {before after : Context} {result : Except Failure (List Text)}
    (course : Course options depth own refuses nodes before result after) : before.footnotes.Within after.footnotes :=
  (growing_lawful options).course course (fun _ _ => growing_change _ _) (fun _ _ => trivial) trivial

mutual

theorem Passage.blamed (acyclic : Acyclic last) : ∀ {depth node before outcome after},
    Passage options depth node before outcome after → after.footnotes.Within last →
      ∀ {trail}, Trail last depth node trail → ∀ {failure}, outcome = .error failure →
        Blamed options last node failure
  | _, _, _, _, _, @Passage.parts _ _ node _ result _ _ course makes _, recorded, trail, passed, failure, failed => by
    have ended : result = .error failure := completes_error (failed ▸ makes)
    have blamed := Course.blamed acyclic course recorded (fun part member => passed.part member) ended
    rcases blamed with refused | ⟨part, member, culprit, reaches, refused⟩
    · exact ⟨node, .refl, refused⟩
    · exact ⟨culprit, .head (.inl member) reaches, refused⟩
  | _, _, _, _, _, .repeated _, _, _, _, _, failed => nomatch failed
  | _, _, _, _, _, .undefined _ _, _, _, _, _, failed => nomatch failed
  | _, _, _, _, _, .exhausted _ found, recorded, _, passed, _, _ => (passed.unexhausted acyclic (recorded found)).elim
  | _, _, _, _, _, .noted _ _ _ _, _, _, _, _, failed => nomatch failed
  | _, _, _, _, _, @Passage.failed _ _ _ content _ _ _ _ found course, recorded, _, passed, failure, failed => by
    obtain rfl := Except.error.inj failed
    have found : last.lookup _ = some content := recorded (course.grows found)
    have blamed := Course.blamed acyclic course recorded (fun block member => passed.note acyclic found member) rfl
    rcases blamed with refused | ⟨block, member, culprit, reaches, refused⟩
    · exact refused.elim
    · exact ⟨culprit, .head (.inr ⟨_, content, rfl, found, member⟩) reaches, refused⟩
termination_by structural _ _ _ _ _ passage => passage

theorem Course.blamed (acyclic : Acyclic last) : ∀ {depth own refuses nodes before result after},
    Course options depth own refuses nodes before result after → after.footnotes.Within last →
      ∀ {trail}, (∀ node ∈ nodes, Trail last depth node trail) → ∀ {failure}, result = .error failure →
        refuses failure ∨ ∃ node ∈ nodes, Blamed options last node failure
  | _, _, _, _, _, _, _, .nil, _, _, _, _, failed => nomatch failed
  | _, _, _, _, _, _, _, .change _, _, _, _, _, failed => nomatch failed
  | _, _, _, _, _, _, _, .refuse refused, _, _, _, _, failed => .inl (Except.error.inj failed ▸ refused)
  | _, _, _, _, _, _, _, @Course.visit _ _ _ _ node _ outcome _ passage, recorded, _, passed, failure, failed => by
    have ended : outcome = .error failure := map_error failed
    have here : node ∈ [node] := List.mem_cons_self
    exact .inr ⟨node, here, Passage.blamed acyclic passage recorded (passed node here) ended⟩
  | _, _, _, _, _, _, _, @Course.append _ _ _ _ _ _ _ _ _ result _ _ rest, recorded, _, passed, failure, failed => by
    have ended : result = .error failure := map_error failed
    have blamed := Course.blamed acyclic rest recorded
      (fun node member => passed node (List.mem_append_right _ member)) ended
    exact blamed.imp id fun ⟨node, member, blame⟩ => ⟨node, List.mem_append_right _ member, blame⟩
  | _, _, _, _, _, _, _, .stop first, recorded, _, passed, failure, failed => by
    have blamed := Course.blamed acyclic first recorded
      (fun node member => passed node (List.mem_append_left _ member)) failed
    exact blamed.imp id fun ⟨node, member, blame⟩ => ⟨node, List.mem_append_left _ member, blame⟩
  | _, _, _, _, _, _, _, .inside _ content, recorded, _, passed, _, failed =>
    Course.blamed acyclic content recorded passed failed
termination_by structural _ _ _ _ _ _ _ course => course

end

end

/-- The footnotes that the rendering of a tree records. -/
def recordedNotes (options : Options) (attributes : Attributes) (root : Node) : FootnoteTable :=
  (render options attributes root).context.footnotes

theorem recordedNotes_defined (options : Options) (attributes : Attributes) (root : Node) :
    (recordedNotes options attributes root).DefinedIn root := by
  have passage := follows options root.footnotes.length root { attributes }
  exact (recording_lawful root options).passage passage (.inr .refl) ⟨.nil, nofun⟩ ⟨.nil, nofun⟩

/-- A document records all footnotes in it. -/
theorem recordedNotes_document (options : Options) (attributes : Attributes) (nodes : List Node) :
    recordedNotes options attributes (.document nodes) = notesOf (.document nodes) := by
  obtain ⟨result, course, -⟩ := render_course options attributes nodes
  exact course.steady (steady_own (.inl ⟨[], rfl⟩)) inside_document rfl

/-- If the footnotes of a tree do not refer to themselves, it fails only by the failure of a node that
is reached. -/
theorem tree_blamed {options : Options} {attributes : Attributes} {root : Node} {failure : Failure}
    (acyclic : Acyclic (recordedNotes options attributes root))
    (failed : (render options attributes root).outcome = .error failure) :
    Blamed options (recordedNotes options attributes root) root failure := by
  have passage := follows options root.footnotes.length root { attributes }
  have enough := (recordedNotes_defined options attributes root).length
  exact passage.blamed acyclic id (.start enough root) (map_error failed)

/-- If footnotes do not refer to themselves, a document fails only by the failure of a node that is
reached. -/
theorem render_blamed {options : Options} {attributes : Attributes} {nodes : List Node} {failure : Failure}
    (acyclic : Acyclic (notesOf (.document nodes)))
    (failed : (render options attributes (.document nodes)).outcome = .error failure) :
    Blamed options (notesOf (.document nodes)) (.document nodes) failure := by
  rw [← recordedNotes_document options attributes nodes] at acyclic ⊢
  exact tree_blamed acyclic failed

end AsciiDoc

end Adocify
