import Mathlib.Data.List.Nodup
import Adocify.Attributes

/-! Registering several attributes. What is registered is appended, each name once, and to register it
all again changes nothing. A mapping that is brought up to date with such a copy grows in the same way. -/

namespace Adocify.Attributes

def registerAll (attributes entries : Attributes) : Attributes :=
  entries.foldl (fun result entry => result.register entry.1 entry.2) attributes

theorem holds_iff {attributes : Attributes} {name : Text} : attributes.holds name = true ↔ name ∈ attributes.names := by
  simp [holds, get?, names]

theorem registerAll_concat (attributes entries : Attributes) (entry : Text × Value) :
    attributes.registerAll (entries ++ [entry]) = (attributes.registerAll entries).register entry.1 entry.2 := by
  simp [registerAll]

theorem registerAll_append (attributes entries others : Attributes) :
    attributes.registerAll (entries ++ others) = (attributes.registerAll entries).registerAll others := by
  simp [registerAll]

/-- The entries whose names are new: not known before, and not those of an earlier entry. -/
def fresh (known : List Text) : Attributes → Attributes
  | [] => []
  | entry :: rest => if known.contains entry.1 then fresh known rest else entry :: fresh (known ++ [entry.1]) rest

theorem mem_fresh {known : List Text} {entries : Attributes} {entry : Text × Value} (member : entry ∈ fresh known entries) :
    entry ∈ entries ∧ entry.1 ∉ known := by
  induction entries generalizing known with
  | nil => cases member
  | cons first rest ih =>
    simp only [fresh] at member
    split at member
    next old => exact ⟨.tail _ (ih member).1, (ih member).2⟩
    next new =>
      rcases List.mem_cons.mp member with rfl | later
      · exact ⟨List.mem_cons_self, new ∘ List.contains_iff_mem.mpr⟩
      · obtain ⟨inside, absent⟩ := ih later
        exact ⟨.tail _ inside, fun before => absent (List.mem_append_left _ before)⟩

theorem fresh_nodup (known : List Text) (entries : Attributes) : (fresh known entries).names.Nodup := by
  induction entries generalizing known with
  | nil => exact .nil
  | cons entry rest ih =>
    simp only [fresh]
    split
    · exact ih known
    · refine List.nodup_cons.mpr ⟨fun member => ?_, ih _⟩
      obtain ⟨other, inside, same⟩ := List.mem_map.mp member
      exact (mem_fresh inside).2 (same ▸ List.mem_append_right known List.mem_cons_self)

/-- The entries that are new are appended. -/
theorem registerAll_eq (attributes entries : Attributes) :
    attributes.registerAll entries = attributes ++ fresh attributes.names entries := by
  induction entries generalizing attributes with
  | nil => exact (List.append_nil attributes).symm
  | cons entry rest ih =>
    have step := ih (attributes.register entry.1 entry.2)
    simp only [registerAll, List.foldl_cons] at step ⊢
    rw [step, register, fresh]
    by_cases known : entry.1 ∈ attributes.names
    · rw [if_pos (holds_iff.mpr known), if_pos (List.contains_iff_mem.mpr known)]
    · rw [if_neg (known ∘ holds_iff.mp), if_neg (known ∘ List.contains_iff_mem.mp)]
      simp [names]

theorem registerAll_appends (attributes entries : Attributes) : ∃ added : Attributes,
    attributes.registerAll entries = attributes ++ added ∧ added.names.Nodup ∧
      ∀ entry ∈ added, entry ∈ entries ∧ entry.1 ∉ attributes.names :=
  ⟨_, registerAll_eq attributes entries, fresh_nodup _ _, fun _ member => mem_fresh member⟩

theorem registerAll_nodup {attributes : Attributes} (distinct : attributes.names.Nodup) (entries : Attributes) :
    (attributes.registerAll entries).names.Nodup := by
  obtain ⟨added, appended, others, absent⟩ := registerAll_appends attributes entries
  rw [appended, names, List.map_append]
  apply List.Nodup.append distinct others
  intro name before after
  obtain ⟨entry, member, rfl⟩ := List.mem_map.mp after
  exact (absent entry member).2 before

theorem names_registerAll (attributes entries : Attributes) (name : Text) :
    name ∈ (attributes.registerAll entries).names ↔ name ∈ attributes.names ∨ name ∈ entries.names := by
  induction entries generalizing attributes with
  | nil => simp [registerAll, names]
  | cons entry rest ih =>
    have step := ih (attributes.register entry.1 entry.2)
    simp only [registerAll, List.foldl_cons] at step ⊢
    rw [step, register]
    by_cases known : attributes.holds entry.1 = true
    · have held := holds_iff.mp known
      rw [if_pos known]
      constructor
      · rintro (here | later)
        · exact .inl here
        · exact .inr (.tail _ later)
      · rintro (here | later)
        · exact .inl here
        · rcases List.mem_cons.mp later with rfl | later
          · exact .inl held
          · exact .inr later
    · rw [if_neg known]
      simp [names, or_assoc]

/-- To register what is known already changes nothing. -/
theorem registerAll_known {attributes entries : Attributes} (known : ∀ entry ∈ entries, entry.1 ∈ attributes.names) :
    attributes.registerAll entries = attributes := by
  obtain ⟨added, appended, -, fresh⟩ := registerAll_appends attributes entries
  have nothing : added = [] := List.eq_nil_iff_forall_not_mem.mpr fun entry member =>
    (fresh entry member).2 (known entry (fresh entry member).1)
  rw [appended, nothing, List.append_nil]

theorem registerAll_again (attributes entries : Attributes) :
    (attributes.registerAll entries).registerAll entries = attributes.registerAll entries :=
  registerAll_known fun entry member =>
    (names_registerAll attributes entries entry.1).mpr (.inr (List.mem_map_of_mem member))

theorem get?_registerAll {attributes entries : Attributes} {name : Text} (absent : name ∉ entries.names) :
    (attributes.registerAll entries).get? name = attributes.get? name := by
  obtain ⟨added, appended, -, fresh⟩ := registerAll_appends attributes entries
  have unknown : List.lookup name added = none := by
    refine List.lookup_eq_none_iff.mpr fun entry member => ?_
    have other : entry.1 ≠ name := fun same => absent (same ▸ List.mem_map_of_mem (fresh entry member).1)
    simpa using other.symm
  rw [appended, get?, get?, List.lookup_append, unknown, Option.or_none]

/-- A name that was not there has one of the values that were registered under it. -/
theorem mem_of_get?_registerAll {attributes entries : Attributes} {name : Text} {value : Value}
    (absent : attributes.get? name = none) (found : (attributes.registerAll entries).get? name = some value) :
    (name, value) ∈ entries := by
  obtain ⟨added, appended, -, fresh⟩ := registerAll_appends attributes entries
  rw [appended, get?, List.lookup_append, show attributes.lookup name = none from absent, Option.none_or] at found
  have held : ∀ {entries : Attributes}, entries.lookup name = some value → (name, value) ∈ entries := by
    intro entries found
    obtain ⟨before, after, rfl, -⟩ := List.lookup_eq_some_iff.mp found
    exact List.mem_append_right before List.mem_cons_self
  exact (fresh _ (held found)).1

theorem register_prefix (attributes : Attributes) (name : Text) (value : Value) :
    attributes <+: attributes.register name value := by
  rw [register]
  split
  · exact List.prefix_refl _
  · exact List.prefix_append _ _

theorem mem_register (attributes : Attributes) (name : Text) (value : Value) :
    name ∈ (attributes.register name value).names :=
  (names_registerAll attributes [(name, value)] name).mpr (.inr List.mem_cons_self)

theorem get?_register_new {attributes : Attributes} {name : Text} (absent : attributes.get? name = none) (value : Value) :
    (attributes.register name value).get? name = some value := by
  rw [register, holds, absent, if_neg (by simp), get?, List.lookup_append,
    show attributes.lookup name = none from absent]
  simp

theorem get?_register_other {attributes : Attributes} {name other : Text} (apart : name ≠ other) (value : Value) :
    (attributes.register other value).get? name = attributes.get? name := by
  have absent : name ∉ names [(other, value)] := by simpa [names] using apart
  exact get?_registerAll absent

theorem get?_prefix {attributes last : Attributes} {name : Text} {value : Value} (grown : attributes <+: last)
    (held : attributes.get? name = some value) : last.get? name = some value := by
  obtain ⟨added, rfl⟩ := grown
  rw [get?, List.lookup_append, show attributes.lookup name = some value from held, Option.some_or]

theorem set_new {attributes : Attributes} {name : Text} (absent : name ∉ attributes.names) (value : Value) :
    attributes.set name value = attributes ++ [(name, value)] := by
  rw [set, if_neg (absent ∘ holds_iff.mp)]

/-- To set a name to the value that it has changes nothing. -/
theorem set_known {attributes : Attributes} (distinct : attributes.names.Nodup) {name : Text} {value : Value}
    (member : (name, value) ∈ attributes) : attributes.set name value = attributes := by
  have held : name ∈ attributes.names := List.mem_map_of_mem member
  rw [set, if_pos (holds_iff.mpr held)]
  have same : ∀ entry ∈ attributes, (if entry.1 = name then (name, value) else entry) = entry := by
    intro entry inside
    split
    next equal => exact List.inj_on_of_nodup_map distinct member inside equal.symm
    next => rfl
  exact (List.map_congr_left same).trans (List.map_id attributes)

theorem update_append (attributes changes others : Attributes) :
    attributes.update (changes ++ others) = (attributes.update changes).update others := by
  simp [update]

theorem update_known {attributes changes : Attributes} (distinct : attributes.names.Nodup)
    (known : ∀ entry ∈ changes, entry ∈ attributes) : attributes.update changes = attributes := by
  induction changes with
  | nil => rfl
  | cons entry rest ih =>
    obtain ⟨here, later⟩ := List.forall_mem_cons.mp known
    simp only [update, List.foldl_cons, set_known distinct here]
    exact ih later

theorem update_new {attributes changes : Attributes} (distinct : changes.names.Nodup)
    (absent : ∀ entry ∈ changes, entry.1 ∉ attributes.names) : attributes.update changes = attributes ++ changes := by
  induction changes generalizing attributes with
  | nil => exact (List.append_nil attributes).symm
  | cons entry rest ih =>
    obtain ⟨alone, others⟩ := List.nodup_cons.mp distinct
    obtain ⟨here, later⟩ := List.forall_mem_cons.mp absent
    have apart : ∀ other ∈ rest, other.1 ∉ (attributes ++ [entry]).names := by
      intro other member
      have different : other.1 ≠ entry.1 := fun same => alone (List.mem_map.mpr ⟨other, member, same⟩)
      simpa [names, or_imp, not_or, different] using later other member
    simp only [update, List.foldl_cons, set_new here]
    exact (ih others apart).trans (List.append_assoc attributes [entry] rest)

/-- A mapping that is brought up to date with what was registered upon a copy of it has the new entries at its
end. -/
theorem update_registerAll {attributes : Attributes} (distinct : attributes.names.Nodup) (entries : Attributes) :
    attributes.update (attributes.registerAll entries) = attributes.registerAll entries := by
  rw [registerAll_eq, update_append, update_known distinct fun _ member => member]
  exact update_new (fresh_nodup _ _) fun _ member => (mem_fresh member).2

end Adocify.Attributes
