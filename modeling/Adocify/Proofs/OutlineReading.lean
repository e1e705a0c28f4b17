import Adocify.AsciiDoc.List
import Adocify.Proofs.TextLines

/-! Outlines, and how they are read back from the lines of a list. The reader knows nothing of levels: it
keeps a stack of the markers whose lists are open, and goes by whether it has seen a marker before. -/

namespace Adocify.AsciiDoc

/-- The items of a list so far: each has a text, and there may be a list below it. -/
inductive Items where
  | none
  | plain (earlier : Items) (text : Text)
  | nested (earlier : Items) (text : Text) (ordered : Bool) (below : Items)
  deriving Repr, DecidableEq

structure Outline where
  ordered : Bool
  items : Items
  deriving Repr, DecidableEq

namespace Items

def Full : Items → Prop
  | .none => True
  | .plain earlier _ => earlier.Full
  | .nested earlier _ _ below => earlier.Full ∧ below ≠ .none ∧ below.Full

def Single : Items → Prop
  | .none => True
  | .plain earlier text => earlier.Single ∧ '\n' ∉ text
  | .nested earlier text _ below => earlier.Single ∧ '\n' ∉ text ∧ below.Single

end Items

/-- A line of a list: its marker, and the text behind it. -/
abbrev Entry := Text × Text

/-- The marker is the run of equal signs before the first blank. -/
def readEntry : Text → Option Entry
  | [] => none
  | c :: rest =>
    if c = '*' ∨ c = '.' then
      match rest.dropWhile (· = c) with
      | ' ' :: text => some (c :: rest.takeWhile (· = c), text)
      | _ => none
    else none

def isStartLine (line : Text) : Bool := "[start=".toList.isPrefixOf line

structure OpenList where
  marker : Text
  items : Items

namespace OpenList

def outline (list : OpenList) : Outline := ⟨list.marker.head? = some '.', list.items⟩

/-- A list that is closed stands below the item read last. -/
def hold (list closed : OpenList) : OpenList :=
  match list.items with
  | .plain earlier text => { list with items := .nested earlier text closed.outline.ordered closed.items }
  | _ => list

def add (list : OpenList) (text : Text) : OpenList := { list with items := .plain list.items text }

end OpenList

/-- Closes lists from the innermost one on, up to one at which to stop. -/
def closeLists (stop : Text → Bool) (top : OpenList) : List OpenList → OpenList × List OpenList
  | [] => (top, [])
  | outer :: rest => if stop top.marker then (top, outer :: rest) else closeLists stop (outer.hold top) rest

/-- A marker that is open continues its list, closing those within; any other opens a list. -/
def takeEntry (lists : List OpenList) (entry : Entry) : List OpenList :=
  match lists with
  | [] => [⟨entry.1, .plain .none entry.2⟩]
  | top :: rest =>
    if (top :: rest).any (·.marker == entry.1) then
      let (own, outer) := closeLists (· == entry.1) top rest
      own.add entry.2 :: outer
    else ⟨entry.1, .plain .none entry.2⟩ :: top :: rest

/-- The entries of the lines, those left out that say where a list starts; none if another line is no entry. -/
def readEntries (lines : List Text) : Option (List Entry) :=
  (lines.filter fun line => !isStartLine line).mapM readEntry

def readOutline (text : Text) : Option Outline := do
  let entries ← readEntries (Text.lines text)
  match entries.foldl takeEntry [] with
  | [] => none
  | top :: rest => some (closeLists (fun _ => false) top rest).1.outline

def Reads (lines : List Text) (entries : List Entry) : Prop := readEntries lines = some entries

namespace Reads

variable {lines others : List Text} {entries more : List Entry}

theorem nil : Reads [] [] := rfl

theorem append (reads : Reads lines entries) (rest : Reads others more) :
    Reads (lines ++ others) (entries ++ more) := by
  simp only [Reads, readEntries] at reads rest ⊢
  rw [List.filter_append, List.mapM_append, reads, rest]
  rfl

theorem item {sign : Char} (known : sign = '*' ∨ sign = '.') (count : Nat) (text : Text) :
    Reads [List.replicate (count + 1) sign ++ ' ' :: text] [(List.replicate (count + 1) sign, text)] := by
  have other : ' ' ≠ sign := by rcases known with rfl | rfl <;> decide
  have shown : isStartLine (List.replicate (count + 1) sign ++ ' ' :: text) = false := by
    rcases known with rfl | rfl <;> rfl
  have behind : (List.replicate count sign ++ ' ' :: text).dropWhile (· = sign) = ' ' :: text := by
    rw [List.dropWhile_append_of_pos (by simp)]
    simp [other]
  have run : (List.replicate count sign ++ ' ' :: text).takeWhile (· = sign) = List.replicate count sign := by
    rw [List.takeWhile_append_of_pos (by simp)]
    simp [other]
  have entry : readEntry (List.replicate (count + 1) sign ++ ' ' :: text) =
      some (List.replicate (count + 1) sign, text) := by
    rw [List.replicate_succ, List.cons_append]
    simp only [readEntry, if_pos known, behind, run]
  simp only [Reads, readEntries, List.filter_cons, shown, List.filter_nil, Bool.not_false, if_true, List.mapM_cons,
    entry]
  rfl

theorem start (number : Text) : Reads ["[start=".toList ++ number] [] := by
  have left : isStartLine ("[start=".toList ++ number) = true := List.isPrefixOf_iff_prefix.mpr ⟨number, rfl⟩
  simp only [Reads, readEntries, List.filter_cons, left, List.filter_nil]
  rfl

end Reads

/-- The marker of a list within others, whose signs are given innermost first. -/
def listMarker (outer : List Char) (sign : Char) : Text := List.replicate (outer.count sign + 1) sign

/-- The entries of the items of a list within others. -/
def Items.entries (outer : List Char) (ordered : Bool) : Items → List Entry
  | .none => []
  | .plain earlier text => earlier.entries outer ordered ++ [(listMarker outer (markerOf ordered), text)]
  | .nested earlier text inner below =>
    earlier.entries outer ordered ++ (listMarker outer (markerOf ordered), text) ::
      below.entries (markerOf ordered :: outer) inner

/-- The markers of lists that stand within all of the given ones. -/
def Deeper (outer : List Char) (marker : Text) : Prop :=
  ∃ count sign, outer.count sign < count ∧ marker = List.replicate count sign

section

variable {outer : List Char} {sign : Char} {marker : Text}

theorem deeper_own (outer : List Char) (sign : Char) : Deeper outer (listMarker outer sign) :=
  ⟨_, sign, Nat.lt_succ_self _, rfl⟩

theorem Deeper.outward (deeper : Deeper (sign :: outer) marker) : Deeper outer marker := by
  obtain ⟨count, other, more, rfl⟩ := deeper
  exact ⟨count, other, Nat.lt_of_le_of_lt List.count_le_count_cons more, rfl⟩

theorem not_deeper_own (outer : List Char) (sign : Char) : ¬Deeper (sign :: outer) (listMarker outer sign) := by
  rintro ⟨count, other, more, same⟩
  obtain ⟨rfl, rfl⟩ : outer.count sign + 1 = count ∧ sign = other := by
    have shape := List.replicate_inj.mp same
    exact ⟨shape.1, shape.2.resolve_left (Nat.succ_ne_zero _)⟩
  rw [List.count_cons_self] at more
  exact Nat.lt_irrefl _ more

end

/-- The lists close to others if those within, all of markers away from them, are closed. -/
inductive Closes (away : Text → Prop) : List OpenList → List OpenList → Prop where
  | done (lists : List OpenList) : Closes away lists lists
  | close {top outer : OpenList} {rest lists : List OpenList} (apart : away top.marker)
      (closes : Closes away (outer.hold top :: rest) lists) : Closes away (top :: outer :: rest) lists

theorem OpenList.hold_marker (list closed : OpenList) : (list.hold closed).marker = list.marker := by
  simp only [hold]
  split <;> rfl

namespace Closes

variable {away : Text → Prop} {lists others : List OpenList} {own top outer : OpenList} {rest : List OpenList}

theorem mono {wider : Text → Prop} (closes : Closes away lists others)
    (implies : ∀ marker, away marker → wider marker) :
    Closes wider lists others := by
  induction closes with
  | done => exact .done _
  | close apart _ ih => exact .close (implies _ apart) ih

theorem further (closes : Closes away lists (top :: outer :: rest)) (apart : away top.marker) :
    Closes away lists (outer.hold top :: rest) := by
  generalize reached : top :: outer :: rest = others at closes
  induction closes with
  | done =>
    subst reached
    exact .close apart (.done _)
  | close here _ ih => exact .close here (ih reached)

theorem marker_open (closes : Closes away lists others) {list : OpenList} (member : list ∈ others) :
    ∃ open_ ∈ lists, open_.marker = list.marker := by
  induction closes with
  | done => exact ⟨list, member, rfl⟩
  | @close top outer rest lists apart closes ih =>
    obtain ⟨found, inside, same⟩ := ih member
    rcases List.mem_cons.mp inside with rfl | later
    · exact ⟨outer, .tail _ List.mem_cons_self, (outer.hold_marker top).symm.trans same⟩
    · exact ⟨found, .tail _ (.tail _ later), same⟩

theorem closeLists (closes : Closes away lists (own :: others)) (stop : Text → Bool)
    (pass : ∀ marker, away marker → stop marker = false) (halt : stop own.marker = true ∨ others = []) :
    ∃ top rest, lists = top :: rest ∧ AsciiDoc.closeLists stop top rest = (own, others) := by
  generalize reached : own :: others = final at closes
  induction closes with
  | done =>
    subst reached
    refine ⟨own, others, rfl, ?_⟩
    cases others with
    | nil => rfl
    | cons outer rest =>
      have here : stop own.marker = true := halt.resolve_right (List.cons_ne_nil _ _)
      simp only [AsciiDoc.closeLists, here, if_true]
  | @close top outer rest lists apart closes ih =>
    obtain ⟨next, remaining, same, closed⟩ := ih reached
    obtain ⟨rfl, rfl⟩ := List.cons.inj same
    refine ⟨top, outer :: rest, rfl, ?_⟩
    simp only [AsciiDoc.closeLists, pass _ apart, Bool.false_eq_true, if_false]
    exact closed

end Closes

section

variable {lists : List OpenList} {outer : List Char} {ordered : Bool} {text : Text}

theorem takeEntry_fresh (fresh : ∀ list ∈ lists, ¬Deeper outer list.marker) :
    takeEntry lists (listMarker outer (markerOf ordered), text) =
      ⟨listMarker outer (markerOf ordered), .plain .none text⟩ :: lists := by
  cases lists with
  | nil => rfl
  | cons top rest =>
    have unseen : (top :: rest).any (·.marker == listMarker outer (markerOf ordered)) = false := by
      rw [List.any_eq_false]
      intro list member same
      exact fresh list member (eq_of_beq same ▸ deeper_own outer _)
    simp only [takeEntry, unseen, Bool.false_eq_true, if_false]

theorem takeEntry_again {own : OpenList} {others : List OpenList}
    (marked : own.marker = listMarker outer (markerOf ordered))
    (closes : Closes (Deeper (markerOf ordered :: outer)) lists (own :: others)) :
    takeEntry lists (listMarker outer (markerOf ordered), text) = own.add text :: others := by
  have pass : ∀ marker, Deeper (markerOf ordered :: outer) marker →
      (marker == listMarker outer (markerOf ordered)) = false := by
    intro marker deeper
    refine beq_eq_false_iff_ne.mpr fun same => ?_
    exact not_deeper_own outer _ (same ▸ deeper)
  have halt : (own.marker == listMarker outer (markerOf ordered)) = true := beq_iff_eq.mpr marked
  obtain ⟨open_, member, same⟩ := closes.marker_open List.mem_cons_self
  obtain ⟨top, rest, rfl, closed⟩ := closes.closeLists (· == listMarker outer (markerOf ordered)) pass (.inl halt)
  have seen : (top :: rest).any (·.marker == listMarker outer (markerOf ordered)) = true :=
    List.any_eq_true.mpr ⟨open_, member, beq_iff_eq.mpr (same.trans marked)⟩
  simp only [takeEntry, seen, if_true, closed]

theorem takeEntry_next {earlier : Items} (fresh : ∀ list ∈ lists, ¬Deeper outer list.marker)
    (reached : earlier ≠ .none → Closes (Deeper (markerOf ordered :: outer))
      ((earlier.entries outer ordered).foldl takeEntry lists)
        (⟨listMarker outer (markerOf ordered), earlier⟩ :: lists)) :
    takeEntry ((earlier.entries outer ordered).foldl takeEntry lists) (listMarker outer (markerOf ordered), text) =
      ⟨listMarker outer (markerOf ordered), .plain earlier text⟩ :: lists := by
  by_cases first : earlier = .none
  · subst first
    exact takeEntry_fresh fresh
  · exact takeEntry_again rfl (reached first)

theorem listMarker_outline (outer : List Char) (ordered : Bool) (items : Items) :
    OpenList.outline ⟨listMarker outer (markerOf ordered), items⟩ = ⟨ordered, items⟩ := by
  cases ordered <;> simp [OpenList.outline, listMarker, List.replicate_succ, markerOf]

/-- Reading the items of a list opens it on top of the others, and leaves open only lists within it. -/
theorem read_items {items : Items} (full : items.Full) (filled : items ≠ .none)
    (fresh : ∀ list ∈ lists, ¬Deeper outer list.marker) :
    Closes (Deeper (markerOf ordered :: outer)) ((items.entries outer ordered).foldl takeEntry lists)
      (⟨listMarker outer (markerOf ordered), items⟩ :: lists) := by
  induction items generalizing outer ordered lists with
  | none => exact absurd rfl filled
  | plain earlier text ih =>
    rw [Items.entries, List.foldl_append, List.foldl_cons, List.foldl_nil,
      takeEntry_next fresh fun filled => ih full filled fresh]
    exact .done _
  | nested earlier text inner below ih ihBelow =>
    obtain ⟨fullEarlier, filledBelow, fullBelow⟩ := full
    rw [Items.entries, List.foldl_append, List.foldl_cons, takeEntry_next fresh fun filled => ih fullEarlier filled fresh]
    have within : ∀ list ∈ (⟨listMarker outer (markerOf ordered), .plain earlier text⟩ : OpenList) :: lists,
        ¬Deeper (markerOf ordered :: outer) list.marker := by
      intro list member
      rcases List.mem_cons.mp member with rfl | member
      · exact not_deeper_own outer _
      · exact fun deeper => fresh list member deeper.outward
    have opened : Closes (Deeper (markerOf ordered :: outer)) _
        (⟨listMarker (markerOf ordered :: outer) (markerOf inner), below⟩ :: _) :=
      (ihBelow fullBelow filledBelow within).mono fun _ deeper => deeper.outward
    have held := opened.further (deeper_own (markerOf ordered :: outer) (markerOf inner))
    simpa only [OpenList.hold, listMarker_outline] using held

/-- An outline is read back from a text whose lines are its entries. -/
theorem readOutline_entries {items : Items} (full : items.Full) (filled : items ≠ .none)
    (reads : Reads (Text.lines text) (items.entries outer ordered)) :
    readOutline text = some ⟨ordered, items⟩ := by
  have closes : Closes (Deeper (markerOf ordered :: outer)) ((items.entries outer ordered).foldl takeEntry [])
      [⟨listMarker outer (markerOf ordered), items⟩] := read_items full filled fun list member => by cases member
  obtain ⟨top, rest, same, closed⟩ := closes.closeLists (fun _ => false) (fun _ _ => rfl) (.inr rfl)
  simp only [Reads] at reads
  simp only [readOutline, reads, Option.bind_eq_bind, Option.bind_some, same, closed, listMarker_outline]

end

end Adocify.AsciiDoc
