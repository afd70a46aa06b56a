import ResponsiveGrid.Entry
import ResponsiveGrid.Snapshot
set_option autoImplicit false

/-!
# Grid: a partition of the viewport widths

A grid system is a list of entries whose ranges cover every width exactly once, in
ascending order, with pairwise different identities; or it is empty.  What is checked
is local: where the first range starts, that the last one goes on for ever, that each
range meets the next, and that no identity is repeated.  The check is a proof field,
so that every system has passed it.
-/

namespace ResponsiveGrid

/-! ## The check -/

/-- A range ends right before another one starts. -/
def WidthRange.Meets (a b : WidthRange) : Prop := a.maxWidth.map (· + 1) = some b.minWidth

instance (a b : WidthRange) : Decidable (a.Meets b) :=
  inferInstanceAs (Decidable (_ = _))

/-- The first pair of neighbours that do not meet; `index` is the position of the
first entry of the list. -/
def gap? (index : Nat) : List Entry → Option Violation
  | a :: b :: rest =>
      if a.range.Meets b.range then gap? (index + 1) (b :: rest)
      else some (.notContiguous index a.range.maxWidth b.range.minWidth)
  | _ => none

/-- The first identity that occurred before. -/
def repeated? (seen : List Id) : List Entry → Option Violation
  | [] => none
  | e :: rest =>
      if e.id ∈ seen then some (.duplicateId e.id) else repeated? (e.id :: seen) rest

/-- The first thing that keeps a list of entries from being a partition. -/
def partitionFault? : List Entry → Option Violation
  | [] => none
  | first :: rest =>
      if first.range.minWidth ≠ 0 then some (.notFromStart first.range.minWidth)
      else
        match ((first :: rest).getLast (List.cons_ne_nil first rest)).range.maxWidth with
        | some m => some (.notToEnd m)
        | none =>
            match gap? 0 (first :: rest) with
            | some v => some v
            | none => repeated? [] (first :: rest)

/-- A grid system. -/
structure Grid where
  entries : List Entry
  partitioned : partitionFault? entries = none
  deriving DecidableEq

namespace Grid

/-- The system with given entries, or the first thing wrong with them. -/
def ofEntries? (entries : List Entry) : Except Violation Grid :=
  match h : partitionFault? entries with
  | none => .ok ⟨entries, h⟩
  | some v => .error v

theorem ofEntries?_eq_ok_iff {entries : List Entry} {s : Grid} :
    ofEntries? entries = .ok s ↔ s.entries = entries := by
  constructor
  · intro h
    unfold ofEntries? at h
    split at h
    · cases h; rfl
    · cases h
  · rintro rfl
    unfold ofEntries?
    split
    · rfl
    · next v hv => rw [s.partitioned] at hv; cases hv

theorem ofEntries?_eq_error_iff {entries : List Entry} {v : Violation} :
    ofEntries? entries = .error v ↔ partitionFault? entries = some v := by
  unfold ofEntries?
  split
  · next h => simp [h]
  · next h => simp [h]

/-- The system without breakpoints. -/
def empty : Grid := ⟨[], rfl⟩

instance : Inhabited Grid := ⟨empty⟩

/-! ## Content -/

/-- The content without identities. -/
def snapshot (s : Grid) : Snapshot := ⟨s.entries.map Entry.settings⟩

/-- Takes identities from `next` on for settings, one after the other, and stops at
the first settings that are out of bounds.  They have taken their identity, too. -/
def mintAll (next : Id) : List Settings → Except Violation (List Entry) × Id
  | [] => (.ok [], next)
  | settings :: rest =>
      match Entry.of? next settings with
      | .error v => (.error v, next + 1)
      | .ok e =>
          match mintAll (next + 1) rest with
          | (.error v, after) => (.error v, after)
          | (.ok entries, after) => (.ok (e :: entries), after)

/-- The system with given content under new identities, and the next identity. -/
def ofSnapshot? (next : Id) (snapshot : Snapshot) : Except Violation Grid × Id :=
  match mintAll next snapshot.breakpoints with
  | (.error v, after) => (.error v, after)
  | (.ok entries, after) => (ofEntries? entries, after)

/-- The default system under new identities.  The default content breaks no
invariant, so the empty system is never the answer. -/
def reset (next : Id) : Grid × Id :=
  match ofSnapshot? next .default with
  | (.ok s, after) => (s, after)
  | (.error _, after) => (empty, after)

/-! ## Lookups -/

/-- The number of breakpoints. -/
def size (s : Grid) : Nat := s.entries.length

/-- Whether there are no breakpoints. -/
def isEmpty (s : Grid) : Bool := s.entries.isEmpty

/-- The narrowest entry. -/
def first? (s : Grid) : Option Entry := s.entries.head?

/-- The widest entry. -/
def last? (s : Grid) : Option Entry := s.entries.getLast?

/-- The entry at a position, counted from zero. -/
def get? (s : Grid) (index : Nat) : Option Entry := s.entries[index]?

/-- The entry of an identity. -/
def find? (s : Grid) (id : Id) : Option Entry := s.entries.find? fun e => e.id == id

/-- The position of an identity. -/
def indexOf? (s : Grid) (id : Id) : Option Nat := s.entries.findIdx? fun e => e.id == id

/-- The entry whose range a width lies in. -/
def matchFor (s : Grid) (width : Nat) : Option Entry :=
  s.entries.find? fun e => e.range.matches? width

/-- The entry for the widths right below those of an identity. -/
def narrower? (s : Grid) (id : Id) : Option Entry :=
  match s.indexOf? id with
  | none => none
  | some 0 => none
  | some (index + 1) => s.entries[index]?

/-- The entry for the widths right above those of an identity. -/
def wider? (s : Grid) (id : Id) : Option Entry :=
  match s.indexOf? id with
  | none => none
  | some index => s.entries[index + 1]?

end Grid

end ResponsiveGrid
