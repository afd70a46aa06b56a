import ResponsiveGrid.Grid.Basic
import ResponsiveGrid.Word
set_option autoImplicit false

/-!
# Grid: edits

Five edits of a grid system.  Each computes the new list of entries and hands it to
`Grid.ofEntries?`, which checks the whole partition again; a refused edit leaves
no trace, since the old system is a value of its own.  Only `add` takes an identity.
-/

namespace ResponsiveGrid

namespace Grid

/-- A violation as the outcome of an edit. -/
def lift {α : Type} : Except Violation α → Except EditFault α
  | .ok a => .ok a
  | .error v => .error (.violation v)

/-- The entries with one end of the range at a position replaced. -/
def patchAt (entries : List Entry) (index : Nat) (p : RangePatch) :
    Except Violation (List Entry) :=
  match entries[index]? with
  | none => .ok entries
  | some e =>
      match e.patch p with
      | .ok e => .ok (entries.set index e)
      | .error v => .error v

/-! ## Moving a boundary -/

/-- Replaces an end of one range, then the facing end of its neighbour. -/
def moveBoundary (s : Grid) (index : Nat) (p : RangePatch) (neighbour : Nat)
    (facing : RangePatch) : Except EditFault Grid :=
  match patchAt s.entries index p with
  | .error v => .error (.violation v)
  | .ok entries =>
      match patchAt entries neighbour facing with
      | .error v => .error (.violation v)
      | .ok entries => lift (ofEntries? entries)

/-- Moves the breakpoint at one edge of an entry; the neighbour that shares it gives
or takes the widths in between.  The two ends of the axis cannot be moved. -/
def resize (s : Grid) (id : Id) (edge : Edge) (value : Nat) : Except EditFault Grid :=
  match s.indexOf? id with
  | none => .error (.refusal (.unknownId id))
  | some index =>
      match edge with
      | .minWidth =>
          if index = 0 then .error (.violation (.fixedBoundary id .minWidth))
          else if value = 0 then .error (.violation (.widthUnderflow value))
          else
            s.moveBoundary index (.minWidth value) (index - 1) (.maxWidth (some (value - 1)))
      | .maxWidth =>
          if s.size ≤ index + 1 then .error (.violation (.fixedBoundary id .maxWidth))
          else if largest32 ≤ value then .error (.violation (.minWidthOutOfRange value))
          else
            s.moveBoundary index (.maxWidth (some value)) (index + 1) (.minWidth (value + 1))

/-! ## Changing one entry -/

/-- Replaces one entry by the outcome of a change. -/
def change (s : Grid) (id : Id) (edit : Entry → Except Violation Entry) :
    Except EditFault Grid :=
  match s.indexOf? id with
  | none => .error (.refusal (.unknownId id))
  | some index =>
      match s.entries[index]? with
      | none => .error (.refusal (.unknownId id))
      | some e =>
          match edit e with
          | .error v => .error (.violation v)
          | .ok e => lift (ofEntries? (s.entries.set index e))

/-- Replaces one scalar field of an entry. -/
def setField (s : Grid) (id : Id) (value : FieldValue) : Except EditFault Grid :=
  s.change id fun e => e.setField value

/-- Replaces one side of one demo element of an entry. -/
def place (s : Grid) (id : Id) (element : Element) (side : Side) (value : Nat) :
    Except EditFault Grid :=
  s.change id fun e => e.place element side value

/-! ## Adding and removing -/

/-- How many widths the tail keeps when a breakpoint is added behind it. -/
def addedSpan : Nat := 240

/-- Adds a tail.  The old tail keeps the first `addedSpan` widths of its range and a
copy of it takes over the rest; an empty system gets the seed.  Returns the next
identity, too: one is taken unless the ranges are already refused. -/
def add (next : Id) (s : Grid) : Except EditFault Grid × Id :=
  match s.entries.getLast? with
  | none =>
      match Entry.of? next .seed with
      | .error v => (.error (.violation v), next + 1)
      | .ok e => (lift (ofEntries? [e]), next + 1)
  | some tail =>
      let least := tail.range.minWidth
      match tail.patch (.maxWidth (some (least + addedSpan - 1))) with
      | .error v => (.error (.violation v), next)
      | .ok shrunk =>
          match WidthRange.of? (least + addedSpan) none with
          | .error v => (.error (.violation v), next)
          | .ok range =>
              match Entry.of? next { tail.settings with range := range } with
              | .error v => (.error (.violation v), next + 1)
              | .ok added =>
                  (lift (ofEntries? (s.entries.dropLast ++ [shrunk, added])), next + 1)

/-- Removes an entry.  Its range goes to the wider neighbour, or at the tail to the
narrower one; without a neighbour the system is empty afterwards. -/
def remove (s : Grid) (id : Id) : Except EditFault Grid :=
  match s.indexOf? id with
  | none => .error (.refusal (.unknownId id))
  | some index =>
      match s.entries[index]? with
      | none => .error (.refusal (.unknownId id))
      | some removed =>
          let rest := s.entries.eraseIdx index
          let absorbed :=
            if index < rest.length then
              patchAt rest index (.minWidth removed.range.minWidth)
            else if 0 < index then
              patchAt rest (index - 1) (.maxWidth removed.range.maxWidth)
            else .ok rest
          match absorbed with
          | .error v => .error (.violation v)
          | .ok entries => lift (ofEntries? entries)

end Grid

end ResponsiveGrid
