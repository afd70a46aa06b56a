import ResponsiveGrid.Decimal.Layout
import ResponsiveGrid.Vocabulary
set_option autoImplicit false

/-!
# Fault: why a grid system or an edit is refused

A `Violation` says which invariant the data would break, a `Refusal` which condition
a caller did not meet, and an edit fails with either.  Each cause carries the values
its sentence names; the wording is fixed in the three `message` functions and
nowhere else.
-/

namespace ResponsiveGrid

/-- The identity of one entry of a grid system.  Identities are numbered from one on
in the order in which they are taken, and none is taken twice. -/
abbrev Id : Type := Nat

/-- How an identity is written. -/
def idText (id : Id) : String := s!"#{id}"

/-- An invariant that data would break. -/
inductive Violation where
  | minWidthOutOfRange (value : Nat)
  | maxWidthOutOfRange (value : Nat)
  /-- a range would end where it starts, or before -/
  | emptyRange (minWidth maxWidth : Nat)
  /-- there is no width below an edge that a neighbour could end at -/
  | widthUnderflow (value : Nat)
  | contentMaxWidthOutOfRange (value : Nat)
  | columnsOutOfRange (value : Nat)
  | gutterOutOfRange (value : Nat)
  | marginOutOfRange (value : Nat)
  | scaleOutOfRange (value : Float)
  /-- a side of an element is no column line; `max` is the last one -/
  | offsetOutOfRange (element : Element) (side : Side) (value max : Nat)
  /-- an element would end where it starts, or before -/
  | offsetMisordered (element : Element) (start stop : Nat)
  /-- the first range leaves widths below it uncovered -/
  | notFromStart (minWidth : Nat)
  /-- the last range leaves widths above it uncovered -/
  | notToEnd (maxWidth : Nat)
  /-- a range and the one behind it do not meet -/
  | notContiguous (index : Nat) (maxWidth : Option Nat) (nextMinWidth : Nat)
  | duplicateId (id : Id)
  /-- the edge is an end of the width axis and cannot be moved -/
  | fixedBoundary (id : Id) (edge : Edge)
  deriving DecidableEq, Repr, Inhabited

/-- A condition that a caller did not meet. -/
inductive Refusal where
  | unknownId (id : Id)
  /-- the artboard is not matched by the breakpoint; `range` is its label -/
  | artboardOutOfRange (width : Nat) (range : String)
  /-- layouts are only computed for an unscaled root -/
  | scaledRoot (scale : Float)
  deriving DecidableEq, Repr, Inhabited

/-- Why an edit of a grid system is refused. -/
inductive EditFault where
  | violation (cause : Violation)
  | refusal (cause : Refusal)
  deriving DecidableEq, Repr, Inhabited

/-- The sentence for a violation. -/
def Violation.message : Violation → String
  | .minWidthOutOfRange v => s!"min width {v} is outside the viewport width domain"
  | .maxWidthOutOfRange v => s!"max width {v} is outside the viewport width domain"
  | .emptyRange minWidth maxWidth =>
      s!"breakpoint range is empty: min width {minWidth} must be below max width {maxWidth}"
  | .widthUnderflow v => s!"no viewport width precedes {v}"
  | .contentMaxWidthOutOfRange v => s!"content max width {v} is outside [128, 1920]"
  | .columnsOutOfRange v => s!"columns {v} is outside [1, 12]"
  | .gutterOutOfRange v => s!"gutter {v} is outside [0, 256]"
  | .marginOutOfRange v => s!"margin {v} is outside [0, 256]"
  | .scaleOutOfRange v =>
      let digits := String.ofList (Decimal.plain v)
      s!"scale {digits} is outside [1, 2]"
  | .offsetOutOfRange element side v max =>
      let name := element.name
      let edge := side.name
      s!"{name} {edge} offset {v} is outside [1, {max}]"
  | .offsetMisordered element start stop =>
      let name := element.name
      s!"{name} offset start {start} must be below end {stop}"
  | .notFromStart minWidth =>
      s!"first breakpoint range starts at {minWidth} instead of 0"
  | .notToEnd maxWidth =>
      s!"last breakpoint range ends at {maxWidth} instead of extending to infinity"
  | .notContiguous index (some maxWidth) next =>
      let following := index + 1
      s!"breakpoint ranges {index} and {following} are not contiguous: {maxWidth} + 1 != {next}"
  | .notContiguous index none next =>
      s!"breakpoint range {index} is unbounded but is followed by a range starting at {next}"
  | .duplicateId id =>
      let who := idText id
      s!"duplicate grid preferences id {who}"
  | .fixedBoundary id edge =>
      let who := idText id
      let label := edge.label
      s!"{label} of grid preferences {who} is pinned to the end of the width axis"

/-- The sentence for a refusal. -/
def Refusal.message : Refusal → String
  | .unknownId id =>
      let who := idText id
      s!"grid preferences {who} not found"
  | .artboardOutOfRange width range =>
      s!"artboard width {width} does not match breakpoint range {range}"
  | .scaledRoot scale =>
      let digits := String.ofList (Decimal.plain scale)
      s!"layout export requires a root scale of 1, got {digits}"

/-- The sentence of the cause of a refused edit. -/
def EditFault.reason : EditFault → String
  | .violation cause => cause.message
  | .refusal cause => cause.message

/-- The sentence for a refused edit. -/
def EditFault.message : EditFault → String
  | .violation cause => "validation failed: " ++ cause.message
  | .refusal cause => "precondition failed: " ++ cause.message

end ResponsiveGrid
