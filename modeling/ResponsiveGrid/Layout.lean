import ResponsiveGrid.Decimal.Rounding
import ResponsiveGrid.Grid.Basic
set_option autoImplicit false

/-!
# Layout: the grid of one artboard, for a design tool

A layout describes the grid of a breakpoint at one artboard width.  One tool wants
the width of a column; the other stretches the columns and wants the margin.  Both
count from the container, which is the artboard, or the content if that is narrower,
less the margins on both sides.
-/

namespace ResponsiveGrid

/-- A layout with a fixed column width. -/
structure SketchColumns where
  totalWidth : Int
  offset : Int
  numberOfColumns : Nat
  gutterOnOutside : Bool
  gutterWidth : Nat
  columnWidth : Int
  deriving DecidableEq, Repr, Inhabited

/-- A layout whose columns are stretched between the margins. -/
structure FigmaColumns where
  count : Nat
  margin : Int
  gutter : Nat
  deriving DecidableEq, Repr, Inhabited

/-- A layout for one of the design tools. -/
inductive Layout where
  | sketch (columns : SketchColumns)
  | figma (columns : FigmaColumns)
  deriving DecidableEq, Repr, Inhabited

namespace Entry

/-- A layout is computed at a width that the entry is for, and for an unscaled root. -/
def checkExport (e : Entry) (width : Nat) : Except Refusal Unit :=
  if e.range.matches? width then
    if e.settings.scale = 1.0 then .ok () else .error (.scaledRoot e.settings.scale)
  else .error (.artboardOutOfRange width e.range.label)

/-- The width between the outer margins.  It is negative when the margins take more
than there is. -/
def containerWidth (e : Entry) (width : Nat) : Int :=
  let visible := match e.settings.contentMaxWidth with
    | some cap => min width cap
    | none => width
  (visible : Int) - 2 * e.settings.margin

/-- The layout with a fixed column width: what the gutters leave of the container,
shared evenly. -/
def sketchColumns (e : Entry) (width : Nat) : SketchColumns :=
  let container := e.containerWidth width
  let gutters : Int := ((e.settings.columns : Int) - 1) * e.settings.gutter
  { totalWidth := container
    offset := 0
    numberOfColumns := e.settings.columns
    gutterOnOutside := false
    gutterWidth := e.settings.gutter
    columnWidth := Decimal.quotientHalfUp (container - gutters) e.settings.columns }

/-- The layout with stretched columns: the margin is half of what the container leaves
of the artboard. -/
def figmaColumns (e : Entry) (width : Nat) : FigmaColumns where
  count := e.settings.columns
  margin := Decimal.quotientHalfUp ((width : Int) - e.containerWidth width) 2
  gutter := e.settings.gutter

/-- The layout of an entry at an artboard width. -/
def layout (e : Entry) (width : Nat) (tool : Tool) : Except Refusal Layout :=
  match e.checkExport width with
  | .error r => .error r
  | .ok () =>
      match tool with
      | .sketch => .ok (.sketch (e.sketchColumns width))
      | .figma => .ok (.figma (e.figmaColumns width))

end Entry

/-- The layout of the entry that an artboard width matches; none when the system has
no breakpoints. -/
def Grid.layout (s : Grid) (width : Nat) (tool : Tool) :
    Except Refusal (Option Layout) :=
  match s.matchFor width with
  | none => .ok none
  | some e =>
      match e.layout width tool with
      | .ok l => .ok (some l)
      | .error r => .error r

end ResponsiveGrid
