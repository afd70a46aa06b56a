import ResponsiveGrid.Json.Shape
import ResponsiveGrid.Json.Value
import ResponsiveGrid.Layout
import ResponsiveGrid.Snapshot
set_option autoImplicit false

/-!
# Wire: the stored form of ranges, settings, snapshots and layouts

For every type that is stored a value to be written (`toJson`) and a reader
(`ofJson`).  An unset optional field is left out, and a whole scale is written
without a fraction.  The names of the records stand in error texts only.
-/

namespace ResponsiveGrid

/-! ## Names -/

/-- The names of the edges. -/
def Edge.names : List (String × Edge) :=
  [(Edge.minWidth.name, .minWidth), (Edge.maxWidth.name, .maxWidth)]

/-- The names of the demo elements. -/
def Element.names : List (String × Element) := Element.all.map fun e => (e.name, e)

/-- The names of the sides. -/
def Side.names : List (String × Side) := [(Side.start.name, .start), (Side.stop.name, .stop)]

/-- The names of the tools. -/
def Tool.names : List (String × Tool) := [(Tool.sketch.name, .sketch), (Tool.figma.name, .figma)]

/-! ## Width ranges -/

namespace WidthRange

/-- The fields of a range that have been read. -/
structure Partial where
  minWidth : Option Nat := none
  maxWidth : Option (Option Nat) := none

/-- The fields of a range. -/
def slots : List (Json.Slot Partial) := [
  { name := "minWidth"
    required := true
    filled := fun p => p.minWidth.isSome
    store := fun p o => (Json.Shape.natural32 o).map fun v => { p with minWidth := some v } },
  { name := "maxWidth"
    required := false
    filled := fun p => p.maxWidth.isSome
    store := fun p o => (Json.Shape.optional Json.Shape.natural32 o).map fun v =>
      { p with maxWidth := some v } }]

/-- A range of the fields that were read.  Its bounds are checked when all of them
are there. -/
def finish (p : Partial) : Except Json.Fault WidthRange :=
  match Json.present "minWidth" p.minWidth with
  | .error fault => .error fault
  | .ok minWidth =>
      match of? minWidth (p.maxWidth.getD none) with
      | .ok r => .ok r
      | .error v => .error (.mismatch (.refused v.message))

/-- Reads a range. -/
def ofJson : Json.Shape WidthRange := Json.Shape.record "RawBreakpointRange" slots {} finish

/-- The value of a range. -/
def toJson (r : WidthRange) : Json :=
  let least := ("minWidth", Json.natural r.minWidth)
  match r.maxWidth with
  | some m => .object [least, ("maxWidth", Json.natural m)]
  | none => .object [least]

end WidthRange

/-! ## Placements -/

namespace Placement

/-- The fields of a placement that have been read. -/
structure Partial where
  start : Option Nat := none
  stop : Option Nat := none

/-- The fields of a placement. -/
def slots : List (Json.Slot Partial) := [
  { name := "start"
    required := true
    filled := fun p => p.start.isSome
    store := fun p o => (Json.Shape.natural32 o).map fun v => { p with start := some v } },
  { name := "end"
    required := true
    filled := fun p => p.stop.isSome
    store := fun p o => (Json.Shape.natural32 o).map fun v => { p with stop := some v } }]

/-- A placement of the fields that were read. -/
def finish (p : Partial) : Except Json.Fault Placement := do
  let start ← Json.present "start" p.start
  let stop ← Json.present "end" p.stop
  return ⟨start, stop⟩

/-- Reads a placement. -/
def ofJson : Json.Shape Placement := Json.Shape.record "DemoOffset" slots {} finish

/-- The value of a placement. -/
def toJson (p : Placement) : Json :=
  .object [("start", Json.natural p.start), ("end", Json.natural p.stop)]

end Placement

namespace Placements

/-- The fields of placements that have been read. -/
structure Partial where
  heading1 : Option Placement := none
  heading2 : Option Placement := none
  paragraph : Option Placement := none

/-- The fields of placements. -/
def slots : List (Json.Slot Partial) := [
  { name := "heading1"
    required := true
    filled := fun p => p.heading1.isSome
    store := fun p o => (Placement.ofJson o).map fun v => { p with heading1 := some v } },
  { name := "heading2"
    required := true
    filled := fun p => p.heading2.isSome
    store := fun p o => (Placement.ofJson o).map fun v => { p with heading2 := some v } },
  { name := "paragraph"
    required := true
    filled := fun p => p.paragraph.isSome
    store := fun p o => (Placement.ofJson o).map fun v => { p with paragraph := some v } }]

/-- Placements of the fields that were read. -/
def finish (p : Partial) : Except Json.Fault Placements := do
  let heading1 ← Json.present "heading1" p.heading1
  let heading2 ← Json.present "heading2" p.heading2
  let paragraph ← Json.present "paragraph" p.paragraph
  return ⟨heading1, heading2, paragraph⟩

/-- Reads placements. -/
def ofJson : Json.Shape Placements := Json.Shape.record "DemoOffsets" slots {} finish

/-- The value of placements. -/
def toJson (p : Placements) : Json :=
  .object [("heading1", p.heading1.toJson), ("heading2", p.heading2.toJson),
    ("paragraph", p.paragraph.toJson)]

end Placements

/-! ## Settings and snapshots -/

/-- The value of a scale.  A whole scale whose magnitude fits thirty-two bits is
written as an integer, so that zero loses its sign. -/
def scaleToJson (x : Float) : Json :=
  match Decimal.kindOf x with
  | .finite f =>
      if f.ticks % Decimal.ticksOfOne = 0 ∧ f.ticks / Decimal.ticksOfOne ≤ largest32
      then .integer f.floor
      else .decimal x
  | _ => .decimal x

namespace Settings

/-- The fields of settings that have been read. -/
structure Partial where
  range : Option WidthRange := none
  contentMaxWidth : Option (Option Nat) := none
  columns : Option Nat := none
  gutter : Option Nat := none
  margin : Option Nat := none
  scale : Option Float := none
  placements : Option Placements := none

/-- The fields of settings. -/
def slots : List (Json.Slot Partial) := [
  { name := "breakpointRange"
    required := true
    filled := fun p => p.range.isSome
    store := fun p o => (WidthRange.ofJson o).map fun v => { p with range := some v } },
  { name := "contentMaxWidth"
    required := false
    filled := fun p => p.contentMaxWidth.isSome
    store := fun p o => (Json.Shape.optional Json.Shape.natural32 o).map fun v =>
      { p with contentMaxWidth := some v } },
  { name := "columns"
    required := true
    filled := fun p => p.columns.isSome
    store := fun p o => (Json.Shape.natural32 o).map fun v => { p with columns := some v } },
  { name := "gutter"
    required := true
    filled := fun p => p.gutter.isSome
    store := fun p o => (Json.Shape.natural32 o).map fun v => { p with gutter := some v } },
  { name := "margin"
    required := true
    filled := fun p => p.margin.isSome
    store := fun p o => (Json.Shape.natural32 o).map fun v => { p with margin := some v } },
  { name := "scale"
    required := true
    filled := fun p => p.scale.isSome
    store := fun p o => (Json.Shape.binary64 o).map fun v => { p with scale := some v } },
  { name := "demo"
    required := true
    filled := fun p => p.placements.isSome
    store := fun p o => (Placements.ofJson o).map fun v => { p with placements := some v } }]

/-- Settings of the fields that were read. -/
def finish (p : Partial) : Except Json.Fault Settings := do
  let range ← Json.present "breakpointRange" p.range
  let columns ← Json.present "columns" p.columns
  let gutter ← Json.present "gutter" p.gutter
  let margin ← Json.present "margin" p.margin
  let scale ← Json.present "scale" p.scale
  let placements ← Json.present "demo" p.placements
  return ⟨range, p.contentMaxWidth.getD none, columns, gutter, margin, scale, placements⟩

/-- Reads settings.  Bounds of the fields other than the range are not checked. -/
def ofJson : Json.Shape Settings := Json.Shape.record "PreferencesSnapshot" slots {} finish

/-- The value of settings. -/
def toJson (s : Settings) : Json :=
  let cap := match s.contentMaxWidth with
    | some w => [("contentMaxWidth", Json.natural w)]
    | none => []
  .object (("breakpointRange", s.range.toJson) :: (cap ++ [
    ("columns", Json.natural s.columns),
    ("gutter", Json.natural s.gutter),
    ("margin", Json.natural s.margin),
    ("scale", scaleToJson s.scale),
    ("demo", s.placements.toJson)]))

end Settings

namespace Snapshot

/-- The only field of a snapshot. -/
def slots : List (Json.Slot (Option (List Settings))) := [
  { name := "gridPreferencesList"
    required := true
    filled := fun p => p.isSome
    store := fun _ o => (Json.Shape.list Settings.ofJson o).map some }]

/-- A snapshot of the field that was read. -/
def finish (p : Option (List Settings)) : Except Json.Fault Snapshot := do
  let breakpoints ← Json.present "gridPreferencesList" p
  return ⟨breakpoints⟩

/-- Reads a snapshot. -/
def ofJson : Json.Shape Snapshot := Json.Shape.record "GridSystemSnapshot" slots none finish

/-- The value of a snapshot. -/
def toJson (s : Snapshot) : Json :=
  .object [("gridPreferencesList", .array (s.breakpoints.map Settings.toJson))]

/-- Reads a snapshot from a text. -/
def parse (text : String) : Except Json.Fault Snapshot := Json.parse ofJson text

/-- The text of a snapshot on one line. -/
def text (s : Snapshot) : String := String.ofList s.toJson.compact

/-- The text of a snapshot with one member a line. -/
def prettyText (s : Snapshot) : String := String.ofList s.toJson.pretty

end Snapshot

/-! ## Layouts -/

namespace SketchColumns

/-- The fields of a layout with a fixed column width that have been read. -/
structure Partial where
  totalWidth : Option Int := none
  offset : Option Int := none
  numberOfColumns : Option Nat := none
  gutterOnOutside : Option Bool := none
  gutterWidth : Option Nat := none
  columnWidth : Option Int := none

/-- The fields of a layout with a fixed column width. -/
def slots : List (Json.Slot Partial) := [
  { name := "totalWidth"
    required := true
    filled := fun p => p.totalWidth.isSome
    store := fun p o => (Json.Shape.integer64 o).map fun v => { p with totalWidth := some v } },
  { name := "offset"
    required := true
    filled := fun p => p.offset.isSome
    store := fun p o => (Json.Shape.integer64 o).map fun v => { p with offset := some v } },
  { name := "numberOfColumns"
    required := true
    filled := fun p => p.numberOfColumns.isSome
    store := fun p o => (Json.Shape.natural32 o).map fun v => { p with numberOfColumns := some v } },
  { name := "gutterOnOutside"
    required := true
    filled := fun p => p.gutterOnOutside.isSome
    store := fun p o => (Json.Shape.truth o).map fun v => { p with gutterOnOutside := some v } },
  { name := "gutterWidth"
    required := true
    filled := fun p => p.gutterWidth.isSome
    store := fun p o => (Json.Shape.natural32 o).map fun v => { p with gutterWidth := some v } },
  { name := "columnWidth"
    required := true
    filled := fun p => p.columnWidth.isSome
    store := fun p o => (Json.Shape.integer64 o).map fun v => { p with columnWidth := some v } }]

/-- Columns with a fixed width, of the fields that were read. -/
def finish (p : Partial) : Except Json.Fault SketchColumns := do
  let totalWidth ← Json.present "totalWidth" p.totalWidth
  let offset ← Json.present "offset" p.offset
  let numberOfColumns ← Json.present "numberOfColumns" p.numberOfColumns
  let gutterOnOutside ← Json.present "gutterOnOutside" p.gutterOnOutside
  let gutterWidth ← Json.present "gutterWidth" p.gutterWidth
  let columnWidth ← Json.present "columnWidth" p.columnWidth
  return ⟨totalWidth, offset, numberOfColumns, gutterOnOutside, gutterWidth, columnWidth⟩

/-- Reads columns with a fixed width. -/
def ofJson : Json.Shape SketchColumns := Json.Shape.record "SketchColumns" slots {} finish

/-- The value of columns with a fixed width. -/
def toJson (c : SketchColumns) : Json :=
  .object [("totalWidth", .integer c.totalWidth), ("offset", .integer c.offset),
    ("numberOfColumns", Json.natural c.numberOfColumns),
    ("gutterOnOutside", .boolean c.gutterOnOutside),
    ("gutterWidth", Json.natural c.gutterWidth), ("columnWidth", .integer c.columnWidth)]

end SketchColumns

namespace FigmaColumns

/-- The fields of a layout with stretched columns that have been read. -/
structure Partial where
  count : Option Nat := none
  kind : Option Unit := none
  margin : Option Int := none
  gutter : Option Nat := none

/-- The fields of a layout with stretched columns. -/
def slots : List (Json.Slot Partial) := [
  { name := "count"
    required := true
    filled := fun p => p.count.isSome
    store := fun p o => (Json.Shape.natural32 o).map fun v => { p with count := some v } },
  { name := "type"
    required := true
    filled := fun p => p.kind.isSome
    store := fun p o => (Json.Shape.variant [("Stretch", ())] o).map fun v =>
      { p with kind := some v } },
  { name := "margin"
    required := true
    filled := fun p => p.margin.isSome
    store := fun p o => (Json.Shape.integer64 o).map fun v => { p with margin := some v } },
  { name := "gutter"
    required := true
    filled := fun p => p.gutter.isSome
    store := fun p o => (Json.Shape.natural32 o).map fun v => { p with gutter := some v } }]

/-- Stretched columns, of the fields that were read. -/
def finish (p : Partial) : Except Json.Fault FigmaColumns := do
  let count ← Json.present "count" p.count
  let _ ← Json.present "type" p.kind
  let margin ← Json.present "margin" p.margin
  let gutter ← Json.present "gutter" p.gutter
  return ⟨count, margin, gutter⟩

/-- Reads stretched columns. -/
def ofJson : Json.Shape FigmaColumns := Json.Shape.record "FigmaColumns" slots {} finish

/-- The value of stretched columns. -/
def toJson (c : FigmaColumns) : Json :=
  .object [("count", Json.natural c.count), ("type", .string "Stretch"),
    ("margin", .integer c.margin), ("gutter", Json.natural c.gutter)]

end FigmaColumns

namespace Layout

/-- A record whose only field holds the columns. -/
def wrapped {α : Type} (name : String) (read : Json.Shape α) : Json.Shape α :=
  Json.Shape.record name [
    { name := "columns"
      required := true
      filled := fun p : Option α => p.isSome
      store := fun _ o => (read o).map some }] none (Json.present "columns")

/-- Reads a layout with a fixed column width. -/
def sketchOfJson : Json.Shape Layout := fun o =>
  (wrapped "SketchLayoutSettings" SketchColumns.ofJson o).map .sketch

/-- Reads a layout with stretched columns. -/
def figmaOfJson : Json.Shape Layout := fun o =>
  (wrapped "FigmaLayoutGrid" FigmaColumns.ofJson o).map .figma

/-- Reads a layout of either kind.  Only its fields tell which one it is. -/
def ofJson : Json.Shape Layout :=
  Json.Shape.firstFitting "ExternalLayout" [sketchOfJson, figmaOfJson]

/-- The value of a layout. -/
def toJson : Layout → Json
  | .sketch columns => .object [("columns", columns.toJson)]
  | .figma columns => .object [("columns", columns.toJson)]

/-- The text of a layout on one line. -/
def text (l : Layout) : String := String.ofList l.toJson.compact

/-- The text of a layout with one member a line. -/
def prettyText (l : Layout) : String := String.ofList l.toJson.pretty

end Layout

end ResponsiveGrid
