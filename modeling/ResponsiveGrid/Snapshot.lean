import ResponsiveGrid.Settings
set_option autoImplicit false

/-!
# Snapshot: the content of a grid system without identities

A snapshot is what is stored and shared.  It holds the settings of every breakpoint
in order and is checked only when it is made into a system.  The built-in default is
given here, and the settings that an empty system starts from.
-/

namespace ResponsiveGrid

/-- The settings of every breakpoint, narrowest first. -/
structure Snapshot where
  breakpoints : List Settings
  deriving DecidableEq, Repr, Inhabited

namespace Snapshot

/-- Elements that all start at the first column line. -/
def placedUpTo (heading1 heading2 paragraph : Nat) : Placements :=
  ⟨⟨1, heading1⟩, ⟨1, heading2⟩, ⟨1, paragraph⟩⟩

/-- The five steps of the default, from phone to wide desktop. -/
def default : Snapshot where
  breakpoints := [
    { range := .between 0 719 (by decide)
      contentMaxWidth := none
      columns := 4
      gutter := 16
      margin := 16
      scale := 1.0
      placements := placedUpTo 5 5 5 },
    { range := .between 720 1023 (by decide)
      contentMaxWidth := some 720
      columns := 8
      gutter := 16
      margin := 16
      scale := 1.0
      placements := placedUpTo 9 9 8 },
    { range := .between 1024 1279 (by decide)
      contentMaxWidth := some 1024
      columns := 12
      gutter := 32
      margin := 16
      scale := 1.0
      placements := placedUpTo 13 13 9 },
    { range := .between 1280 1599 (by decide)
      contentMaxWidth := some 1280
      columns := 12
      gutter := 32
      margin := 32
      scale := 1.0
      placements := placedUpTo 13 13 7 },
    { range := .onward 1600 (by decide)
      contentMaxWidth := some 1280
      columns := 12
      gutter := 32
      margin := 32
      scale := 1.25
      placements := placedUpTo 13 13 7 }]

/-- Whether the content is that of the default. -/
def isDefault (s : Snapshot) : Bool := decide (s = default)

end Snapshot

/-- The settings of the first breakpoint of an otherwise empty system. -/
def Settings.seed : Settings where
  range := .full
  contentMaxWidth := none
  columns := 4
  gutter := 16
  margin := 16
  scale := 1.0
  placements := Snapshot.placedUpTo 5 5 5

end ResponsiveGrid
