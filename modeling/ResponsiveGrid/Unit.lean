import ResponsiveGrid.Decimal.Layout
set_option autoImplicit false

/-!
# Unit: lengths and ratios as they are shown

Pixels as root ems at sixteen pixels each, and ratios as percentages with at most one
place.
-/

namespace ResponsiveGrid.Unit

/-- Pixels in root ems: twenty-four are `1.5rem`. -/
def rem (pixels : Float) : String :=
  String.ofList (Decimal.plain (pixels / 16.0) ++ ['r', 'e', 'm'])

/-- A ratio in percent, rounded to tenths with halves going up: two thirds are
`66.7%`. -/
def percentage (ratio : Float) : String :=
  let tenths := Decimal.floor (ratio * 100.0 * 10.0 + 0.5)
  String.ofList (Decimal.plain (tenths / 10.0) ++ ['%'])

end ResponsiveGrid.Unit
