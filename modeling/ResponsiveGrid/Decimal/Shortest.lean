import ResponsiveGrid.Decimal.Binary64
set_option autoImplicit false

/-!
# Decimal: the fewest digits that read back

A decimal reads back as a value when it lies in the window of numbers that round
to the value.  `Finite.shortest` looks at the grids `10 ^ p` from coarse to fine.
On each grid only the two neighbours of the value can lie in the window, and the
first grid on which one does wins.  All numbers are counted in units of
`2 ^ -1076 · 10 ^ -1074`, so that the value, its window and every grid point are
natural numbers.
-/

namespace ResponsiveGrid.Decimal

/-- The number `coefficient · 10 ^ exponent`. -/
structure Digits where
  coefficient : Nat
  exponent : Int
  deriving DecidableEq, Repr, Inhabited

/-- Which of two equally near decimals is taken. -/
inductive Tie where
  | up
  | even
  deriving DecidableEq, Repr, Inhabited

/-- The numbers that round to one value, with that value at `centre`.  The ends
belong to the window when the significand of the value is even. -/
structure Window where
  low : Nat
  centre : Nat
  high : Nat
  closed : Bool
  deriving DecidableEq, Repr, Inhabited

namespace Window

/-- Whether a number rounds to the value of the window. -/
def contains (w : Window) (v : Nat) : Bool :=
  if w.closed then decide (w.low ≤ v ∧ v ≤ w.high) else decide (w.low < v ∧ v < w.high)

theorem contains_iff (w : Window) (v : Nat) :
    w.contains v = true ↔
      if w.closed then w.low ≤ v ∧ v ≤ w.high else w.low < v ∧ v < w.high := by
  unfold contains
  split <;> simp

/-- The point of a grid of spacing `unit` that stands for the value: the
neighbour that lies in the window, the nearer one if both do. -/
def pick (w : Window) (tie : Tie) (unit : Nat) : Option Nat :=
  let below := w.centre / unit
  let above := below + 1
  match w.contains (below * unit), w.contains (above * unit) with
  | false, false => none
  | true, false => some below
  | false, true => some above
  | true, true =>
      let twice := 2 * (w.centre - below * unit)
      if twice < unit then some below
      else if unit < twice then some above
      else match tie with
        | .up => some above
        | .even => if below % 2 = 0 then some below else some above

theorem contains_of_pick {w : Window} {tie : Tie} {unit d : Nat}
    (h : w.pick tie unit = some d) : w.contains (d * unit) = true := by
  unfold pick at h
  cases hb : w.contains (w.centre / unit * unit) <;>
    cases ha : w.contains ((w.centre / unit + 1) * unit) <;>
    simp only [hb, ha] at h
  · cases h
  · cases h; exact ha
  · cases h; exact hb
  · repeat' split at h
    all_goals (cases h; first | exact ha | exact hb)

end Window

/-- The spacing of the grid `10 ^ (n - 1074)`. -/
def gridUnit (n : Nat) : Nat := ticksOfOne * Nat.pow 10 n

namespace Finite

/-- The numbers that round to a value. -/
def window (f : Finite) : Window :=
  let scale := Nat.pow 10 1074
  { low := (f.ticks - f.halfGapBelow) * scale
    centre := f.ticks * scale
    high := (f.ticks + f.halfGapAbove) * scale
    closed := f.significand % 2 == 0 }

/-- Walks the grids down from `10 ^ (n - 1074)`.  Every finite value lies on the
last one. -/
def search (w : Window) (tie : Tie) : Nat → Digits
  | 0 => ⟨w.centre / gridUnit 0, -1074⟩
  | n + 1 =>
      match w.pick tie (gridUnit (n + 1)) with
      | some d => ⟨d, (n : Int) + 1 - 1074⟩
      | none => search w tie n

/-- The shortest decimal that reads back as the magnitude of a value, the nearest
one of that length.  The walk starts at the first power of ten above the value. -/
def shortest (tie : Tie) (f : Finite) : Digits :=
  search f.window tie ((Nat.toDigits 10 (f.ticks / ticksOfOne)).length + 1074)

end Finite

end ResponsiveGrid.Decimal
