set_option autoImplicit false

/-!
# Decimal: what the bits of a binary64 value say

A scale is kept as a binary64 value, and both of its texts (the one in messages
and style sheets, and the one in JSON) are decided by exact arithmetic on whole
numbers.  This module fixes the reading of the bits once: a finite value is
`± significand · 2 ^ shift` counted in units of `2 ^ -1074`, the least positive
value there is.
-/

namespace ResponsiveGrid.Decimal

/-- A finite value `± significand · 2 ^ (shift - 1074)`. -/
structure Finite where
  negative : Bool
  significand : Nat
  shift : Nat
  deriving DecidableEq, Repr, Inhabited

/-- The three kinds of binary64 values. -/
inductive Kind where
  | notANumber
  | infinite (negative : Bool)
  | finite (value : Finite)
  deriving DecidableEq, Repr, Inhabited

/-- The bit above the fraction, which is not stored.  From this number on every value
is whole. -/
def hiddenBit : Nat := Nat.pow 2 52

/-- The number one in units of `2 ^ -1076`. -/
def ticksOfOne : Nat := Nat.pow 2 1076

/-- Reads sign, exponent field and fraction off the 64 bits.  An exponent field
of zero has no hidden bit and the same unit as an exponent field of one. -/
def kindOf (x : Float) : Kind :=
  let bits := x.toBits.toNat
  let negative := decide (bits / Nat.pow 2 63 = 1)
  let exponent := bits / hiddenBit % 2048
  let fraction := bits % hiddenBit
  if exponent = 2047 then
    if fraction = 0 then .infinite negative else .notANumber
  else if exponent = 0 then
    .finite ⟨negative, fraction, 0⟩
  else
    .finite ⟨negative, hiddenBit + fraction, exponent - 1⟩

namespace Finite

/-- The magnitude in units of `2 ^ -1076`.  A quarter of the least positive value
is small enough that the midpoints to both neighbours are whole numbers. -/
def ticks (f : Finite) : Nat := 4 * f.significand * Nat.pow 2 f.shift

/-- Ticks up to the midpoint between a value and the next larger magnitude. -/
def halfGapAbove (f : Finite) : Nat := 2 * Nat.pow 2 f.shift

/-- Ticks down to the midpoint between a value and the next smaller magnitude.
Below a power of two the neighbours are twice as close. -/
def halfGapBelow (f : Finite) : Nat :=
  if f.significand = hiddenBit ∧ 0 < f.shift then Nat.pow 2 f.shift
  else 2 * Nat.pow 2 f.shift

/-- The largest whole number that is not above the value. -/
def floor (f : Finite) : Int :=
  let whole : Nat := f.ticks / ticksOfOne
  if f.negative then
    if f.ticks % ticksOfOne = 0 then -(whole : Int) else -(whole : Int) - 1
  else
    whole

end Finite

/-- The largest whole binary64 value that is not above `x`.  From `2 ^ 52` on
every value is whole already; a zero keeps its sign. -/
def floor (x : Float) : Float :=
  match kindOf x with
  | .finite f =>
      if f.significand = 0 ∨ hiddenBit * ticksOfOne ≤ f.ticks then x
      else Float.ofInt f.floor
  | _ => x

end ResponsiveGrid.Decimal
