set_option autoImplicit false

/-!
# Word: the numbers that words of a machine hold

Widths and counts are words of thirty-two bits, positions and identities are words of sixty-four
bits, and what is computed for a layout is a word of sixty-four bits with a sign.
-/

namespace ResponsiveGrid

/-- The largest number that thirty-two bits hold. -/
def largest32 : Nat := 4294967295

/-- The largest number that sixty-four bits hold. -/
def largest64 : Nat := 18446744073709551615

/-- A number fits into a word of sixty-four bits with a sign. -/
def IsSigned (n : Int) : Prop := -9223372036854775808 ≤ n ∧ n ≤ 9223372036854775807

instance (n : Int) : Decidable (IsSigned n) := inferInstanceAs (Decidable (_ ∧ _))

end ResponsiveGrid
