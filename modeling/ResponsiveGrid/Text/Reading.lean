set_option autoImplicit false

/-!
# Text: reading from the front

A reader takes what it reads from the front of a text and gives back the rest.  Escapes write a
character or a byte with hexadecimal digits.  All readers of escapes take a digit in either case;
they differ in how many digits they want and in what may stand between them.
-/

namespace ResponsiveGrid.Text

/-- Takes the beginning of a text and gives back the rest. -/
abbrev Reader (α : Type) : Type := List Char → Option (α × List Char)

/-- The value of a hexadecimal digit of either case. -/
def hexDigit? (c : Char) : Option Nat :=
  if '0' ≤ c ∧ c ≤ '9' then some (c.toNat - '0'.toNat)
  else if 'a' ≤ c ∧ c ≤ 'f' then some (c.toNat - 'a'.toNat + 10)
  else if 'A' ≤ c ∧ c ≤ 'F' then some (c.toNat - 'A'.toNat + 10)
  else none

/-- The number that hexadecimal digits write behind a value that has been read. -/
def hexNumber? : Nat → List Char → Option Nat
  | value, [] => some value
  | value, c :: rest =>
      match hexDigit? c with
      | some digit => hexNumber? (value * 16 + digit) rest
      | none => none

end ResponsiveGrid.Text
