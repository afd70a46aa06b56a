set_option autoImplicit false

/-!
# Decimal: arithmetic with binary64 rounding, on exact rationals

Layouts divide in binary64 and round halves up.  Here the two binary64 operations
that takes are done on rationals: the exact result, then the nearest number with
fifty-three binary digits.  Within the magnitudes of layouts no result is too large
or too small for binary64, so that rule is the whole of it.
-/

namespace ResponsiveGrid.Decimal

/-- The whole number nearest to `q`; of two equally near ones the even one. -/
def roundEven (q : Rat) : Int :=
  let below := q.floor
  let rest := q - below
  if rest < 1 / 2 then below
  else if 1 / 2 < rest then below + 1
  else if below % 2 = 0 then below else below + 1

/-- The exponent `e` with `2 ^ e ≤ |q| < 2 ^ (e + 1)`, for `q ≠ 0`.  The lengths of
numerator and denominator determine it up to one. -/
def binaryExponent (q : Rat) : Int :=
  let guess : Int := (Nat.log2 q.num.natAbs : Int) - Nat.log2 q.den
  if q.abs < (2 : Rat) ^ guess then guess - 1 else guess

/-- The number nearest to `q` that has fifty-three binary digits; of two equally near
ones the one with an even last digit. -/
def toBinary64 (q : Rat) : Rat :=
  if q = 0 then 0
  else
    let unit := (2 : Rat) ^ (binaryExponent q - 52)
    roundEven (q / unit) * unit

/-- The whole number nearest to `n / d`, halves going up, when the quotient and the
sum with one half are each rounded to binary64 before the floor is taken. -/
def quotientHalfUp (n : Int) (d : Nat) : Int :=
  (toBinary64 (toBinary64 ((n : Rat) / (d : Rat)) + 1 / 2)).floor

end ResponsiveGrid.Decimal
