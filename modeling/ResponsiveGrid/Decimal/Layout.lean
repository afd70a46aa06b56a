import ResponsiveGrid.Decimal.Shortest
set_option autoImplicit false

/-!
# Decimal: how chosen digits are laid out

Two layouts of the same digits.  `plain` never writes an exponent and no point
after a whole number; it is the number of messages, units and style sheets.
`wire` always shows that the number is a decimal, by a point or an exponent; it
is the number of JSON.
-/

namespace ResponsiveGrid.Decimal

namespace Digits

/-- The digits of the coefficient. -/
def figures (d : Digits) : List Char := Nat.toDigits 10 d.coefficient

/-- Positional notation.  `whole` is written after a number without a fraction. -/
def positional (d : Digits) (whole : List Char) : List Char :=
  let figures := d.figures
  if 0 ≤ d.exponent then
    figures ++ List.replicate d.exponent.toNat '0' ++ whole
  else
    let places := d.exponent.natAbs
    if places < figures.length then
      figures.take (figures.length - places) ++ '.' :: figures.drop (figures.length - places)
    else
      '0' :: '.' :: (List.replicate (places - figures.length) '0' ++ figures)

/-- The power of ten of the leading digit. -/
def leadingExponent (d : Digits) : Int := d.figures.length + d.exponent - 1

/-- One digit before the point, and an exponent with its sign. -/
def scientific (d : Digits) : List Char :=
  let mantissa := match d.figures with
    | [] => []
    | [c] => [c]
    | c :: rest => c :: '.' :: rest
  let sign := if d.leadingExponent < 0 then '-' else '+'
  mantissa ++ 'e' :: sign :: Nat.toDigits 10 d.leadingExponent.natAbs

end Digits

/-- Writes a minus sign before a magnitude. -/
def signed (negative : Bool) (magnitude : List Char) : List Char :=
  if negative then '-' :: magnitude else magnitude

/-- The shortest text that reads back, without an exponent and without a point
after a whole number.  A tie goes to the larger digit. -/
def plain (x : Float) : List Char :=
  match kindOf x with
  | .notANumber => "NaN".toList
  | .infinite negative => signed negative "inf".toList
  | .finite f =>
      signed f.negative <|
        if f.significand = 0 then ['0'] else (f.shortest .up).positional []

/-- The shortest text that reads back, with a point or an exponent in every case:
positional while the leading digit stands between `10 ^ -5` and `10 ^ 15`.  A tie
goes to the even digit.  A value that is no number is written `null`. -/
def wire (x : Float) : List Char :=
  match kindOf x with
  | .finite f =>
      signed f.negative <|
        if f.significand = 0 then ['0', '.', '0']
        else
          let digits := f.shortest .even
          let leading := digits.leadingExponent
          if -5 ≤ leading ∧ leading ≤ 15 then digits.positional ['.', '0']
          else digits.scientific
  | _ => "null".toList

end ResponsiveGrid.Decimal
