set_option autoImplicit false

/-!
# Decimal: numbers read from text

`naturalOf?` and `wholeOf?` read unsigned and signed whole numbers, and
`binary64Of?` reads a decimal as the binary64 value nearest to it.  The grammar
of the last one is an optional sign, then `inf`, `infinity` or `nan` in any case,
or digits with at most one point and an optional exponent.
-/

namespace ResponsiveGrid.Decimal

/-- The value of a list of digits, most significant first. -/
def valueOf (digits : List Char) : Nat :=
  digits.foldl (fun value c => value * 10 + (c.toNat - '0'.toNat)) 0

/-- One digit or more, and nothing else. -/
def naturalOf? (text : List Char) : Option Nat :=
  if text ≠ [] ∧ text.all Char.isDigit then some (valueOf text) else none

/-- A natural number after an optional plus sign. -/
def countOf? : List Char → Option Nat
  | '+' :: text => naturalOf? text
  | text => naturalOf? text

/-- A natural number after an optional sign. -/
def wholeOf? : List Char → Option Int
  | '+' :: text => (naturalOf? text).map Int.ofNat
  | '-' :: text => (naturalOf? text).map fun n => -Int.ofNat n
  | text => (naturalOf? text).map Int.ofNat

/-- The binary64 value nearest to `coefficient · 10 ^ exponent`.  Beyond the
exponents that a binary64 value can have, the answer is zero or infinity and no
power of ten is computed. -/
def nearest (coefficient : Nat) (exponent : Int) : Float :=
  let leading := (Nat.toDigits 10 coefficient).length + exponent
  if coefficient = 0 ∨ leading < -400 then 0.0
  else if 400 < leading then 1.0 / 0.0
  else Float.ofScientific coefficient (decide (exponent < 0)) exponent.natAbs

/-- Reads an optional exponent, which has to end the text. -/
def exponentOf? : List Char → Option Int
  | [] => some 0
  | c :: rest => if c = 'e' ∨ c = 'E' then wholeOf? rest else none

/-- Reads a magnitude: a word for infinity or for no number, or digits around at
most one point. -/
def magnitudeOf? (text : List Char) : Option Float :=
  let word := text.map Char.toLower
  if word = "inf".toList ∨ word = "infinity".toList then some (1.0 / 0.0)
  else if word = "nan".toList then some (0.0 / 0.0)
  else
    let whole := text.takeWhile Char.isDigit
    let afterWhole := text.dropWhile Char.isDigit
    let (fraction, rest) := match afterWhole with
      | '.' :: tail => (tail.takeWhile Char.isDigit, tail.dropWhile Char.isDigit)
      | _ => ([], afterWhole)
    if whole = [] ∧ fraction = [] then none
    else
      (exponentOf? rest).map fun exponent =>
        nearest (valueOf (whole ++ fraction)) (exponent - fraction.length)

/-- The binary64 value nearest to the decimal that a text writes. -/
def binary64Of? : List Char → Option Float
  | '+' :: text => magnitudeOf? text
  | '-' :: text => (magnitudeOf? text).map fun x => -x
  | text => magnitudeOf? text

end ResponsiveGrid.Decimal
