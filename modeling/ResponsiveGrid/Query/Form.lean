import ResponsiveGrid.Text.Parts
import ResponsiveGrid.Text.Reading
import ResponsiveGrid.Text.Utf8
set_option autoImplicit false

/-!
# Query: pairs of names and values in a query string

A query string holds pairs, separated by ampersands, with an equals sign between name
and value.  In a component a space is written as a plus sign, and every byte that is
no letter, no digit and none of `*-._` as a percent sign with two hexadecimal digits.
Reading never fails: what is no escape stands for itself.
-/

namespace ResponsiveGrid.Query

/-- A name and a value. -/
abbrev Pair : Type := String × String

/-! ## Writing -/

/-- Whether a byte stands for itself. -/
def isLiteral (b : UInt8) : Bool :=
  let n := b.toNat
  decide ((0x30 ≤ n ∧ n ≤ 0x39) ∨ (0x41 ≤ n ∧ n ≤ 0x5A) ∨ (0x61 ≤ n ∧ n ≤ 0x7A) ∨
    n = 0x2A ∨ n = 0x2D ∨ n = 0x2E ∨ n = 0x5F)

/-- The upper-case hexadecimal digit of a number below sixteen. -/
def upperHex (n : Nat) : Char := (Nat.digitChar n).toUpper

/-- The text of a byte. -/
def encodeByte (b : UInt8) : List Char :=
  if isLiteral b then [Char.ofNat b.toNat]
  else if b = 0x20 then ['+']
  else ['%', upperHex (b.toNat / 16), upperHex (b.toNat % 16)]

/-- The characters that the characters of a component are written with. -/
def encodeChars (text : List Char) : List Char :=
  (Text.Utf8.encode text).flatMap encodeByte

/-- Writes a component. -/
def encodeComponent (s : String) : String := String.ofList (encodeChars s.toList)

/-- Writes a pair. -/
def encodePair (p : Pair) : List Char :=
  encodeChars p.1.toList ++ '=' :: encodeChars p.2.toList

/-- Writes pairs. -/
def encodePairs (pairs : List Pair) : String :=
  String.ofList (List.intercalate ['&'] (pairs.map encodePair))

/-! ## Reading -/

/-- The value of a byte that is a hexadecimal digit. -/
def hexDigit? (b : UInt8) : Option Nat := Text.hexDigit? (Char.ofNat b.toNat)

/-- The byte that the two bytes behind a percent sign stand for: a hexadecimal number
of two digits, or of one digit behind a plus sign. -/
def escape? (high low : UInt8) : Option UInt8 :=
  match hexDigit? low with
  | none => none
  | some l =>
      if high = 0x2B then some (UInt8.ofNat l)
      else
        match hexDigit? high with
        | some h => some (UInt8.ofNat (h * 16 + l))
        | none => none

/-- Reads the bytes of a component. -/
def decodeBytes : List UInt8 → List UInt8
  | [] => []
  | b :: rest =>
      if b = 0x2B then 0x20 :: decodeBytes rest
      else if b = 0x25 then
        match rest with
        | [] => [b]
        | [c] => b :: decodeBytes [c]
        | high :: low :: tail =>
            match escape? high low with
            | some byte => byte :: decodeBytes tail
            | none => b :: decodeBytes (high :: low :: tail)
      else b :: decodeBytes rest

/-- The characters that the characters of a component are read as. -/
def decodeChars (text : List Char) : List Char :=
  Text.Utf8.decode (decodeBytes (Text.Utf8.encode text))

/-- Reads a component. -/
def decodeComponent (s : String) : String := String.ofList (decodeChars s.toList)

/-- Reads a pair.  The first equals sign separates; without one the value is empty. -/
def decodePair (text : List Char) : Pair :=
  let name := text.takeWhile (· ≠ '=')
  let value := (text.dropWhile (· ≠ '=')).drop 1
  (String.ofList (decodeChars name), String.ofList (decodeChars value))

/-- A query without the question mark in front. -/
def unmarked : List Char → List Char
  | '?' :: rest => rest
  | text => text

/-- Reads the pairs of a query.  Empty parts are none. -/
def decodePairs (query : String) : List Pair :=
  ((Text.parts '&' (unmarked query.toList)).filter (· ≠ [])).map decodePair

end ResponsiveGrid.Query
