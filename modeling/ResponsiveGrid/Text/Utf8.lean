set_option autoImplicit false

/-!
# Text: bytes of characters, and characters of any bytes

`encode` writes characters as UTF-8.  `decode` reads any bytes: where they are no
UTF-8 it puts one replacement character for each maximal part that could still have
begun a character, and goes on behind it.
-/

namespace ResponsiveGrid.Text.Utf8

/-- The bytes of characters. -/
def encode (text : List Char) : List UInt8 := text.flatMap String.utf8EncodeChar

/-- The character in place of bytes that are none. -/
def replacement : Char := '\uFFFD'

/-- A byte that continues a character. -/
def isTail (b : UInt8) : Bool := decide (0x80 ≤ b.toNat ∧ b.toNat ≤ 0xBF)

/-- How many bytes a first byte announces behind it; none if it begins no
character. -/
def tailsAfter (first : UInt8) : Option Nat :=
  let n := first.toNat
  if n < 0x80 then some 0
  else if 0xC2 ≤ n ∧ n ≤ 0xDF then some 1
  else if 0xE0 ≤ n ∧ n ≤ 0xEF then some 2
  else if 0xF0 ≤ n ∧ n ≤ 0xF4 then some 3
  else none

/-- Whether a second byte may follow a first one.  Four first bytes narrow the range,
against overlong forms, surrogates and numbers beyond the last character. -/
def secondFits (first second : UInt8) : Bool :=
  let n := second.toNat
  if first.toNat = 0xE0 then decide (0xA0 ≤ n ∧ n ≤ 0xBF)
  else if first.toNat = 0xED then decide (0x80 ≤ n ∧ n ≤ 0x9F)
  else if first.toNat = 0xF0 then decide (0x90 ≤ n ∧ n ≤ 0xBF)
  else if first.toNat = 0xF4 then decide (0x80 ≤ n ∧ n ≤ 0x8F)
  else isTail second

/-- The six bits that a continuing byte carries. -/
def tailBits (b : UInt8) : Nat := b.toNat % 64

/-- The character of two bytes. -/
def char2 (a b : UInt8) : Char := Char.ofNat (a.toNat % 32 * 64 + tailBits b)

/-- The character of three bytes. -/
def char3 (a b c : UInt8) : Char :=
  Char.ofNat ((a.toNat % 16 * 64 + tailBits b) * 64 + tailBits c)

/-- The character of four bytes. -/
def char4 (a b c d : UInt8) : Char :=
  Char.ofNat (((a.toNat % 8 * 64 + tailBits b) * 64 + tailBits c) * 64 + tailBits d)

/-- The characters of bytes. -/
def decode : List UInt8 → List Char
  | [] => []
  | a :: rest =>
      match tailsAfter a with
      | none => replacement :: decode rest
      | some 0 => Char.ofNat a.toNat :: decode rest
      | some 1 =>
          match rest with
          | [] => [replacement]
          | b :: tail =>
              if secondFits a b then char2 a b :: decode tail
              else replacement :: decode (b :: tail)
      | some 2 =>
          match rest with
          | [] => [replacement]
          | [b] =>
              if secondFits a b then [replacement] else replacement :: decode [b]
          | b :: c :: tail =>
              if secondFits a b then
                if isTail c then char3 a b c :: decode tail
                else replacement :: decode (c :: tail)
              else replacement :: decode (b :: c :: tail)
      | some _ =>
          match rest with
          | [] => [replacement]
          | [b] =>
              if secondFits a b then [replacement] else replacement :: decode [b]
          | [b, c] =>
              if secondFits a b then
                if isTail c then [replacement] else replacement :: decode [c]
              else replacement :: decode [b, c]
          | b :: c :: d :: tail =>
              if secondFits a b then
                if isTail c then
                  if isTail d then char4 a b c d :: decode tail
                  else replacement :: decode (d :: tail)
                else replacement :: decode (c :: d :: tail)
              else replacement :: decode (b :: c :: d :: tail)

/-- The characters of bytes that are UTF-8 throughout. -/
def decode? (bytes : List UInt8) : Option (List Char) :=
  let text := decode bytes
  if encode text = bytes then some text else none

end ResponsiveGrid.Text.Utf8
