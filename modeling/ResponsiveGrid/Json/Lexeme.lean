import ResponsiveGrid.Decimal.Reading
import ResponsiveGrid.Json.Fault
import ResponsiveGrid.Text.Reading
import ResponsiveGrid.Word
set_option autoImplicit false

/-!
# Json: words, strings and numbers

A lexeme can be read for its content or only stepped over.  The two agree on where
a lexeme ends, but stepping over is more lenient: it does not pair surrogates and
does not compute a number, so a text may be well formed and still have a string or
a number without content.  `readString` and `skipString` start behind the opening
quote, `readNumber` and `skipNumber` behind the optional minus sign.
-/

namespace ResponsiveGrid.Json

/-- Drops the blanks that may stand between lexemes. -/
def skipBlanks (s : List Char) : List Char :=
  s.dropWhile fun c => c = ' ' || c = '\n' || c = '\t' || c = '\r'

/-- Reads the rest of a word such as `true`. -/
def readWord : List Char → List Char → Except Fault (List Char)
  | [], s => .ok s
  | _ :: _, [] => .error .truncated
  | w :: word, c :: s => if c = w then readWord word s else .error .malformed

/-! ## Strings -/

/-- The value of four hexadecimal digits. -/
def hexQuad (a b c d : Char) : Option Nat := Text.hexNumber? 0 [a, b, c, d]

/-- What is wrong with fewer than four characters behind `\u`: the text is cut off
unless four bytes are left. -/
def shortQuad (s : List Char) : Fault :=
  if s.foldl (fun bytes c => bytes + c.utf8Size) 0 < 4 then .truncated else .malformed

/-- The character of a one-letter escape. -/
def letterEscape (c : Char) : Option Char :=
  if c = '"' then some '"'
  else if c = '\\' then some '\\'
  else if c = '/' then some '/'
  else if c = 'b' then some '\x08'
  else if c = 'f' then some '\x0c'
  else if c = 'n' then some '\n'
  else if c = 'r' then some '\r'
  else if c = 't' then some '\t'
  else none

/-- Whether a code unit is the first or the second half of a surrogate pair. -/
def isHighSurrogate (n : Nat) : Bool := decide (0xD800 ≤ n ∧ n ≤ 0xDBFF)

/-- Whether a code unit can only be the second half of a surrogate pair. -/
def isLowSurrogate (n : Nat) : Bool := decide (0xDC00 ≤ n ∧ n ≤ 0xDFFF)

/-- The character of a surrogate pair. -/
def pairedChar (high low : Nat) : Char :=
  Char.ofNat (0x10000 + (high - 0xD800) * 0x400 + (low - 0xDC00))

/-- Puts a character before content that was read. -/
def prepend (c : Char) : Except Fault (List Char) → Except Fault (List Char)
  | .ok content => .ok (c :: content)
  | .error fault => .error fault

/-- The content of a string, up to its closing quote. -/
def readString : List Char → Except Fault (List Char)
  | [] => .error .truncated
  | c :: rest =>
      if c = '"' then .ok []
      else if c = '\\' then
        match rest with
        | [] => .error .truncated
        | e :: tail =>
            if e = 'u' then
              match tail with
              | h₁ :: h₂ :: h₃ :: h₄ :: tail =>
                  match hexQuad h₁ h₂ h₃ h₄ with
                  | none => .error .malformed
                  | some n =>
                      if isLowSurrogate n then .error .malformed
                      else if isHighSurrogate n then
                        match tail with
                        | [] => .error .truncated
                        | [b] => .error (if b = '\\' then .truncated else .malformed)
                        | b :: u :: tail =>
                            if b = '\\' ∧ u = 'u' then
                              match tail with
                              | l₁ :: l₂ :: l₃ :: l₄ :: tail =>
                                  match hexQuad l₁ l₂ l₃ l₄ with
                                  | none => .error .malformed
                                  | some m =>
                                      if isLowSurrogate m then
                                        prepend (pairedChar n m) (readString tail)
                                      else .error .malformed
                              | short => .error (shortQuad short)
                            else .error .malformed
                      else prepend (Char.ofNat n) (readString tail)
              | short => .error (shortQuad short)
            else
              match letterEscape e with
              | some d => prepend d (readString tail)
              | none => .error .malformed
      else if c.toNat < 0x20 then .error .malformed
      else prepend c (readString rest)

/-- The text behind the closing quote of a string. -/
def skipString : List Char → Except Fault (List Char)
  | [] => .error .truncated
  | c :: rest =>
      if c = '"' then .ok rest
      else if c = '\\' then
        match rest with
        | [] => .error .truncated
        | e :: tail =>
            if e = 'u' then
              match tail with
              | h₁ :: h₂ :: h₃ :: h₄ :: tail =>
                  match hexQuad h₁ h₂ h₃ h₄ with
                  | none => .error .malformed
                  | some _ => skipString tail
              | short => .error (shortQuad short)
            else
              match letterEscape e with
              | some _ => skipString tail
              | none => .error .malformed
      else if c.toNat < 0x20 then .error .malformed
      else skipString rest

/-! ## Numbers -/

/-- A number that was read.  Integers that fit neither sixty-four unsigned bits nor,
below zero, sixty-four signed bits are decimals. -/
inductive Number where
  | integer (value : Int)
  | decimal (value : Float)
  deriving Inhabited

/-- The digits at the start of a text. -/
def digitsOf (s : List Char) : List Char := s.takeWhile Char.isDigit

/-- The text behind the digits at its start. -/
def afterDigits (s : List Char) : List Char := s.dropWhile Char.isDigit

/-- Appends digits to a significand as long as sixty-four bits hold it, and returns
the digits that are left. -/
def accumulate (significand : Nat) : List Char → Nat × List Char
  | [] => (significand, [])
  | c :: rest =>
      let next := significand * 10 + (c.toNat - '0'.toNat)
      if next ≤ largest64 then accumulate next rest else (significand, c :: rest)

/-- Divides by a power of ten, at most by `10 ^ 308` at once. -/
def divideByTens (x : Float) (tens : Nat) : Float :=
  if tens ≤ 308 then x / Float.ofScientific 1 false tens
  else if x == 0.0 then x
  else divideByTens (x / Float.ofScientific 1 false 308) (tens - 308)
termination_by tens

/-- The significand, rounded, times a power of ten, rounded.  Two roundings can end
beside the nearest value. -/
def scaled (significand : Nat) (exponent : Int) : Except Fault Float :=
  let x := (UInt64.ofNat significand).toFloat
  if 0 ≤ exponent then
    if 308 < exponent then
      if x == 0.0 then .ok x else .error .malformed
    else
      let product := x * Float.ofScientific 1 false exponent.toNat
      if product.isInf then .error .malformed else .ok product
  else .ok (divideByTens x exponent.natAbs)

/-- The largest exponent that is computed with. -/
def exponentMax : Nat := 2147483647

/-- The exponent part of a number and what follows: `none` when there is none. -/
def exponentPart : List Char → Option (List Char)
  | c :: rest => if c = 'e' ∨ c = 'E' then some rest else none
  | [] => none

/-- The sign of an exponent (`true` for minus) and the text behind it. -/
def exponentSign : List Char → Bool × List Char
  | '+' :: rest => (false, rest)
  | '-' :: rest => (true, rest)
  | s => (false, s)

/-- Applies an exponent part, which has to start with a digit.  An exponent that is
too large to compute with makes zero, or a number that is out of range. -/
def withExponent (significand : Nat) (exponent : Int) (s : List Char) :
    Except Fault Float :=
  let (negative, rest) := exponentSign s
  let digits := digitsOf rest
  if digits = [] then .error (if rest = [] then .truncated else .malformed)
  else
    let written := Decimal.valueOf digits
    if exponentMax < written then
      if significand ≠ 0 ∧ ¬ negative then .error .malformed else .ok 0.0
    else if negative then scaled significand (exponent - written)
    else scaled significand (exponent + written)

/-- A number with a point or an exponent, or with too many digits for an integer.
Digits that do not fit the significand are dropped; before the point each of them
counts as a power of ten. -/
def decimalNumber (whole : List Char) (rest : List Char) : Except Fault Float :=
  let (significand, dropped) := accumulate 0 whole
  match rest with
  | '.' :: tail =>
      let fraction := digitsOf tail
      let behind := afterDigits tail
      if fraction = [] then .error (if tail = [] then .truncated else .malformed)
      else
        let (significand, unused) := accumulate significand fraction
        let exponent : Int := (dropped.length : Int) - (fraction.length - unused.length : Nat)
        match exponentPart behind with
        | some s => withExponent significand exponent s
        | none => scaled significand exponent
  | _ =>
      match exponentPart rest with
      | some s => withExponent significand dropped.length s
      | none => scaled significand dropped.length

/-- The content of a number whose sign has been read. -/
def readNumber (negative : Bool) (s : List Char) : Except Fault Number :=
  let whole := digitsOf s
  let rest := afterDigits s
  let fraction := rest.head? = some '.' ∨ (exponentPart rest).isSome
  if whole = [] then .error (if s = [] then .truncated else .malformed)
  else if whole.head? = some '0' ∧ 1 < whole.length then .error .malformed
  else
    let value := Decimal.valueOf whole
    if ¬ fraction ∧ value ≤ largest64 then
      if ¬ negative then .ok (.integer value)
      else if value ≠ 0 ∧ value ≤ 9223372036854775808 then .ok (.integer (-value))
      else .ok (.decimal (-(UInt64.ofNat value).toFloat))
    else
      match decimalNumber whole rest with
      | .ok x => .ok (.decimal (if negative then -x else x))
      | .error fault => .error fault

/-- The text behind an exponent part. -/
def skipExponent (s : List Char) : Except Fault (List Char) :=
  match exponentPart s with
  | none => .ok s
  | some s =>
      let rest := (exponentSign s).2
      if digitsOf rest = [] then .error .malformed else .ok (afterDigits rest)

/-- The text behind a number whose sign has been read. -/
def skipNumber (s : List Char) : Except Fault (List Char) :=
  let whole := digitsOf s
  if whole = [] then .error .malformed
  else if whole.head? = some '0' ∧ 1 < whole.length then .error .malformed
  else
    match afterDigits s with
    | '.' :: tail =>
        if digitsOf tail = [] then .error .malformed else skipExponent (afterDigits tail)
    | rest => skipExponent rest

end ResponsiveGrid.Json
