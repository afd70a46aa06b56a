import ResponsiveGrid.Decimal.Reading
import ResponsiveGrid.Text.Reading
import ResponsiveGrid.Toml.Value
import ResponsiveGrid.Word
set_option autoImplicit false

/-!
# Toml: blanks, keys, strings, numbers and moments

The readers of what has no inner structure.  A reader takes the beginning of a text and
gives back the rest, or nothing when the text does not begin as it should.
-/

namespace ResponsiveGrid.Toml

open Text (Reader)

/-! ## Blanks and comments -/

/-- A blank within a line. -/
def isSpace (c : Char) : Bool := c = ' ' || c = '\t'

/-- A character that may stand in a comment or between quotes: a tabulator, or what is
no control character. -/
def isPlain (c : Char) : Bool := c = '\t' || (decide (0x20 ≤ c.toNat) && c ≠ '\x7f')

/-- The text behind blanks. -/
def skipSpaces (text : List Char) : List Char := text.dropWhile isSpace

/-- The text behind a line break, if it begins with one. -/
def newline? : List Char → Option (List Char)
  | '\n' :: rest => some rest
  | '\r' :: '\n' :: rest => some rest
  | _ => none

/-- The text behind blanks, comments and line breaks. -/
def skipTrivia (inComment : Bool) : List Char → List Char
  | [] => []
  | c :: rest =>
      if inComment && isPlain c then skipTrivia true rest
      else if isSpace c || c = '\n' then skipTrivia false rest
      else if c = '#' then skipTrivia true rest
      else if c = '\r' && rest.head? = some '\n' then skipTrivia false rest
      else c :: rest

/-- The text behind the end of a line, which blanks and a comment may precede. -/
def lineEnd? (text : List Char) : Option (List Char) :=
  let text := match skipSpaces text with
    | '#' :: rest => rest.dropWhile isPlain
    | text => text
  match text with
  | [] => some []
  | text => newline? text

/-! ## Items with separators between them -/

/-- Reads items with a separator between any two; there is at least one.  No text has
more items than characters. -/
def separatedBy {α : Type} (separator : Char) (item : Reader α) : Nat → Reader (List α)
  | 0, _ => none
  | fuel + 1, text =>
      match item text with
      | none => none
      | some (a, rest) =>
          match rest with
          | [] => some ([a], [])
          | c :: tail =>
              if c = separator then
                match separatedBy separator item fuel tail with
                | none => none
                | some (as, rest) => some (a :: as, rest)
              else some ([a], c :: tail)

/-! ## Strings -/

/-- The character whose number the first `count` characters write. -/
def numbered? (count : Nat) (text : List Char) : Option Char :=
  if text.length < count then none
  else
    match Text.hexNumber? 0 (text.take count) with
    | some n => if n.isValidChar then some (Char.ofNat n) else none
    | none => none

/-- The character that an escape stands for, and how many characters behind the
backslash it takes. -/
def escape? : List Char → Option (Char × Nat)
  | 'b' :: _ => some ('\x08', 1)
  | 'f' :: _ => some ('\x0c', 1)
  | 'n' :: _ => some ('\n', 1)
  | 'r' :: _ => some ('\r', 1)
  | 't' :: _ => some ('\t', 1)
  | '"' :: _ => some ('"', 1)
  | '\\' :: _ => some ('\\', 1)
  | 'u' :: rest => (numbered? 4 rest).map fun c => (c, 5)
  | 'U' :: rest => (numbered? 8 rest).map fun c => (c, 9)
  | _ => none

/-- Puts a character in front of what a reader found. -/
def prepend (c : Char) : Option (List Char × List Char) → Option (List Char × List Char)
  | some (found, rest) => some (c :: found, rest)
  | none => none

/-- Reads up to the closing quote of a string with escapes.  `skip` characters have
been read already. -/
def basicRest : Nat → Reader (List Char)
  | _, [] => none
  | skip + 1, _ :: rest => basicRest skip rest
  | 0, c :: rest =>
      if c = '"' then some ([], rest)
      else if c = '\\' then
        match escape? rest with
        | some (c, length) => prepend c (basicRest length rest)
        | none => none
      else if isPlain c then prepend c (basicRest 0 rest)
      else none

/-- Reads up to the closing quote of a string without escapes. -/
def literalRest : Reader (List Char)
  | [] => none
  | c :: rest =>
      if c = '\'' then some ([], rest)
      else if isPlain c then prepend c (literalRest rest)
      else none

/-- What is done with the characters ahead in a string of several lines. -/
inductive Ahead where
  | read
  /-- so many characters have been read already -/
  | skip (count : Nat)
  /-- blanks and line breaks do not count -/
  | trim
  deriving DecidableEq, Repr, Inhabited

/-- A backslash before the end of a line: only blanks follow it there. -/
def continues (text : List Char) : Bool := (newline? (skipSpaces text)).isSome

/-- Reads up to the three closing quotes of a string of several lines with escapes.  Up
to two more quotes before those three belong to the string.  A line break is read as a
line feed, and a backslash at the end of a line takes the blanks and breaks behind it
away. -/
def basicBlockRest : Ahead → Reader (List Char)
  | _, [] => none
  | .skip (count + 1), _ :: rest => basicBlockRest (.skip count) rest
  | _, '"' :: '"' :: '"' :: '"' :: '"' :: rest => some (['"', '"'], rest)
  | _, '"' :: '"' :: '"' :: '"' :: rest => some (['"'], rest)
  | _, '"' :: '"' :: '"' :: rest => some ([], rest)
  | ahead, '\r' :: '\n' :: rest =>
      if ahead = .trim then basicBlockRest .trim rest
      else prepend '\n' (basicBlockRest .read rest)
  | ahead, c :: rest =>
      if ahead = .trim && (isSpace c || c = '\n') then basicBlockRest .trim rest
      else if c = '\\' then
        if continues rest then basicBlockRest .trim rest
        else
          match escape? rest with
          | some (c, length) => prepend c (basicBlockRest (.skip length) rest)
          | none => none
      else if isPlain c || c = '\n' then prepend c (basicBlockRest .read rest)
      else none

/-- Reads up to the three closing quotes of a string of several lines without
escapes. -/
def literalBlockRest : Reader (List Char)
  | [] => none
  | '\'' :: '\'' :: '\'' :: '\'' :: '\'' :: rest => some (['\'', '\''], rest)
  | '\'' :: '\'' :: '\'' :: '\'' :: rest => some (['\''], rest)
  | '\'' :: '\'' :: '\'' :: rest => some ([], rest)
  | '\r' :: '\n' :: rest => prepend '\n' (literalBlockRest rest)
  | c :: rest =>
      if isPlain c || c = '\n' then prepend c (literalBlockRest rest) else none

/-- The text behind a line break, which does not count right behind opening quotes. -/
def skipNewline (text : List Char) : List Char := (newline? text).getD text

/-- Reads a string of one of the four kinds. -/
def string : Reader (List Char)
  | '"' :: '"' :: '"' :: rest => basicBlockRest .read (skipNewline rest)
  | '"' :: rest => basicRest 0 rest
  | '\'' :: '\'' :: '\'' :: rest => literalBlockRest (skipNewline rest)
  | '\'' :: rest => literalRest rest
  | _ => none

/-! ## Keys -/

/-- A character of a name that needs no quotes. -/
def isBare (c : Char) : Bool := c.isAlphanum || c = '-' || c = '_'

/-- Reads a name, in quotes of one line or without. -/
def name : Reader String
  | '"' :: rest => (basicRest 0 rest).map fun (found, rest) => (String.ofList found, rest)
  | '\'' :: rest => (literalRest rest).map fun (found, rest) => (String.ofList found, rest)
  | text =>
      let found := text.takeWhile isBare
      if found = [] then none else some (String.ofList found, text.dropWhile isBare)

/-- Reads a name with blanks around it. -/
def spacedName : Reader String := fun text =>
  (name (skipSpaces text)).map fun (found, rest) => (found, skipSpaces rest)

/-- How many names a key has at most. -/
def keyLimit : Nat := 79

/-- Reads a key: names with points between them. -/
def key : Reader Key := fun text =>
  match separatedBy '.' spacedName (text.length + 1) text with
  | none => none
  | some (names, rest) =>
      match names.getLast? with
      | none => none
      | some last =>
          if keyLimit < names.length then none else some (⟨names.dropLast, last⟩, rest)

/-! ## Numbers -/

/-- The digits behind the first one.  A single underscore may stand between two
digits. -/
def moreDigits (isDigit : Char → Bool) : Reader (List Char)
  | [] => some ([], [])
  | ['_'] => none
  | '_' :: c :: rest => if isDigit c then prepend c (moreDigits isDigit rest) else none
  | c :: rest => if isDigit c then prepend c (moreDigits isDigit rest) else some ([], c :: rest)

/-- Reads digits; there is at least one. -/
def digits (isDigit : Char → Bool) : Reader (List Char)
  | [] => none
  | c :: rest => if isDigit c then prepend c (moreDigits isDigit rest) else none

/-- Reads the digits of a whole number, which do not begin with a needless zero. -/
def wholeDigits : Reader (List Char)
  | '0' :: rest => some (['0'], rest)
  | text => digits Char.isDigit text

/-- The number that digits write in a base. -/
def valueIn (base : Nat) (digits : List Char) : Nat :=
  digits.foldl (fun value c => value * base + (Text.hexDigit? c).getD 0) 0

/-- An integer, unless it takes more than sixty-four bits. -/
def bounded (n : Int) : Option Value :=
  if IsSigned n then some (.integer n) else none

/-- A digit of a base up to sixteen. -/
def isDigitOf (base : Nat) (c : Char) : Bool :=
  match Text.hexDigit? c with
  | some digit => decide (digit < base)
  | none => false

/-- Reads the digits of an integer in another base than ten. -/
def integerIn (base : Nat) : Reader Value := fun text =>
  match digits (isDigitOf base) text with
  | none => none
  | some (found, rest) => (bounded (valueIn base found)).map fun v => (v, rest)

/-- A decimal, unless it is larger than every finite one. -/
def finite (text : List Char) : Option Value :=
  match Decimal.binary64Of? text with
  | none => none
  | some x => if x = 1.0 / 0.0 then none else some (.decimal x)

/-- Reads an optional sign. -/
def sign : List Char → List Char × List Char
  | '+' :: rest => ([], rest)
  | '-' :: rest => (['-'], rest)
  | text => ([], text)

/-- Reads the exponent of a decimal behind its letter. -/
def exponent : Reader (List Char) := fun text =>
  let (mark, text) := sign text
  match digits Char.isDigit text with
  | none => none
  | some (found, rest) => some ('e' :: (mark ++ found), rest)

/-- Reads the point of a decimal and the digits behind it. -/
def fraction : Reader (List Char) := fun text =>
  match digits Char.isDigit text with
  | none => none
  | some (found, rest) => some ('.' :: found, rest)

/-- Reads a number in base ten, with a sign that has been read already. -/
def decimalNumber (mark : List Char) : Reader Value := fun text =>
  match wholeDigits text with
  | none => none
  | some (whole, '.' :: rest) =>
      match fraction rest with
      | none => none
      | some (places, c :: rest) =>
          if c = 'e' ∨ c = 'E' then
            match exponent rest with
            | none => none
            | some (power, rest) =>
                (finite (mark ++ whole ++ places ++ power)).map fun v => (v, rest)
          else (finite (mark ++ whole ++ places)).map fun v => (v, c :: rest)
      | some (places, []) => (finite (mark ++ whole ++ places)).map fun v => (v, [])
  | some (whole, c :: rest) =>
      if c = 'e' ∨ c = 'E' then
        match exponent rest with
        | none => none
        | some (power, rest) => (finite (mark ++ whole ++ power)).map fun v => (v, rest)
      else
        let n := (Decimal.valueOf whole : Int)
        (bounded (if mark = [] then n else -n)).map fun v => (v, c :: rest)
  | some (whole, []) =>
      let n := (Decimal.valueOf whole : Int)
      (bounded (if mark = [] then n else -n)).map fun v => (v, [])

/-- Reads a number. -/
def number : Reader Value
  | '0' :: 'x' :: rest => integerIn 16 rest
  | '0' :: 'o' :: rest => integerIn 8 rest
  | '0' :: 'b' :: rest => integerIn 2 rest
  | text =>
      let (mark, unsigned) := sign text
      match unsigned with
      | 'i' :: 'n' :: 'f' :: rest =>
          some (.decimal (if mark = [] then 1.0 / 0.0 else -(1.0 / 0.0)), rest)
      | 'n' :: 'a' :: 'n' :: rest => some (.decimal (0.0 / 0.0), rest)
      | _ => decimalNumber mark unsigned

/-! ## Moments -/

/-- Reads a number of exactly `count` digits, within bounds. -/
def clockNumber (count least greatest : Nat) : Reader Nat := fun text =>
  let found := text.take count
  if found.length = count ∧ found.all Char.isDigit then
    let n := Decimal.valueOf found
    if least ≤ n ∧ n ≤ greatest then some (n, text.drop count) else none
  else none

/-- The text behind a character. -/
def after? (c : Char) : List Char → Option (List Char)
  | [] => none
  | d :: rest => if d = c then some rest else none

/-- How many days a month has. -/
def daysIn (year month : Nat) : Nat :=
  if month = 2 then
    if year % 4 = 0 ∧ (year % 100 ≠ 0 ∨ year % 400 = 0) then 29 else 28
  else if month = 4 ∨ month = 6 ∨ month = 9 ∨ month = 11 then 30
  else 31

/-- The text behind a date. -/
def date? (text : List Char) : Option (List Char) := do
  let (year, rest) ← clockNumber 4 0 9999 text
  let rest ← after? '-' rest
  let (month, rest) ← clockNumber 2 1 12 rest
  let rest ← after? '-' rest
  let (_, rest) ← clockNumber 2 1 (daysIn year month) rest
  return rest

/-- The text behind the parts of a second.  A point has to be followed by a digit. -/
def secondParts (text : List Char) : List Char :=
  match text with
  | '.' :: c :: rest => if c.isDigit then rest.dropWhile Char.isDigit else text
  | _ => text

/-- The text behind a time of day. -/
def time? (text : List Char) : Option (List Char) := do
  let (_, rest) ← clockNumber 2 0 23 text
  let rest ← after? ':' rest
  let (_, rest) ← clockNumber 2 0 59 rest
  let rest ← after? ':' rest
  let (_, rest) ← clockNumber 2 0 60 rest
  return secondParts rest

/-- The text behind an offset from universal time. -/
def offset? : List Char → Option (List Char)
  | [] => none
  | c :: rest =>
      if c = 'Z' ∨ c = 'z' then some rest
      else if c = '+' ∨ c = '-' then do
        let (_, rest) ← clockNumber 2 0 23 rest
        let rest ← after? ':' rest
        let (_, rest) ← clockNumber 2 0 59 rest
        return rest
      else none

/-- The text behind the time of day that may follow a date. -/
def timeOfDate (text : List Char) : List Char :=
  match text with
  | [] => []
  | c :: rest =>
      if c = 'T' ∨ c = 't' ∨ c = ' ' then
        match time? rest with
        | none => text
        | some rest => (offset? rest).getD rest
      else text

/-- The text behind a date, a time of day or both. -/
def moment? (text : List Char) : Option (List Char) :=
  match date? text with
  | some rest => some (timeOfDate rest)
  | none => time? text

/-! ## Values without inner structure -/

/-- Reads a value that is neither an array nor a table. -/
def scalar : Reader Value := fun text =>
  match text with
  | 't' :: 'r' :: 'u' :: 'e' :: rest => some (.boolean true, rest)
  | 'f' :: 'a' :: 'l' :: 's' :: 'e' :: rest => some (.boolean false, rest)
  | '"' :: _ => (string text).map fun (found, rest) => (.string (String.ofList found), rest)
  | '\'' :: _ => (string text).map fun (found, rest) => (.string (String.ofList found), rest)
  | _ =>
      match moment? text with
      | some rest => some (.moment, rest)
      | none => number text

end ResponsiveGrid.Toml
