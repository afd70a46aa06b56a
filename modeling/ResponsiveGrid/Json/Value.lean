import ResponsiveGrid.Decimal.Layout
set_option autoImplicit false

/-!
# Json: values and their two texts

A value to be written, and the two texts that are written for it: `compact` on one
line without blanks, and `pretty` with two spaces per level, one member a line, and
empty containers closed at once.
-/

namespace ResponsiveGrid

/-- A value to be written.  Fields keep their order. -/
inductive Json where
  | null
  | boolean (value : Bool)
  | integer (value : Int)
  | decimal (value : Float)
  | string (value : String)
  | array (items : List Json)
  | object (fields : List (String × Json))
  deriving Inhabited

namespace Json

/-! ## Scalars -/

/-- The lower-case hexadecimal digit of a number below sixteen. -/
def hexDigit (n : Nat) : Char := (Nat.digitChar n)

/-- A character inside a quoted text.  Quotes, backslashes and control characters
are escaped, the latter by a letter where there is one. -/
def escaped (c : Char) : List Char :=
  if c = '"' then ['\\', '"']
  else if c = '\\' then ['\\', '\\']
  else if c = '\n' then ['\\', 'n']
  else if c = '\r' then ['\\', 'r']
  else if c = '\t' then ['\\', 't']
  else if c = '\x08' then ['\\', 'b']
  else if c = '\x0c' then ['\\', 'f']
  else if c.toNat < 0x20 then
    ['\\', 'u', '0', '0', hexDigit (c.toNat / 16), hexDigit (c.toNat % 16)]
  else [c]

/-- A text between quotes. -/
def quoted (s : String) : List Char :=
  '"' :: (s.toList.flatMap escaped ++ ['"'])

/-- Decimal digits with a minus sign before a negative number. -/
def integerText (n : Int) : List Char :=
  Decimal.signed (decide (n < 0)) (Nat.toDigits 10 n.natAbs)

/-- The text of `true` and `false`. -/
def booleanText (b : Bool) : List Char := if b then "true".toList else "false".toList

/-! ## One line -/

mutual

/-- The text of a value on one line. -/
def compact : Json → List Char
  | .null => "null".toList
  | .boolean b => booleanText b
  | .integer n => integerText n
  | .decimal x => Decimal.wire x
  | .string s => quoted s
  | .array items => '[' :: compactItems items
  | .object fields => '{' :: compactFields fields

/-- The items of an array and its closing bracket. -/
def compactItems : List Json → List Char
  | [] => [']']
  | [v] => compact v ++ [']']
  | v :: w :: rest => compact v ++ ',' :: compactItems (w :: rest)

/-- The fields of an object and its closing brace. -/
def compactFields : List (String × Json) → List Char
  | [] => ['}']
  | [(name, v)] => quoted name ++ ':' :: (compact v ++ ['}'])
  | (name, v) :: w :: rest =>
      quoted name ++ ':' :: (compact v ++ ',' :: compactFields (w :: rest))

end

/-! ## One member a line -/

/-- A new line indented to a level. -/
def newline (depth : Nat) : List Char := '\n' :: List.replicate (2 * depth) ' '

mutual

/-- The text of a value that stands at a level, one member a line. -/
def prettyAt (depth : Nat) : Json → List Char
  | .null => "null".toList
  | .boolean b => booleanText b
  | .integer n => integerText n
  | .decimal x => Decimal.wire x
  | .string s => quoted s
  | .array [] => ['[', ']']
  | .array (v :: rest) =>
      '[' :: (newline (depth + 1) ++ prettyAt (depth + 1) v ++ prettyItems depth rest)
  | .object [] => ['{', '}']
  | .object ((name, v) :: rest) =>
      '{' :: (newline (depth + 1) ++ quoted name ++ ':' :: ' ' :: prettyAt (depth + 1) v
        ++ prettyFields depth rest)

/-- The items after the first, and the closing bracket. -/
def prettyItems (depth : Nat) : List Json → List Char
  | [] => newline depth ++ [']']
  | v :: rest =>
      ',' :: (newline (depth + 1) ++ prettyAt (depth + 1) v ++ prettyItems depth rest)

/-- The fields after the first, and the closing brace. -/
def prettyFields (depth : Nat) : List (String × Json) → List Char
  | [] => newline depth ++ ['}']
  | (name, v) :: rest =>
      ',' :: (newline (depth + 1) ++ quoted name ++ ':' :: ' ' :: prettyAt (depth + 1) v
        ++ prettyFields depth rest)

end

/-- The text of a value, one member a line. -/
def pretty (v : Json) : List Char := prettyAt 0 v

/-- The number of a natural number. -/
def natural (n : Nat) : Json := .integer n

end Json

end ResponsiveGrid
