set_option autoImplicit false

/-!
# Text: parts between separators and between offsets

A text with `n` separators in it has `n + 1` parts, some of which may be empty.  Offsets
count bytes; a character that an offset cuts through belongs to what stands before it.
-/

namespace ResponsiveGrid.Text

/-- The parts of a text between separators. -/
def parts (separator : Char) : List Char → List (List Char)
  | [] => [[]]
  | c :: rest =>
      if c = separator then [] :: parts separator rest
      else
        match parts separator rest with
        | [] => [[c]]
        | part :: more => (c :: part) :: more

/-- A text without its first `n` bytes. -/
def dropBytes : Nat → List Char → List Char
  | _, [] => []
  | n, c :: rest => if n = 0 then c :: rest else dropBytes (n - c.utf8Size) rest

/-- The first `n` bytes of a text. -/
def takeBytes : Nat → List Char → List Char
  | _, [] => []
  | n, c :: rest => if n = 0 then [] else c :: takeBytes (n - c.utf8Size) rest

/-- What stands between two offsets. -/
def between (first behind : Nat) (text : List Char) : List Char :=
  takeBytes (behind - first) (dropBytes first text)

end ResponsiveGrid.Text
