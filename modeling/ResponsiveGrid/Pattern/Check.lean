import ResponsiveGrid.Pattern.Reading
set_option autoImplicit false

/-!
# Pattern: which patterns can be used

A pattern is made into an automaton over the bytes of a text.  No tables of character
properties are at hand, and an automaton may not split a character.  So each atom has to
be understood in the mode it stands in: with characters, nothing that asks which
characters are digits or how a letter changes its case; with bytes, nothing that takes a
byte out of a longer character.  Edges of words are understood and still refused, unless
words are made of bytes.
-/

namespace ResponsiveGrid.Pattern

/-- Why a pattern cannot be used. -/
inductive Fault where
  /-- it is no pattern, or one of its atoms is not understood -/
  | notUnderstood
  /-- it asks for the edges of words of all scripts -/
  | wordEdge
  deriving DecidableEq, Repr, Inhabited

/-- The sentence for a fault. -/
def Fault.message : Fault → String
  | .notUnderstood => "error building NFA"
  | .wordEdge =>
      "unsupported regex feature for DFAs: cannot build DFAs for regexes with Unicode " ++
        "word boundaries; switch to ASCII word boundaries, or heuristically enable " ++
        "Unicode word boundaries or use a different regex engine"

/-- Whether a character has one byte. -/
def isAscii (c : Char) : Bool := decide (c.toNat < 128)

mutual

/-- Whether a set is understood.  With characters and without regard to case it may name
none; with bytes it may name those of one byte only, and no complement. -/
def CharSet.understoodIn (m : Mode) : CharSet → Bool
  | .empty => true
  | .range first last =>
      if m.unicode then !m.ignoreCase else isAscii first && isAscii last
  | .named negated => if m.unicode then !m.ignoreCase else !negated
  | .short negated => !m.unicode && !negated
  | .bracketed negated inner => (m.unicode || !negated) && inner.understoodIn m
  | .union items => CharSet.allUnderstoodIn m items
  | .combined left right => left.understoodIn m && right.understoodIn m

/-- Whether each of several sets is understood. -/
def CharSet.allUnderstoodIn (m : Mode) : List CharSet → Bool
  | [] => true
  | s :: rest => s.understoodIn m && CharSet.allUnderstoodIn m rest

end

/-- Whether an atom is understood. -/
def Atom.understoodIn (m : Mode) : Atom → Bool
  | .character c isByte => if m.unicode then !m.ignoreCase else !isByte || isAscii c
  | .anyCharacter => m.unicode
  | .edge => true
  | .wordEdge => true
  | .set s => s.understoodIn m

/-- Whether an atom is an edge of a word of any script. -/
def Atom.isWordEdgeIn (m : Mode) : Atom → Bool
  | .wordEdge => m.unicode
  | _ => false

/-- Checks a pattern.  An edge of a word is reported only if all atoms are understood. -/
def check (text : List Char) : Except Fault Unit :=
  match read text with
  | none => .error .notUnderstood
  | some p =>
      if p.atoms.all fun entry => entry.2.understoodIn entry.1 then
        if p.atoms.any fun entry => entry.2.isWordEdgeIn entry.1 then .error .wordEdge
        else .ok ()
      else .error .notUnderstood

end ResponsiveGrid.Pattern
