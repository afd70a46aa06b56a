set_option autoImplicit false

/-!
# Pattern: regular expressions

A pattern is a tree of branches, sequences, repetitions and groups over atoms.  Nothing
is matched here; what counts is how deeply a pattern is nested, which names its groups
have, and which switches are on where an atom stands.
-/

namespace ResponsiveGrid

namespace Pattern

/-! ## Switches -/

/-- What can be switched on and off in the middle of a pattern. -/
inductive Switch where
  | ignoreCase
  | multiLine
  | dotMatchesBreak
  | swapGreed
  | unicode
  | carriageReturn
  /-- blanks and comments in the pattern do not count -/
  | spaced
  deriving DecidableEq, Repr, Inhabited

/-- Switches that are turned at one place, each to on or off. -/
abbrev Switches : Type := List (Switch × Bool)

/-- What a switch is turned to. -/
def Switches.get? (turned : Switches) (s : Switch) : Option Bool :=
  (turned.find? fun entry => entry.1 = s).map Prod.snd

/-! ## Atoms -/

/-- A set of characters. -/
inductive CharSet where
  /-- nothing stands where a set could stand -/
  | empty
  /-- the characters from one to another -/
  | range (first last : Char)
  /-- a class with a name such as `[:alpha:]`, or the characters outside it -/
  | named (negated : Bool)
  /-- digits, blanks or word characters, or the characters outside -/
  | short (negated : Bool)
  /-- a set between brackets of its own, or the characters outside it -/
  | bracketed (negated : Bool) (inner : CharSet)
  /-- sets side by side; there are at least two -/
  | union (items : List CharSet)
  /-- what two sets have in common, or what only one of them has -/
  | combined (left right : CharSet)
  deriving Inhabited

/-- The union of any number of sets. -/
def CharSet.ofItems : List CharSet → CharSet
  | [] => .empty
  | [item] => item
  | items => .union items

/-- What matches at one place without an inner pattern. -/
inductive Atom where
  /-- a character; `isByte` if two hexadecimal digits write it -/
  | character (c : Char) (isByte : Bool)
  | anyCharacter
  /-- the start or the end of a line or of the text -/
  | edge
  /-- a place beside a word, or inside one -/
  | wordEdge
  | set (s : CharSet)
  deriving Inhabited

end Pattern

open Pattern in
/-- A regular expression. -/
inductive Pattern where
  | empty
  | atom (a : Atom)
  /-- turns switches for the rest of the group -/
  | switches (turned : Switches)
  | repeated (inner : Pattern)
  /-- a group, with a name or without, and with switches turned inside it -/
  | group (name : Option String) (turned : Switches) (inner : Pattern)
  /-- one after the other; there are at least two -/
  | sequence (items : List Pattern)
  /-- one or the other; there are at least two -/
  | choice (branches : List Pattern)
  deriving Inhabited

namespace Pattern

/-- Patterns one after the other, in any number. -/
def ofItems : List Pattern → Pattern
  | [] => .empty
  | [item] => item
  | items => .sequence items

/-- Patterns as alternatives. -/
def ofBranches : List Pattern → Pattern
  | [] => .empty
  | [branch] => branch
  | branches => .choice branches

/-! ## Nesting -/

mutual

/-- How deeply a set is nested. -/
def CharSet.depth : CharSet → Nat
  | .bracketed _ inner => inner.depth + 1
  | .union items => CharSet.depthOfAll items + 1
  | .combined left right => max left.depth right.depth + 1
  | _ => 0

/-- How deeply the deepest of several sets is nested. -/
def CharSet.depthOfAll : List CharSet → Nat
  | [] => 0
  | s :: rest => max s.depth (CharSet.depthOfAll rest)

end

/-- How deeply an atom is nested. -/
def Atom.depth : Atom → Nat
  | .set s => s.depth
  | _ => 0

mutual

/-- How deeply a pattern is nested. -/
def depth : Pattern → Nat
  | .empty => 0
  | .atom a => a.depth
  | .switches _ => 0
  | .repeated inner => inner.depth + 1
  | .group _ _ inner => inner.depth + 1
  | .sequence items => depthOfAll items + 1
  | .choice branches => depthOfAll branches + 1

/-- How deeply the deepest of several patterns is nested. -/
def depthOfAll : List Pattern → Nat
  | [] => 0
  | p :: rest => max p.depth (depthOfAll rest)

end

/-! ## Names of groups -/

mutual

/-- The names of the groups of a pattern. -/
def names : Pattern → List String
  | .repeated inner => inner.names
  | .group name _ inner => name.toList ++ inner.names
  | .sequence items => namesOfAll items
  | .choice branches => namesOfAll branches
  | _ => []

/-- The names of the groups of several patterns. -/
def namesOfAll : List Pattern → List String
  | [] => []
  | p :: rest => p.names ++ namesOfAll rest

end

/-! ## Atoms where they stand -/

/-- The switches that decide whether an atom is understood. -/
structure Mode where
  ignoreCase : Bool := false
  /-- characters are meant, not bytes -/
  unicode : Bool := true
  deriving DecidableEq, Repr, Inhabited

/-- A mode with switches turned. -/
def Mode.turn (m : Mode) (turned : Switches) : Mode :=
  { ignoreCase := (turned.get? .ignoreCase).getD m.ignoreCase
    unicode := (turned.get? .unicode).getD m.unicode }

mutual

/-- The atoms of a pattern, each with the mode that it stands in, and the mode behind the
pattern.  What is turned inside a group is turned back behind it. -/
def atomsIn (m : Mode) : Pattern → List (Mode × Atom) × Mode
  | .empty => ([], m)
  | .atom a => ([(m, a)], m)
  | .switches turned => ([], m.turn turned)
  | .repeated inner => atomsIn m inner
  | .group _ turned inner => ((atomsIn (m.turn turned) inner).1, m)
  | .sequence items => atomsInAll m items
  | .choice branches => atomsInAll m branches

/-- The atoms of several patterns from left to right. -/
def atomsInAll (m : Mode) : List Pattern → List (Mode × Atom) × Mode
  | [] => ([], m)
  | p :: rest =>
      let (atoms, between) := atomsIn m p
      let (more, behind) := atomsInAll between rest
      (atoms ++ more, behind)

end

/-- The atoms of a whole pattern, each with the mode that it stands in. -/
def atoms (p : Pattern) : List (Mode × Atom) := (atomsIn {} p).1

end Pattern

end ResponsiveGrid
