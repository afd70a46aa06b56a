import ResponsiveGrid.Pattern.Basic
import ResponsiveGrid.Text.Blank
import ResponsiveGrid.Text.Reading
import ResponsiveGrid.Text.Word
set_option autoImplicit false

/-!
# Pattern: reading a regular expression

A reader returns what it has read and the text behind it, or nothing where the text is
no pattern.  `Pattern.read` reads a whole text.

Two forms are refused although other readers know them.  A repetition with a count ends
in a closing brace, and properties of characters need tables: neither can be asked for
where these patterns are written.  So an opening brace outside a set is an error, and so
is a letter that begins a property.
-/

namespace ResponsiveGrid.Pattern

open Text (Reader)

/-! ## Blanks -/

/-- The text behind blanks and comments.  A comment goes from its mark to the end of the
line. -/
def skipGaps (inComment : Bool) : List Char → List Char
  | [] => []
  | c :: rest =>
      if inComment then skipGaps (c ≠ '\n') rest
      else if c = '#' then skipGaps true rest
      else if Text.isBlank c then skipGaps false rest
      else c :: rest

/-- The text behind what does not count. -/
def skip (spaced : Bool) (text : List Char) : List Char :=
  if spaced then skipGaps false text else text

/-! ## Switches and the heads of groups -/

/-- The switch of a letter. -/
def Switch.ofLetter? (c : Char) : Option Switch :=
  if c = 'i' then some .ignoreCase
  else if c = 'm' then some .multiLine
  else if c = 's' then some .dotMatchesBreak
  else if c = 'U' then some .swapGreed
  else if c = 'u' then some .unicode
  else if c = 'R' then some .carriageReturn
  else if c = 'x' then some .spaced
  else none

/-- Whether a character ends the switches of a group. -/
def endsSwitches (c : Char) : Bool := c = ':' || c = ')'

/-- Reads switches up to what ends them.  A minus sign turns those behind it off; it is
written once and not last, and no switch is turned twice. -/
def switchesFrom (negated : Bool) (turned : Switches) : Reader Switches
  | [] => none
  | c :: rest =>
      if endsSwitches c then some (turned, c :: rest)
      else if c = '-' then
        if negated ∨ (rest.head?.map endsSwitches).getD true then none
        else switchesFrom true turned rest
      else
        match Switch.ofLetter? c with
        | none => none
        | some s =>
            if (turned.get? s).isSome then none
            else switchesFrom negated (turned ++ [(s, !negated)]) rest

/-- Whether a text is the name of a group. -/
def isGroupName : List Char → Bool
  | [] => false
  | c :: rest =>
      (c = '_' || Text.isLetter c) &&
        rest.all fun c => c = '_' || c = '.' || c = '[' || c = ']' || Text.isWordChar c

/-- Reads the name of a group and the bracket behind it. -/
def groupName : Reader String := fun text =>
  let name := text.takeWhile (· ≠ '>')
  match text.dropWhile (· ≠ '>') with
  | '>' :: rest => if isGroupName name then some (String.ofList name, rest) else none
  | _ => none

/-- What an opening parenthesis begins. -/
inductive Opening where
  /-- nothing but switches, and the closing parenthesis has been read -/
  | switches (turned : Switches)
  | group (name : Option String) (turned : Switches)
  deriving Inhabited

/-- Reads the head of a group without a name behind its question mark. -/
def switchOpening : Reader Opening := fun text =>
  match switchesFrom false [] text with
  | some ([], ')' :: _) => none
  | some (turned, ')' :: rest) => some (.switches turned, rest)
  | some (turned, ':' :: rest) => some (.group none turned, rest)
  | _ => none

/-- Reads the head of a group behind its opening parenthesis. -/
def opening (spaced : Bool) : Reader Opening := fun text =>
  match skip spaced text with
  | '?' :: 'P' :: '<' :: rest =>
      (groupName rest).map fun (name, rest) => (.group (some name) [], rest)
  | '?' :: '<' :: rest =>
      (groupName rest).map fun (name, rest) => (.group (some name) [], rest)
  | '?' :: rest => switchOpening rest
  | text => some (.group none [], text)

/-! ## Escapes -/

/-- Reads `count` hexadecimal digits behind a value that has been read. -/
def hexDigits (spaced : Bool) (value : Nat) : Nat → Reader Nat
  | 0, text => some (value, text)
  | count + 1, text =>
      match skip spaced text with
      | [] => none
      | c :: rest =>
          match Text.hexDigit? c with
          | none => none
          | some digit => hexDigits spaced (value * 16 + digit) count rest

/-- Reads a character that hexadecimal digits write. -/
def hexCharacter (spaced isByte : Bool) (count : Nat) : Reader Atom := fun text =>
  match hexDigits spaced 0 count text with
  | none => none
  | some (n, rest) =>
      if n.isValidChar then some (.character (Char.ofNat n) isByte, rest) else none

/-- The control character of a letter. -/
def controlOf? (c : Char) : Option Char :=
  if c = 'a' then some '\x07'
  else if c = 'f' then some '\x0c'
  else if c = 't' then some '\t'
  else if c = 'n' then some '\n'
  else if c = 'r' then some '\r'
  else if c = 'v' then some '\x0b'
  else none

/-- Whether a character stands for itself behind a backslash: letters and digits do not,
nor the two brackets that are edges of words. -/
def standsForItself (c : Char) : Bool :=
  decide (c.toNat < 128) && !c.isAlphanum && c ≠ '<' && c ≠ '>'

/-- Reads an escape behind its backslash.  A reference to a group is none. -/
def escape (spaced : Bool) : Reader Atom
  | [] => none
  | c :: rest =>
      if standsForItself c then some (.character c false, rest)
      else if c = 'x' then hexCharacter spaced true 2 rest
      else if c = 'u' then hexCharacter spaced false 4 rest
      else if c = 'U' then hexCharacter spaced false 8 rest
      else if c = 'd' ∨ c = 's' ∨ c = 'w' then some (.set (.short false), rest)
      else if c = 'D' ∨ c = 'S' ∨ c = 'W' then some (.set (.short true), rest)
      else if c = 'A' ∨ c = 'z' then some (.edge, rest)
      else if c = 'B' ∨ c = '<' ∨ c = '>' then some (.wordEdge, rest)
      else if c = 'b' then
        if rest.head? = some '\x7b' then none else some (.wordEdge, rest)
      else (controlOf? c).map fun control => (.character control false, rest)

/-! ## Sets -/

/-- The names of classes. -/
def classNames : List String := [
  "alnum", "alpha", "ascii", "blank", "cntrl", "digit", "graph", "lower", "print", "punct",
  "space", "upper", "word", "xdigit"]

/-- Reads a class with a name behind its opening bracket. -/
def namedClass : Reader CharSet
  | ':' :: text =>
      let negated := text.head? = some '^'
      let text := if negated then text.tail else text
      match text.dropWhile (· ≠ ':') with
      | ':' :: ']' :: rest =>
          if classNames.contains (String.ofList (text.takeWhile (· ≠ ':'))) then
            some (.named negated, rest)
          else none
      | _ => none
  | _ => none

/-- Reads one item of a set. -/
def setElement (spaced : Bool) : Reader Atom
  | [] => none
  | c :: rest => if c = '\\' then escape spaced rest else some (.character c false, rest)

/-- The set of an item, if the item can stand in a set. -/
def Atom.toSet? : Atom → Option CharSet
  | .character c _ => some (.range c c)
  | .set s => some s
  | _ => none

/-- The range between two items, which have to be characters in order. -/
def rangeOf? : Atom → Atom → Option CharSet
  | .character first _, .character last _ =>
      if first ≤ last then some (.range first last) else none
  | _, _ => none

/-- The character behind a dash that decides what the dash means.  The mark of a comment
is stepped over on the way, but not what the comment says. -/
def deciding (spaced : Bool) (text : List Char) : Option Char :=
  if spaced then
    match text.dropWhile Text.isBlank with
    | '#' :: rest => (rest.dropWhile Text.isBlank).head?
    | rest => rest.head?
  else text.head?

/-- Reads an item of a set, or a range.  A dash before a closing bracket or another dash
is no range. -/
def setItem (spaced : Bool) : Reader CharSet := fun text =>
  match setElement spaced text with
  | none => none
  | some (first, rest) =>
      match skip spaced rest with
      | '-' :: behind =>
          if deciding spaced behind = some ']' ∨ deciding spaced behind = some '-' then
            first.toSet?.map fun s => (s, '-' :: behind)
          else
            match setElement spaced (skip spaced behind) with
            | none => none
            | some (last, rest) => (rangeOf? first last).map fun s => (s, rest)
      | rest => first.toSet?.map fun s => (s, rest)

/-- Reads the dashes at the start of a set, which stand for themselves. -/
def leadingDashes (spaced : Bool) : Nat → List CharSet → Reader (List CharSet)
  | 0, _, _ => none
  | fuel + 1, items, text =>
      match skip spaced text with
      | '-' :: rest => leadingDashes spaced fuel (items ++ [.range '-' '-']) rest
      | rest => some (items, rest)

/-- Reads what stands at the start of a set behind its opening bracket: whether the set
is negated, and the first items.  A closing bracket is an item if it is the first. -/
def setOpening (spaced : Bool) : Reader (Bool × List CharSet) := fun text =>
  let text := skip spaced text
  let negated := text.head? = some '^'
  let text := if negated then text.tail else text
  match leadingDashes spaced (text.length + 1) [] text with
  | none => none
  | some ([], ']' :: rest) => some ((negated, [.range ']' ']']), rest)
  | some (items, rest) => some ((negated, items), rest)

/-- The operators between sets, each written twice. -/
def isOperator (c : Char) : Bool := c = '&' || c = '-' || c = '~'

/-- A set with one more behind an operator. -/
def combine (left : Option CharSet) (items : List CharSet) : CharSet :=
  match left with
  | none => .ofItems items
  | some s => .combined s (.ofItems items)

/-- Reads the rest of a set up to its closing bracket.  `left` is what stands before the
last operator, and `items` what has been read behind it.  Every step takes a character,
so a text needs no more `fuel` than it has characters. -/
def setRest (spaced : Bool) :
    Nat → Option CharSet → List CharSet → Reader CharSet
  | 0, _, _, _ => none
  | fuel + 1, left, items, text =>
      match skip spaced text with
      | [] => none
      | c :: rest =>
          if c = ']' then some (combine left items, rest)
          else if c = '[' then
            match namedClass rest with
            | some (s, rest) => setRest spaced fuel left (items ++ [s]) rest
            | none =>
                match setOpening spaced rest with
                | none => none
                | some ((negated, first), rest) =>
                    match setRest spaced fuel none first rest with
                    | none => none
                    | some (inner, rest) =>
                        setRest spaced fuel left (items ++ [.bracketed negated inner]) rest
          else if isOperator c ∧ rest.head? = some c then
            setRest spaced fuel (some (combine left items)) [] rest.tail
          else
            match setItem spaced (c :: rest) with
            | none => none
            | some (s, rest) => setRest spaced fuel left (items ++ [s]) rest

/-- Reads a set behind its opening bracket. -/
def bracketedSet (spaced : Bool) : Reader CharSet := fun text =>
  match setOpening spaced text with
  | none => none
  | some ((negated, first), rest) =>
      (setRest spaced (rest.length + 1) none first rest).map fun (inner, rest) =>
        (.bracketed negated inner, rest)

/-! ## Patterns -/

/-- The atom of a character that is no bracket, no operator and no backslash. -/
def atomOf (c : Char) : Atom :=
  if c = '.' then .anyCharacter
  else if c = '^' ∨ c = '$' then .edge
  else .character c false

/-- Reads an atom. -/
def atomFrom (spaced : Bool) : Reader Atom
  | [] => none
  | c :: rest =>
      if c = '\\' then escape spaced rest
      else if c = '[' then (bracketedSet spaced rest).map fun (s, rest) => (.set s, rest)
      else some (atomOf c, rest)

/-- Whether a character repeats what stands before it. -/
def isRepetition (c : Char) : Bool := c = '?' || c = '*' || c = '+'

/-- The text behind a repetition, which is lazy with a question mark. -/
def skipLazy (text : List Char) : List Char :=
  if text.head? = some '?' then text.tail else text

/-- Items with the last one repeated.  Switches cannot be repeated. -/
def repeatLast? (items : List Pattern) : Option (List Pattern) :=
  match items.getLast? with
  | none => none
  | some (.switches _) => none
  | some p => some (items.dropLast ++ [.repeated p])

/-- Reads branches up to the closing parenthesis, which is left in the text, or to the
end.  `branches` are those that have been read, `items` what has been read of the next
one.  Every step takes a character, so a text needs no more `fuel` than it has
characters. -/
def branchesFrom :
    Nat → Bool → List Pattern → List Pattern → Reader Pattern
  | 0, _, _, _, _ => none
  | fuel + 1, spaced, branches, items, text =>
      match skip spaced text with
      | [] => some (ofBranches (branches ++ [ofItems items]), [])
      | c :: rest =>
          if c = ')' then some (ofBranches (branches ++ [ofItems items]), c :: rest)
          else if c = '|' then
            branchesFrom fuel spaced (branches ++ [ofItems items]) [] rest
          else if c = '(' then
            match opening spaced rest with
            | none => none
            | some (.switches turned, rest) =>
                branchesFrom fuel ((turned.get? .spaced).getD spaced) branches
                  (items ++ [.switches turned]) rest
            | some (.group name turned, rest) =>
                match branchesFrom fuel ((turned.get? .spaced).getD spaced) [] [] rest with
                | some (inner, ')' :: rest) =>
                    branchesFrom fuel spaced branches (items ++ [.group name turned inner])
                      rest
                | _ => none
          else if c = '\x7b' then none
          else if isRepetition c then
            match repeatLast? items with
            | none => none
            | some items => branchesFrom fuel spaced branches items (skipLazy rest)
          else
            match atomFrom spaced (c :: rest) with
            | none => none
            | some (a, rest) => branchesFrom fuel spaced branches (items ++ [.atom a]) rest

/-- How deeply a pattern may be nested. -/
def depthLimit : Nat := 250

/-- Reads a whole text as a pattern.  No two groups have the same name. -/
def read (text : List Char) : Option Pattern :=
  match branchesFrom (text.length + 1) false [] [] text with
  | some (p, []) => if p.depth ≤ depthLimit ∧ p.names.Nodup then some p else none
  | _ => none

end ResponsiveGrid.Pattern
