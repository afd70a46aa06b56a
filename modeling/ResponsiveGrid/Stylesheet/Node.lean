set_option autoImplicit false

/-!
# Stylesheet: statements and their text

The statements that style sheets are made of.  A phrase is a text in which variables
are used; it keeps the two apart, so that it is known which variables a statement
uses.  A rule writes its children one a line and two blanks deeper; a line without
characters stays without them, so that no line ends in a blank.
-/

namespace ResponsiveGrid.Stylesheet

/-- A part of a phrase. -/
inductive Piece where
  | text (content : String)
  /-- the use of a variable, written with a dollar sign -/
  | variable (name : String)
  deriving DecidableEq, Repr, Inhabited

/-- A text with variables in it. -/
abbrev Phrase : Type := List Piece

/-- The text of a part of a phrase. -/
def Piece.render : Piece → List Char
  | .text content => content.toList
  | .variable name => '$' :: name.toList

/-- The text of a phrase. -/
def Phrase.render (p : Phrase) : List Char := p.flatMap Piece.render

/-- A statement. -/
inductive Node where
  | comment (content : String)
  | declaration (property : String) (value : Phrase)
  | variable (name : String) (value : Phrase)
  /-- a selector or an at-rule with a block -/
  | rule (prelude : Phrase) (children : List Node)
  /-- text that is written as it is -/
  | verbatim (content : String)
  /-- an empty line -/
  | blank
  deriving Repr, Inhabited

/-- The property that a declaration is for; other statements have none. -/
def Node.property? : Node → Option String
  | .declaration property _ => some property
  | _ => none

/-! ## Lines -/

/-- The text up to the first line break, and the lines behind it. -/
def splitLines : List Char → List Char × List (List Char)
  | [] => ([], [])
  | c :: rest =>
      let (line, more) := splitLines rest
      if c = '\n' then ([], line :: more) else (c :: line, more)

/-- The lines of a text; there is always one. -/
def linesOf (text : List Char) : List (List Char) :=
  (splitLines text).1 :: (splitLines text).2

/-- Joins lines by line breaks. -/
def joinLines (lines : List (List Char)) : List Char := List.intercalate ['\n'] lines

/-- A line two blanks deeper, unless there is nothing on it. -/
def indentLine (line : List Char) : List Char :=
  if line = [] then [] else ' ' :: ' ' :: line

/-- A text two blanks deeper. -/
def indent (text : List Char) : List Char := joinLines ((linesOf text).map indentLine)

/-! ## Texts -/

mutual

/-- The text of a statement. -/
def Node.render : Node → List Char
  | .comment content => '/' :: '/' :: ' ' :: content.toList
  | .declaration property value =>
      property.toList ++ ':' :: ' ' :: (Phrase.render value ++ [';'])
  | .variable name value =>
      '$' :: (name.toList ++ ':' :: ' ' :: (Phrase.render value ++ [';']))
  | .verbatim content => content.toList
  | .blank => []
  | .rule header [] => Phrase.render header ++ [' ', '\x7b', '\x7d']
  | .rule header (child :: children) =>
      Phrase.render header ++ ' ' :: '\x7b' :: '\n' ::
        (joinLines (renderIndented (child :: children)) ++ ['\n', '\x7d'])

/-- The texts of the children of a rule. -/
def renderIndented : List Node → List (List Char)
  | [] => []
  | child :: children => indent child.render :: renderIndented children

end

/-! ## Sheets -/

/-- A style sheet: its statements, top to bottom. -/
abbrev Sheet : Type := List Node

/-- Statements with an empty line between any two.  No statements still take up one
empty line. -/
def separated : List Node → List Node
  | [] => [.blank]
  | nodes => List.intersperse .blank nodes

/-- The text of a sheet, one statement a line. -/
def Sheet.render (sheet : Sheet) : List Char := joinLines (sheet.map Node.render)

end ResponsiveGrid.Stylesheet
