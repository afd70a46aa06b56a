set_option autoImplicit false

/-!
# Vocabulary: edges, elements and sides

The names by which a part of a breakpoint's configuration is addressed: an edge of
its width range, one of the demo elements, a side of a demo element.  Error texts,
the wire format and the command line all take their words from here.
-/

namespace ResponsiveGrid

/-- An end of a width range. -/
inductive Edge where
  | minWidth
  | maxWidth
  deriving DecidableEq, Repr, Inhabited

/-- How an edge is called in a sentence. -/
def Edge.label : Edge → String
  | .minWidth => "min width"
  | .maxWidth => "max width"

/-- How an edge is called on the wire. -/
def Edge.name : Edge → String
  | .minWidth => "minWidth"
  | .maxWidth => "maxWidth"

/-- A demo element whose columns are configured per breakpoint. -/
inductive Element where
  | heading1
  | heading2
  | paragraph
  deriving DecidableEq, Repr, Inhabited

/-- The elements in the order in which they are checked and written. -/
def Element.all : List Element := [.heading1, .heading2, .paragraph]

/-- The name of an element. -/
def Element.name : Element → String
  | .heading1 => "heading1"
  | .heading2 => "heading2"
  | .paragraph => "paragraph"

/-- A side of a demo element. -/
inductive Side where
  | start
  | stop
  deriving DecidableEq, Repr, Inhabited

/-- The name of a side. -/
def Side.name : Side → String
  | .start => "start"
  | .stop => "end"

/-- The design tools that a layout can be computed for. -/
inductive Tool where
  | sketch
  | figma
  deriving DecidableEq, Repr

instance : Inhabited Tool := ⟨.figma⟩

/-- The name of a design tool. -/
def Tool.name : Tool → String
  | .sketch => "sketch"
  | .figma => "figma"

end ResponsiveGrid
