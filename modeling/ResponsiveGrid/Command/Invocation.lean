import ResponsiveGrid.Command.Line
import ResponsiveGrid.Wire
set_option autoImplicit false

/-!
# Command: the commands of the program

The typed form of a command line, the grammar that accepts it, and the step from one
to the other.  `Invocation.read` is the only way in.
-/

namespace ResponsiveGrid.Command

/-! ## Commands -/

/-- Where the grid system comes from; the default if nothing is named. -/
inductive Source where
  | builtin
  | file (path : String)
  | query (query : String)
  deriving DecidableEq, Repr, Inhabited

/-- A scalar field, as it is addressed on the command line. -/
inductive Field where
  | contentMaxWidth
  | columns
  | gutter
  | margin
  | scale
  deriving DecidableEq, Repr, Inhabited

/-- An edit of one entry, which is addressed by its position. -/
inductive Change where
  | remove
  | resize (edge : Edge) (value : Nat)
  /-- replaces a field by a value that has not been read yet -/
  | set (field : Field) (value : String)
  | place (element : Element) (side : Side) (value : Nat)
  deriving DecidableEq, Repr, Inhabited

/-- An edit of a grid system. -/
inductive Edit where
  | add
  | change (index : Nat) (change : Change)
  deriving DecidableEq, Repr, Inhabited

/-- What the program is asked to do. -/
inductive Task where
  /-- the style sheet of a grid system -/
  | generate (source : Source) (output : Option String)
  /-- the default snapshot -/
  | default (output : Option String) (pretty : Bool)
  /-- the layout at an artboard width -/
  | layout (source : Source) (width : Option Nat) (tool : Option Tool) (pretty : Bool)
  /-- a table of the breakpoints -/
  | inspect (source : Source) (width : Option Nat)
  /-- a query string that holds a grid system -/
  | encode (source : Source) (base : String)
  /-- the snapshot that a query string holds -/
  | decode (query : String) (pretty : Bool)
  /-- the snapshot of an edited grid system -/
  | edit (source : Source) (output : Option String) (edit : Edit)
  deriving DecidableEq, Repr, Inhabited

/-- A task, and the configuration file if one is named. -/
structure Invocation where
  config : Option String
  task : Task
  deriving DecidableEq, Repr, Inhabited

/-! ## The grammar -/

/-- The words for the edges. -/
def edgeWords : List (String × Edge) := [("min", .minWidth), ("max", .maxWidth)]

/-- The words for the fields. -/
def fieldWords : List (String × Field) := [
  ("content-max-width", .contentMaxWidth), ("columns", .columns), ("gutter", .gutter),
  ("margin", .margin), ("scale", .scale)]

/-- A value that is one of listed words. -/
def oneOf {α : Type} (words : List (String × α)) : ValueKind := .choice (words.map Prod.fst)

/-- The option that every level has. -/
def configOption : String × ValueKind := ("config", .path)

/-- The options for the source. -/
def sourceOptions : List (String × ValueKind) := [("input", .path), ("query", .text)]

/-- The two sources exclude each other. -/
def sourceExclusive : List (String × String) := [("input", "query")]

/-- The option for the output file. -/
def outputOption : String × ValueKind := ("output", .path)

/-- The level of an edit, which has positions alone. -/
def editLevel (positions : List ValueKind) : Level :=
  .mk [] [configOption] positions [] false []

/-- The edits. -/
def editLevels : List (String × Level) := [
  ("add", editLevel []),
  ("remove", editLevel [.index]),
  ("resize", editLevel [.index, oneOf edgeWords, .natural32]),
  ("set", editLevel [.index, oneOf fieldWords, .text]),
  ("offset", editLevel [.index, oneOf Element.names, oneOf Side.names, .natural32])]

/-- The level of the tasks on query strings. -/
def queryLevel : Level := .mk [] [configOption] [] [] false [
  ("encode", .mk [] (configOption :: ("base", .text) :: sourceOptions) [] sourceExclusive
    false []),
  ("decode", .mk ["pretty"] [configOption] [.text] [] false [])]

/-- The outermost level. -/
def rootLevel : Level := .mk [] [configOption] [] [] true [
  ("generate", .mk [] (configOption :: outputOption :: sourceOptions) [] sourceExclusive
    false []),
  ("default", .mk ["pretty"] [configOption, outputOption] [] [] false []),
  ("export", .mk ["pretty"]
    (configOption :: ("width", .natural32) :: ("tool", oneOf Tool.names) :: sourceOptions) []
    sourceExclusive false []),
  ("inspect", .mk [] (configOption :: ("width", .natural32) :: sourceOptions) []
    sourceExclusive false []),
  ("query", queryLevel),
  ("edit", .mk [] (configOption :: outputOption :: sourceOptions) [] sourceExclusive false
    editLevels)]

/-! ## From matches to commands -/

/-- What a word stands for. -/
def meaning? {α : Type} (words : List (String × α)) (word : String) : Option α :=
  (words.find? fun w => w.1 == word).map Prod.snd

/-- The source that was given. -/
def Source.ofMatches (m : Matches) : Source :=
  match m.option? "input" with
  | some name => .file name
  | none =>
      match m.option? "query" with
      | some text => .query text
      | none => .builtin

/-- The edit that was given. -/
def Edit.ofMatches? (name : String) (m : Matches) : Option Edit := do
  match name, m.positions with
  | "add", [] => return .add
  | "remove", [index] => return .change (← index? index) .remove
  | "resize", [index, edge, value] =>
      return .change (← index? index)
        (.resize (← meaning? edgeWords edge) (← natural32? value))
  | "set", [index, field, value] =>
      return .change (← index? index) (.set (← meaning? fieldWords field) value)
  | "offset", [index, element, side, value] =>
      return .change (← index? index)
        (.place (← meaning? Element.names element) (← meaning? Side.names side)
          (← natural32? value))
  | _, _ => none

/-- The task on a query string that was given. -/
def Task.ofQuery? (name : String) (m : Matches) : Option Task :=
  match name, m.positions with
  | "encode", [] => some (.encode (.ofMatches m) ((m.option? "base").getD ""))
  | "decode", [query] => some (.decode query (m.flag "pretty"))
  | _, _ => none

/-- The task that was given. -/
def Task.ofMatches? (name : String) (m : Matches) : Option Task :=
  let source := Source.ofMatches m
  let output := m.option? "output"
  let width := (m.option? "width").bind natural32?
  let pretty := m.flag "pretty"
  match name, m.child? with
  | "generate", none => some (.generate source output)
  | "default", none => some (.default output pretty)
  | "export", none =>
      some (.layout source width ((m.option? "tool").bind (meaning? Tool.names)) pretty)
  | "inspect", none => some (.inspect source width)
  | "query", some (name, inner) => Task.ofQuery? name inner
  | "edit", some (name, inner) => (Edit.ofMatches? name inner).map (.edit source output)
  | _, _ => none

/-- The invocation that was given. -/
def Invocation.ofMatches? (m : Matches) : Option Invocation :=
  match m.child? with
  | none => none
  | some (name, inner) =>
      (Task.ofMatches? name inner).map fun task => ⟨m.innermost? "config", task⟩

/-- Reads the invocation that the words of a command line stand for. -/
def Invocation.read (words : List String) : Except Stop Invocation :=
  match readLine rootLevel words with
  | .error stop => .error stop
  | .ok m =>
      match Invocation.ofMatches? m with
      | some invocation => .ok invocation
      | none => .error .usage

/-- The text that answers a question for the version. -/
def versionText : String := "gridsys 0.1.0\n"

end ResponsiveGrid.Command
