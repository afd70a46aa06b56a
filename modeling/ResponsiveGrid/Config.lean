import ResponsiveGrid.Json.Value
import ResponsiveGrid.LogFilter
import ResponsiveGrid.Toml.Document
import ResponsiveGrid.Wire
set_option autoImplicit false

/-!
# Config: what is configured for a project

Four settings in three sections, each with a default, so that an empty text is a
configuration.  A section is a table, or an array of its settings in order; unknown
names are passed over.  `Config.parse` reads a text, and `Config.problems` says what is
wrong with the values that were read.
-/

namespace ResponsiveGrid

/-- A configuration. -/
structure Config where
  /-- the parameter of a query string that holds a grid system -/
  queryKey : String := "gridSystem"
  /-- the design tool that layouts are computed for -/
  tool : Tool := .figma
  artboardWidth : Nat := 1280
  logFilter : String := "warn"
  deriving DecidableEq, Repr, Inhabited

namespace Config

/-! ## Reading -/

/-- A setting of a section: by its name in a table, by its position in an array.  Fails
for a section that is neither. -/
def setting (owner : Option Toml.Value) (position : Nat) (name : String) :
    Option (Option Toml.Value) :=
  match owner with
  | none => some none
  | some (.table _ fields) => some (Toml.Fields.get? fields name)
  | some (.array items) => some items[position]?
  | some (.tables items) => some (items[position]?.map fun t => .table .header t)
  | some .moment => some none
  | some _ => none

/-- The value of a setting, or its default. -/
def valueOr {α : Type} (default : α) (read : Toml.Value → Option α) :
    Option Toml.Value → Option α
  | none => some default
  | some v => read v

/-- Reads a text. -/
def text? : Toml.Value → Option String
  | .string s => some s
  | _ => none

/-- Reads a natural number of thirty-two bits. -/
def natural32? : Toml.Value → Option Nat
  | .integer n => if 0 ≤ n ∧ n ≤ largest32 then some n.toNat else none
  | _ => none

/-- The tool of a name. -/
def toolNamed (name : String) : Option Tool :=
  (Tool.names.find? fun entry => entry.1 == name).map Prod.snd

/-- Whether a value is an empty table or an empty array. -/
def isVoid : Toml.Value → Bool
  | .table _ fields => fields.isEmpty
  | .array items => items.isEmpty
  | .tables items => items.isEmpty
  | _ => false

/-- Reads a tool: its name, or a table with the name as its only field and nothing in
it. -/
def tool? : Toml.Value → Option Tool
  | .string name => toolNamed name
  | .table _ [(name, v)] => if isVoid v then toolNamed name else none
  | _ => none

/-- The configuration of a document. -/
def ofFields (fields : Toml.Fields) : Option Config := do
  let query := fields.get? "query"
  let output := fields.get? "export"
  let log := fields.get? "log"
  let queryKey ← setting query 0 "key"
  let tool ← setting output 0 "tool"
  let artboardWidth ← setting output 1 "artboard_width"
  let logFilter ← setting log 0 "filter"
  return {
    queryKey := ← valueOr ({} : Config).queryKey text? queryKey
    tool := ← valueOr ({} : Config).tool tool? tool
    artboardWidth := ← valueOr ({} : Config).artboardWidth natural32? artboardWidth
    logFilter := ← valueOr ({} : Config).logFilter text? logFilter }

/-- Reads a configuration. -/
def parse (text : String) : Option Config :=
  match Toml.parse text with
  | some fields => ofFields fields
  | none => none

/-! ## Checking -/

/-- What is wrong with a configuration. -/
inductive Problem where
  | blankKey
  | artboardWidth (value : Nat)
  | logFilter (cause : LogFilter.Fault)
  deriving DecidableEq, Repr, Inhabited

/-- The sentence for a problem. -/
def Problem.message : Problem → String
  | .blankKey => "query.key must not be empty"
  | .artboardWidth v => s!"export.artboard_width must be in [1, {widthLimit}], got {v}"
  | .logFilter cause => "log.filter is not a valid directive: " ++ cause.message

/-- Everything that is wrong with a configuration. -/
def problems (c : Config) : List Problem :=
  (if c.queryKey.toList.all Text.isBlank then [.blankKey] else []) ++
  (if c.artboardWidth = 0 ∨ widthLimit < c.artboardWidth then
    [.artboardWidth c.artboardWidth] else []) ++
  (match LogFilter.check c.logFilter with
    | .ok () => []
    | .error cause => [.logFilter cause])

/-! ## Writing -/

/-- The value of a configuration. -/
def toJson (c : Config) : Json :=
  .object [
    ("query", .object [("key", .string c.queryKey)]),
    ("export", .object [("tool", .string c.tool.name),
      ("artboard_width", Json.natural c.artboardWidth)]),
    ("log", .object [("filter", .string c.logFilter)])]

end Config

end ResponsiveGrid
