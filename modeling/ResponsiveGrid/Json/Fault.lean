import ResponsiveGrid.Decimal.Layout
import ResponsiveGrid.Text.Shown
set_option autoImplicit false

/-!
# Json: why a text could not be read

Three classes of faults: the text ends too early, it is no JSON, or it is JSON of
the wrong shape.  Only the last class has causes that are told to the user.
-/

namespace ResponsiveGrid.Json

/-- The value that stood where another kind of value was wanted. -/
inductive Found where
  | null
  | boolean (value : Bool)
  | integer (value : Int)
  | decimal (value : Float)
  | string (value : String)
  | sequence
  | map
  deriving Inhabited

/-- Why a value has the wrong shape. -/
inductive Mismatch where
  /-- another kind of value stood there -/
  | kind (found : Found) (expected : String)
  /-- an integer outside the bounds of its type -/
  | bounds (value : Int) (expected : String)
  | missingField (name : String)
  | duplicateField (name : String)
  /-- an array that stands for a record ended before a required field -/
  | tooShort (length : Nat) (record : String) (size : Nat)
  /-- a name that is none of the listed ones -/
  | unknownVariant (name : String) (known : List String)
  /-- none of the alternatives of a type fits -/
  | noAlternative (name : String)
  /-- the shape is right and the value is refused -/
  | refused (reason : String)
  deriving Inhabited

/-- Why a text could not be read. -/
inductive Fault where
  /-- the text ends in the middle of a value -/
  | truncated
  /-- the text is no JSON -/
  | malformed
  /-- the value has the wrong shape -/
  | mismatch (cause : Mismatch)
  deriving Inhabited

/-- How a found value is named. -/
def Found.describe : Found → String
  | .null => "null"
  | .boolean b => s!"boolean `{b}`"
  | .integer n => s!"integer `{n}`"
  | .decimal x =>
      let digits := String.ofList (Decimal.wire x)
      s!"floating point `{digits}`"
  | .string s => "string " ++ Text.quoted s
  | .sequence => "sequence"
  | .map => "map"

/-- A list of names, each between backquotes. -/
def nameList : List String → String
  | [] => "there are no variants"
  | [a] => s!"expected `{a}`"
  | [a, b] => s!"expected `{a}` or `{b}`"
  | names =>
      let listed := ", ".intercalate (names.map fun name => s!"`{name}`")
      s!"expected one of {listed}"

/-- The sentence for a mismatch. -/
def Mismatch.message : Mismatch → String
  | .kind found expected =>
      let what := found.describe
      s!"invalid type: {what}, expected {expected}"
  | .bounds value expected => s!"invalid value: integer `{value}`, expected {expected}"
  | .missingField name => s!"missing field `{name}`"
  | .duplicateField name => s!"duplicate field `{name}`"
  | .tooShort length record size =>
      let elements := if size = 1 then "1 element" else s!"{size} elements"
      s!"invalid length {length}, expected struct {record} with {elements}"
  | .unknownVariant name known =>
      let expected := nameList known
      s!"unknown variant `{name}`, {expected}"
  | .noAlternative name => s!"data did not match any variant of untagged enum {name}"
  | .refused reason => reason

/-- The sentence for a text that could not be read. -/
def Fault.message : Fault → String
  | .truncated => "the text ends in the middle of a value"
  | .malformed => "the text is no JSON"
  | .mismatch cause => cause.message

end ResponsiveGrid.Json
