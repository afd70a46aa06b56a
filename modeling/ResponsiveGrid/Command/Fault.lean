import ResponsiveGrid.Command.Directory
import ResponsiveGrid.Config
import ResponsiveGrid.Fault
import ResponsiveGrid.Query.Store
set_option autoImplicit false

/-!
# Command: why a command fails

Every failure of a command, with its sentence and its exit code: two for what the user
has to put right on the command line or in the configuration, three for a grid system
or an edit that is refused, one for everything else.
-/

namespace ResponsiveGrid.Command

/-- Why an argument of a command is refused. -/
inductive ArgumentFault where
  /-- the query string does not hold a grid system -/
  | noParameter (key : String)
  /-- there is no breakpoint to compute a layout for -/
  | noBreakpoints
  /-- no breakpoint is at the position; `size` of them are there -/
  | noIndex (index size : Nat)
  | notWhole (word : String)
  | notNumber (word : String)
  deriving DecidableEq, Repr, Inhabited

/-- The sentence for a refused argument. -/
def ArgumentFault.message : ArgumentFault → String
  | .noParameter key => s!"query has no `{key}` parameter"
  | .noBreakpoints => "grid system has no breakpoints"
  | .noIndex index size => s!"no breakpoint at index {index} (grid system has {size})"
  | .notWhole word => s!"expected a whole number, got `{word}`"
  | .notNumber word => s!"expected a number, got `{word}`"

/-- Why a command fails. -/
inductive Fault where
  | file (cause : FileFault)
  | json (cause : Json.Fault)
  /-- the configuration file could not be read as one -/
  | toml
  | violation (cause : Violation)
  | refusal (cause : Refusal)
  | edit (cause : EditFault)
  | config (problems : List Config.Problem)
  | argument (cause : ArgumentFault)
  | missingPath (path : String)
  deriving Inhabited

/-- The sentence for a failure. -/
def Fault.message : Fault → String
  | .file cause => "I/O error: " ++ cause.message
  | .json cause => "JSON error: " ++ cause.message
  | .toml => "TOML parse error: the text is no configuration"
  | .violation cause => "invalid grid system: " ++ cause.message
  | .refusal cause => "precondition failed: " ++ cause.message
  | .edit cause => "edit rejected: " ++ cause.message
  | .config problems =>
      "invalid config: " ++ "; ".intercalate (problems.map Config.Problem.message)
  | .argument cause => "invalid argument: " ++ cause.message
  | .missingPath path => "required path does not exist: " ++ path

/-- The exit code for a failure. -/
def Fault.exitCode : Fault → Nat
  | .file _ => 1
  | .json _ => 1
  | .toml => 1
  | .violation _ => 3
  | .refusal _ => 3
  | .edit _ => 3
  | .config _ => 2
  | .argument _ => 2
  | .missingPath _ => 2

/-- The failure of a command that a stored system could not be read for. -/
def Fault.ofStore : Query.StoreFault → Fault
  | .json cause => .json cause
  | .violation cause => .violation cause

end ResponsiveGrid.Command
