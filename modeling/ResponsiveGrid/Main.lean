import ResponsiveGrid.Command.Run
set_option autoImplicit false

/-!
# Main: the program

Reads the files that an invocation mentions, computes the answer, and prints or saves it.
Everything else is decided by `Command.Invocation.read` and `Command.respond`.
-/

namespace ResponsiveGrid.Command

/-- The file that a source is read from. -/
def Source.file? : Source → Option String
  | .file path => some path
  | _ => none

/-- The file that a task reads. -/
def Task.file? : Task → Option String
  | .generate source _ => source.file?
  | .default _ _ => none
  | .layout source _ _ _ => source.file?
  | .inspect source _ => source.file?
  | .encode source _ => source.file?
  | .decode _ _ => none
  | .edit source _ _ => source.file?

/-- The files that an invocation reads if they exist. -/
def Invocation.files (i : Invocation) : List String :=
  i.config.getD configFile :: i.task.file?.toList

/-- Adds what is found at paths. -/
def gather (d : Directory) : List String → IO Directory
  | [] => pure d
  | path :: rest => do
      match ← (IO.FS.readBinFile path).toBaseIO with
      | .ok bytes => gather (d.put path (.file bytes.toList)) rest
      | .error (.inappropriateType _ 21 _) => gather (d.put path .directory) rest
      | .error _ => gather d rest

/-- Prints or saves an answer. -/
def perform : Answer → IO UInt32
  | .print text => do
      IO.print text
      return 0
  | .save path text => do
      match ← (IO.FS.writeFile path text).toBaseIO with
      | .ok () => return 0
      | .error e =>
          IO.eprintln s!"I/O error: {e}"
          return 1

/-- The line that tells how the program is called. -/
def usageText : String :=
  "usage: gridsys [--config FILE] generate|default|export|inspect|query|edit [OPTIONS]"

/-- Carries out a command line. -/
def execute (words : List String) : IO UInt32 := do
  match Invocation.read words with
  | .error .help =>
      IO.println usageText
      return 0
  | .error .version =>
      IO.print versionText
      return 0
  | .error .usage =>
      IO.eprintln usageText
      return 2
  | .ok i =>
      match respond (← gather {} i.files) i with
      | .ok a => perform a
      | .error fault =>
          IO.eprintln fault.message
          return UInt32.ofNat fault.exitCode

end ResponsiveGrid.Command

/-- Runs the program. -/
def main (args : List String) : IO UInt32 := ResponsiveGrid.Command.execute args
