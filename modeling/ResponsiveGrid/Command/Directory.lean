import ResponsiveGrid.Text.Parts
import ResponsiveGrid.Text.Utf8
set_option autoImplicit false

/-!
# Command: files of a working directory

The files that a command may read and write, as a table.  A path is followed part by
part, from the working directory or from the root.  The root and the directories above
the working directory are known to exist; whatever else there is stands in the table.
-/

namespace ResponsiveGrid.Command

/-- Why a file could not be read or written. -/
inductive FileFault where
  | notFound
  /-- a part of the path that is not the last one is a file -/
  | notDirectory
  | isDirectory
  /-- the path or a name in it has too many bytes -/
  | nameTooLong
  /-- the path has the character in it that ends a path -/
  | endedEarly
  /-- the bytes of the file are no UTF-8 -/
  | notText
  deriving DecidableEq, Repr, Inhabited

/-- The sentence for a fault. -/
def FileFault.message : FileFault → String
  | .notFound => "No such file or directory (os error 2)"
  | .notDirectory => "Not a directory (os error 20)"
  | .isDirectory => "Is a directory (os error 21)"
  | .nameTooLong => "File name too long (os error 36)"
  | .endedEarly => "file name contained an unexpected NUL byte"
  | .notText => "stream did not contain valid UTF-8"

/-- What a location holds. -/
inductive Node where
  | file (bytes : List UInt8)
  | directory
  deriving DecidableEq, Repr, Inhabited

/-- The names on the way from the working directory, after one `..` for each directory
above it; or the names on the way from the root, after `/`. -/
abbrev Location : Type := List String

/-- The contents of locations. -/
structure Directory where
  nodes : List (Location × Node) := []
  deriving DecidableEq, Repr, Inhabited

namespace Directory

/-- The root, the working directory and the directories above it. -/
def isKnown (l : Location) : Bool := l.all (· == "..") || l == ["/"]

/-- What is at a location.  A location that has something in it is a directory. -/
def at? (d : Directory) (l : Location) : Option Node :=
  if isKnown l then some .directory
  else
    match d.nodes.find? fun entry => entry.1 == l with
    | some (_, node) => some node
    | none => if d.nodes.any fun entry => l.isPrefixOf entry.1 then some .directory else none

/-- The location of the directory around one. -/
def above (l : Location) : Location :=
  if l == ["/"] then l
  else if l.all (· == "..") then l ++ [".."]
  else l.dropLast

/-- The location that one more part of a path leads to. -/
def enter (l : Location) (part : String) : Location :=
  if part = "" ∨ part = "." then l else if part = ".." then above l else l ++ [part]

/-- The parts of a path. -/
def partsOf (path : String) : List String := (Text.parts '/' path.toList).map String.ofList

/-- Where a path begins. -/
def origin (path : String) : Location := if path.toList.head? = some '/' then ["/"] else []

/-- How many bytes a name may have. -/
def nameLimit : Nat := 255

/-- How many bytes a path may have. -/
def pathLimit : Nat := 4095

/-- Follows the parts of a path as long as what they lead through are directories. -/
def follow (d : Directory) : Location → List String → Except FileFault Location
  | l, [] => .ok l
  | l, part :: rest =>
      match d.at? l with
      | none => .error .notFound
      | some (.file _) => .error .notDirectory
      | some .directory =>
          if nameLimit < part.utf8ByteSize then .error .nameTooLong
          else follow d (enter l part) rest

/-- The location that some parts of a path lead to. -/
def locate (d : Directory) (path : String) (parts : List String) :
    Except FileFault Location :=
  if path.toList.contains '\x00' then .error .endedEarly
  else if pathLimit < path.utf8ByteSize then .error .nameTooLong
  else follow d (origin path) parts

/-- Adds what a path leads to. -/
def put (d : Directory) (path : String) (node : Node) : Directory :=
  ⟨((partsOf path).foldl enter (origin path), node) :: d.nodes⟩

/-- What a path leads to. -/
def node? (d : Directory) (path : String) : Except FileFault Node :=
  match d.locate path (partsOf path) with
  | .error fault => .error fault
  | .ok l =>
      match d.at? l with
      | some node => .ok node
      | none => .error .notFound

/-- Whether a path leads to a file or a directory. -/
def has (d : Directory) (path : String) : Bool := (d.node? path).isOk

/-- Whether a path leads to a file. -/
def hasFile (d : Directory) (path : String) : Bool :=
  match d.node? path with
  | .ok (.file _) => true
  | _ => false

/-- Reads a text file. -/
def read (d : Directory) (path : String) : Except FileFault String :=
  match d.node? path with
  | .error fault => .error fault
  | .ok .directory => .error .isDirectory
  | .ok (.file bytes) =>
      match Text.Utf8.decode? bytes with
      | some text => .ok (String.ofList text)
      | none => .error .notText

/-- Whether a path has a slash behind it. -/
def endsInSlash (path : String) : Bool := path.toList.getLast? == some '/'

/-- The parts that are followed to write to a path.  Of a path with a slash behind it the
last name is not looked up: it can only be a directory. -/
def partsToWrite (path : String) : List String :=
  if endsInSlash path then ((partsOf path).reverse.dropWhile (· == "")).tail.reverse ++ [""]
  else partsOf path

/-- Writes a text file, in place of what was in it.  Its directory has to exist. -/
def write (d : Directory) (path text : String) : Except FileFault Directory :=
  match d.locate path (partsToWrite path) with
  | .error fault => .error fault
  | .ok l =>
      if endsInSlash path ∨ d.at? l = some .directory then .error .isDirectory
      else
        .ok ⟨(l, .file (Text.Utf8.encode text.toList)) ::
          d.nodes.filter fun entry => entry.1 ≠ l⟩

end Directory

end ResponsiveGrid.Command
