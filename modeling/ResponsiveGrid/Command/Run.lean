import ResponsiveGrid.Command.Fault
import ResponsiveGrid.Command.Invocation
import ResponsiveGrid.Layout
import ResponsiveGrid.Stylesheet.Build
import ResponsiveGrid.Grid.Edit
import ResponsiveGrid.Unit
set_option autoImplicit false

/-!
# Command: carrying out a task

`respond` computes what a command has to say from the files it finds, and where that
goes: to the output stream or into a file.  `run` puts it there.  All that can fail on
the way to an answer fails before anything is put anywhere.
-/

namespace ResponsiveGrid.Command

/-- What a command has to say. -/
inductive Answer where
  | print (text : String)
  | save (path text : String)
  deriving DecidableEq, Repr, Inhabited

/-! ## Configuration -/

/-- The configuration file that is looked for when none is named. -/
def configFile : String := "gridsys.toml"

/-- Reads a configuration file. -/
def readConfig (d : Directory) (path : String) : Except Fault Config :=
  match d.read path with
  | .error cause => .error (.file cause)
  | .ok text =>
      match Config.parse text with
      | some c => .ok c
      | none => .error .toml

/-- Finds the configuration: the named file, else the usual one, else the default. -/
def findConfig (d : Directory) : Option String → Except Fault Config
  | some path => if d.has path then readConfig d path else .error (.missingPath path)
  | none => if d.hasFile configFile then readConfig d configFile else .ok {}

/-- Finds the configuration and checks it. -/
def loadConfig (d : Directory) (path : Option String) : Except Fault Config :=
  match findConfig d path with
  | .error fault => .error fault
  | .ok c =>
      match c.problems with
      | [] => .ok c
      | problems => .error (.config problems)

/-! ## Sources -/

/-- The first identity that a run takes. -/
def firstId : Id := 1

/-- Reads the system that a query string holds. -/
def gridOfQuery (key query : String) : Except Fault (Grid × Id) :=
  match Query.read firstId query key with
  | (.error cause, _) => .error (.ofStore cause)
  | (.ok none, _) => .error (.argument (.noParameter key))
  | (.ok (some s), next) => .ok (s, next)

/-- Reads the system of a source, and gives the next identity, too. -/
def loadGrid (d : Directory) (c : Config) : Source → Except Fault (Grid × Id)
  | .builtin => .ok (Grid.reset firstId)
  | .query query => gridOfQuery c.queryKey query
  | .file path =>
      if d.has path then
        match d.read path with
        | .error cause => .error (.file cause)
        | .ok text =>
            match Snapshot.parse text with
            | .error cause => .error (.json cause)
            | .ok snapshot =>
                match Grid.ofSnapshot? firstId snapshot with
                | (.error v, _) => .error (.violation v)
                | (.ok s, next) => .ok (s, next)
      else .error (.missingPath path)

/-! ## The table of breakpoints -/

/-- A text filled up with blanks to a width. -/
def padded (width : Nat) (text : String) : String :=
  text ++ String.ofList (List.replicate (width - text.length) ' ')

/-- A line of the table. -/
def tableLine (mark index range columns gutter margin maxWidth root : String) : String :=
  mark ++ " " ++ padded 3 index ++ " " ++ padded 12 range ++ " " ++ padded 8 columns ++ " " ++
    padded 9 gutter ++ " " ++ padded 9 margin ++ " " ++ padded 10 maxWidth ++ " " ++ root ++ "\n"

/-- The first line of the table. -/
def tableHead : String :=
  tableLine " " "#" "range" "columns" "gutter" "margin" "max width" "root"

/-- The line of an entry.  The entry of the identity `matched` is marked. -/
def entryLine (matched : Option Id) (index : Nat) (e : Entry) : String :=
  let s := e.settings
  tableLine (if matched = some e.id then ">" else " ") (toString index) e.range.label
    (toString s.columns) (Unit.rem (Float.ofNat s.gutter)) (Unit.rem (Float.ofNat s.margin))
    (match s.contentMaxWidth with
      | some w => Unit.rem (Float.ofNat w)
      | none => "none")
    (Unit.percentage s.scale)

/-- The lines of entries, numbered on from `index`. -/
def entryLines (matched : Option Id) : Nat → List Entry → List String
  | _, [] => []
  | index, e :: rest => entryLine matched index e :: entryLines matched (index + 1) rest

/-- The table of the breakpoints.  The one that a width matches is marked. -/
def table (s : Grid) (width : Option Nat) : String :=
  let matched := (width.bind s.matchFor).map Entry.id
  String.join (tableHead :: entryLines matched 0 s.entries)

/-! ## Edits -/

/-- Reads a natural number of thirty-two bits as the value of a field. -/
def wholeValue (word : String) : Except ArgumentFault Nat :=
  match Decimal.countOf? word.toList with
  | some n => if n ≤ largest32 then .ok n else .error (.notWhole word)
  | none => .error (.notWhole word)

/-- Reads the value of a field.  A content width may be `none`, in any case. -/
def Field.valueOf (field : Field) (word : String) : Except ArgumentFault FieldValue :=
  match field with
  | .contentMaxWidth =>
      if word.toList.map Char.toLower = "none".toList then .ok (.contentMaxWidth none)
      else (wholeValue word).map fun n => .contentMaxWidth (some n)
  | .columns => (wholeValue word).map .columns
  | .gutter => (wholeValue word).map .gutter
  | .margin => (wholeValue word).map .margin
  | .scale =>
      match Decimal.binary64Of? word.toList with
      | some x => .ok (.scale x)
      | none => .error (.notNumber word)

/-- The outcome of an edit as that of a command. -/
def ofEdit : Except EditFault Grid → Except Fault Grid
  | .ok s => .ok s
  | .error cause => .error (.edit cause)

/-- Changes the entry of an identity. -/
def applyChange (s : Grid) (id : Id) : Change → Except Fault Grid
  | .remove => ofEdit (s.remove id)
  | .resize edge value => ofEdit (s.resize id edge value)
  | .set field word =>
      match field.valueOf word with
      | .ok value => ofEdit (s.setField id value)
      | .error cause => .error (.argument cause)
  | .place element side value => ofEdit (s.place id element side value)

/-- Edits a system.  `next` is the next identity. -/
def applyEdit (next : Id) (s : Grid) : Edit → Except Fault Grid
  | .add => ofEdit (s.add next).1
  | .change index change =>
      match s.get? index with
      | none => .error (.argument (.noIndex index s.size))
      | some e => applyChange s e.id change

/-! ## Tasks -/

/-- The text of a snapshot and a line break. -/
def snapshotText (pretty : Bool) (s : Snapshot) : String :=
  (if pretty then s.prettyText else s.text) ++ "\n"

/-- Says a text into a file if one is named, else to the output stream. -/
def say (output : Option String) (text : String) : Answer :=
  match output with
  | some path => .save path text
  | none => .print text

/-- The answer to a task under a configuration. -/
def answer (d : Directory) (c : Config) : Task → Except Fault Answer
  | .generate source output =>
      match loadGrid d c source with
      | .error fault => .error fault
      | .ok (s, _) => .ok (say output (Stylesheet.generate s))
  | .default output pretty => .ok (say output (snapshotText pretty .default))
  | .layout source width tool pretty =>
      match loadGrid d c source with
      | .error fault => .error fault
      | .ok (s, _) =>
          match s.layout (width.getD c.artboardWidth) (tool.getD c.tool) with
          | .error cause => .error (.refusal cause)
          | .ok none => .error (.argument .noBreakpoints)
          | .ok (some l) => .ok (.print ((if pretty then l.prettyText else l.text) ++ "\n"))
  | .inspect source width =>
      match loadGrid d c source with
      | .error fault => .error fault
      | .ok (s, _) => .ok (.print (table s width))
  | .encode source base =>
      match loadGrid d c source with
      | .error fault => .error fault
      | .ok (s, _) =>
          let query := Query.write base c.queryKey s
          .ok (.print (if query = "" then "\n" else "?" ++ query ++ "\n"))
  | .decode query pretty =>
      match gridOfQuery c.queryKey query with
      | .error fault => .error fault
      | .ok (s, _) => .ok (.print (snapshotText pretty s.snapshot))
  | .edit source output edit =>
      match loadGrid d c source with
      | .error fault => .error fault
      | .ok (s, next) =>
          match applyEdit next s edit with
          | .error fault => .error fault
          | .ok edited => .ok (say output (snapshotText false edited.snapshot))

/-- The answer to an invocation. -/
def respond (d : Directory) (i : Invocation) : Except Fault Answer :=
  match loadConfig d i.config with
  | .error fault => .error fault
  | .ok c => answer d c i.task

/-! ## Effects -/

/-- What a command can change: the files, and what has been printed. -/
structure World where
  directory : Directory
  printed : String
  deriving DecidableEq, Repr, Inhabited

/-- Puts an answer where it goes. -/
def deliver (w : World) : Answer → Except Fault World
  | .print text => .ok { w with printed := w.printed ++ text }
  | .save path text =>
      match w.directory.write path text with
      | .ok d => .ok { w with directory := d }
      | .error cause => .error (.file cause)

/-- Runs a command: the failure if there is one, and the world behind it. -/
def run (w : World) (i : Invocation) : Option Fault × World :=
  match respond w.directory i with
  | .error fault => (some fault, w)
  | .ok a =>
      match deliver w a with
      | .error fault => (some fault, w)
      | .ok w => (none, w)

end ResponsiveGrid.Command
