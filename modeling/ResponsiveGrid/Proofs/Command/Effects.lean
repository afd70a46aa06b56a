import ResponsiveGrid.Command.Run
import ResponsiveGrid.Proofs.Command.Directory
import ResponsiveGrid.Proofs.Command.Line
import ResponsiveGrid.Proofs.Stylesheet.Cascade
set_option autoImplicit false

/-!
# Command: a failed command has no effect

`run` computes the whole answer before it puts it anywhere.  A program that prints while it
goes need not be like that, so the parts of a command are carried out here one after the
other, each in the world that the one before it has left: `course` reads files where they
are needed, prints the table of breakpoints line by line, and stops at the first failure.
`outcome_course` is that this makes no difference.

`atomic_run` says what a command leaves behind.  A failure of any kind leaves the world as
it was.  A command that was given an output file changes what is at the location of this
file and prints nothing; one that was given none prints a text and changes no file.
-/

namespace ResponsiveGrid.Command

/-! ## Parts of a command -/

/-- A part of a command: in a world it fails or gives a value, and it leaves a world. -/
abbrev Action : Type → Type := ExceptT Fault (StateM World)

namespace Action

/-- Computes a value, which changes nothing. -/
def compute {α : Type} (result : Except Fault α) : Action α := fun w => (result, w)

/-- Computes a value from the files, which changes nothing. -/
def consult {α : Type} (look : Directory → Except Fault α) : Action α :=
  fun w => (look w.directory, w)

/-- Prints a text. -/
def print (text : String) : Action Unit := fun w => (.ok (), { w with printed := w.printed ++ text })

/-- Saves a text in a file.  A failure leaves the file as it was. -/
def save (path text : String) : Action Unit := fun w =>
  match w.directory.write path text with
  | .ok d => (.ok (), { w with directory := d })
  | .error cause => (.error (.file cause), w)

/-- Puts a text into a file if one is named, else on the output stream. -/
def emit (output : Option String) (text : String) : Action Unit :=
  match output with
  | some path => save path text
  | none => print text

/-- Prints texts one after the other. -/
def printAll : List String → Action Unit
  | [] => pure ()
  | text :: rest => do
      print text
      printAll rest

/-- The failure that an action ends with in a world, if it does, and the world behind it. -/
def outcome (action : Action Unit) (w : World) : Option Fault × World :=
  match action w with
  | (.error fault, w) => (some fault, w)
  | (.ok (), w) => (none, w)

end Action

open Command.Action

/-- The parts of a task under a configuration. -/
def parts (c : Config) : Task → Action Unit
  | .generate source output => do
      let (s, _) ← consult fun d => loadGrid d c source
      emit output (Stylesheet.generate s)
  | .default output pretty => emit output (snapshotText pretty .default)
  | .layout source width tool pretty => do
      let (s, _) ← consult fun d => loadGrid d c source
      match s.layout (width.getD c.artboardWidth) (tool.getD c.tool) with
      | .error cause => throw (.refusal cause)
      | .ok none => throw (.argument .noBreakpoints)
      | .ok (some l) => print ((if pretty then l.prettyText else l.text) ++ "\n")
  | .inspect source width => do
      let (s, _) ← consult fun d => loadGrid d c source
      print tableHead
      printAll (entryLines ((width.bind s.matchFor).map Entry.id) 0 s.entries)
  | .encode source base => do
      let (s, _) ← consult fun d => loadGrid d c source
      let query := Query.write base c.queryKey s
      if query = "" then print "\n" else print ("?" ++ query ++ "\n")
  | .decode query pretty => do
      let (s, _) ← compute (gridOfQuery c.queryKey query)
      print (snapshotText pretty s.snapshot)
  | .edit source output edit => do
      let (s, next) ← consult fun d => loadGrid d c source
      let edited ← compute (applyEdit next s edit)
      emit output (snapshotText false edited.snapshot)

/-- The parts of a command, one after the other. -/
def course (i : Invocation) : Action Unit := do
  let c ← consult fun d => loadConfig d i.config
  parts c i.task

/-! ## One part after the other -/

namespace Action

variable {w : World}

/-- An action is carried out in the world that the one before it leaves. -/
theorem run_bind {α β : Type} (action : Action α) (next : α → Action β) (w : World) :
    (action >>= next) w =
      match action w with
      | (.ok a, w) => next a w
      | (.error fault, w) => (.error fault, w) := by
  simp only [bind, ExceptT.bind, ExceptT.mk, StateT.bind, ExceptT.bindCont]
  cases action w with
  | mk result after => cases result <;> rfl

theorem outcome_compute {α : Type} (result : Except Fault α) (next : α → Action Unit) (w : World) :
    (compute result >>= next).outcome w =
      match result with
      | .error fault => (some fault, w)
      | .ok a => (next a).outcome w := by
  unfold outcome
  rw [run_bind]
  cases result <;> rfl

theorem outcome_consult {α : Type} (look : Directory → Except Fault α) (next : α → Action Unit)
    (w : World) :
    (consult look >>= next).outcome w =
      match look w.directory with
      | .error fault => (some fault, w)
      | .ok a => (next a).outcome w := outcome_compute (look w.directory) next w

theorem printAll_eq (texts : List String) (w : World) :
    printAll texts w = (.ok (), { w with printed := w.printed ++ String.join texts }) := by
  induction texts generalizing w with
  | nil =>
    have hempty : w.printed ++ String.join [] = w.printed := by simp
    rw [hempty]
    rfl
  | cons text rest ih =>
    rw [printAll, run_bind]
    simp only [print]
    rw [ih, String.join_cons, String.append_assoc]

end Action

/-! ## The answer, delivered -/

/-- The failure to put an answer where it goes, if there is one, and the world behind it. -/
def delivered (w : World) (a : Answer) : Option Fault × World :=
  match deliver w a with
  | .error fault => (some fault, w)
  | .ok w => (none, w)

theorem outcome_emit (output : Option String) (text : String) (w : World) :
    (emit output text).outcome w = delivered w (say output text) := by
  cases output with
  | none => rfl
  | some path =>
    unfold outcome delivered
    simp only [emit, save, say, deliver]
    cases w.directory.write path text <;> rfl

theorem outcome_print_bind {head : String} {rest : List String} (w : World) :
    (do print head; printAll rest : Action Unit).outcome w =
      delivered w (.print (String.join (head :: rest))) := by
  have hall := printAll_eq (head :: rest) w
  rw [printAll] at hall
  unfold outcome
  rw [hall]
  rfl

/-- The parts of a task put out its answer. -/
theorem outcome_parts (c : Config) (task : Task) (w : World) :
    (parts c task).outcome w =
      match answer w.directory c task with
      | .error fault => (some fault, w)
      | .ok a => delivered w a := by
  cases task with
  | generate source output =>
    rw [parts, answer, outcome_consult]
    cases loadGrid w.directory c source with
    | error fault => rfl
    | ok found => exact outcome_emit output _ w
  | default output pretty => exact outcome_emit output _ w
  | layout source width tool pretty =>
    rw [parts, answer, outcome_consult]
    cases loadGrid w.directory c source with
    | error fault => rfl
    | ok found =>
      simp only
      cases found.1.layout (width.getD c.artboardWidth) (tool.getD c.tool) with
      | error cause => rfl
      | ok layout => cases layout <;> rfl
  | inspect source width =>
    rw [parts, answer, outcome_consult]
    cases loadGrid w.directory c source with
    | error fault => rfl
    | ok found => exact outcome_print_bind w
  | encode source base =>
    rw [parts, answer, outcome_consult]
    cases loadGrid w.directory c source with
    | error fault => rfl
    | ok found =>
      simp only
      split <;> rfl
  | decode query pretty =>
    rw [parts, answer, outcome_compute]
    cases gridOfQuery c.queryKey query with
    | error fault => rfl
    | ok found => rfl
  | edit source output edit =>
    rw [parts, answer, outcome_consult]
    cases loadGrid w.directory c source with
    | error fault => rfl
    | ok found =>
      simp only
      rw [outcome_compute]
      cases applyEdit found.2 found.1 edit with
      | error fault => rfl
      | ok edited => exact outcome_emit output _ w

/-- Carrying out a command part by part is running it. -/
theorem outcome_course (i : Invocation) (w : World) : (course i).outcome w = run w i := by
  unfold course run respond
  rw [outcome_consult]
  cases loadConfig w.directory i.config with
  | error fault => rfl
  | ok c => exact outcome_parts c i.task w

/-! ## Answers -/

theorem generate_ne_empty (s : Grid) : Stylesheet.generate s ≠ "" := by
  intro h
  have hchars := congrArg String.toList h
  unfold Stylesheet.generate Stylesheet.Sheet.render at hchars
  rw [Stylesheet.build_eq, String.toList_ofList] at hchars
  cases hchars

theorem append_newline_ne_empty (text : String) : text ++ "\n" ≠ "" := by
  intro h
  exact absurd (String.append_eq_empty_iff.1 h).2 (by decide)

theorem table_ne_empty (s : Grid) (width : Option Nat) : table s width ≠ "" := by
  have hhead : tableHead ≠ "" := append_newline_ne_empty _
  intro h
  unfold table at h
  simp only [String.join_cons] at h
  exact hhead (String.append_eq_empty_iff.1 h).1

theorem exists_say {d : Directory} {c : Config} {task : Task} {a : Answer}
    (h : answer d c task = .ok a) : ∃ text, text ≠ "" ∧ a = say task.output? text := by
  cases task with
  | generate source output =>
    rw [answer] at h
    split at h
    · cases h
    · cases h
      exact ⟨_, generate_ne_empty _, rfl⟩
  | default output pretty =>
    cases h
    exact ⟨_, append_newline_ne_empty _, rfl⟩
  | layout source width tool pretty =>
    rw [answer] at h
    split at h
    · cases h
    · split at h
      · cases h
      · cases h
      · cases h
        exact ⟨_, append_newline_ne_empty _, rfl⟩
  | inspect source width =>
    rw [answer] at h
    split at h
    · cases h
    · cases h
      exact ⟨_, table_ne_empty _ _, rfl⟩
  | encode source base =>
    rw [answer] at h
    split at h
    · cases h
    · cases h
      refine ⟨_, ?_, rfl⟩
      split
      · decide
      · exact append_newline_ne_empty _
  | decode query pretty =>
    rw [answer] at h
    split at h
    · cases h
    · cases h
      exact ⟨_, append_newline_ne_empty _, rfl⟩
  | edit source output edit =>
    rw [answer] at h
    split at h
    · cases h
    · split at h
      · cases h
      · cases h
        exact ⟨_, append_newline_ne_empty _, rfl⟩

/-! ## What a command leaves behind -/

/-- What is left behind of a world by a command that puts its answer into `output`, or on the
output stream when that is no file. -/
structure Atomic (w : World) (output : Option String) (outcome : Option Fault × World) : Prop where
  /-- a command that fails leaves everything as it was -/
  failed : ∀ fault, outcome.1 = some fault → outcome.2 = w
  /-- a command with an output file prints nothing, and writes a text to this file -/
  saved : ∀ path, output = some path → outcome.1 = none →
    outcome.2.printed = w.printed ∧
      ∃ text, Directory.Writes w.directory path text outcome.2.directory
  /-- a command without an output file changes no file, and prints something -/
  printed : output = none → outcome.1 = none →
    outcome.2.directory = w.directory ∧
      ∃ text, text ≠ "" ∧ outcome.2.printed = w.printed ++ text

/-- Putting an answer where it goes happens as a whole or not at all. -/
theorem atomic_delivered (w : World) (output : Option String) {text : String}
    (htext : text ≠ "") : Atomic w output (delivered w (say output text)) := by
  unfold delivered
  cases output with
  | none =>
    simp only [say, deliver]
    refine ⟨?_, ?_, ?_⟩
    · intro fault h
      cases h
    · intro path h
      cases h
    · intro _ _
      exact ⟨rfl, text, htext, rfl⟩
  | some file =>
    simp only [say, deliver]
    cases hwrite : w.directory.write file text with
    | error cause =>
      refine ⟨?_, ?_, ?_⟩
      · intro _ _
        rfl
      · intro path _ h
        cases h
      · intro h
        cases h
    | ok d =>
      refine ⟨?_, ?_, ?_⟩
      · intro fault h
        cases h
      · intro path hpath _
        cases hpath
        exact ⟨rfl, text, Directory.writes_write hwrite⟩
      · intro h
        cases h

/-- A command has all of its effect or none. -/
theorem atomic_task (w : World) (i : Invocation) : Atomic w i.task.output? (run w i) := by
  unfold run
  cases hrespond : respond w.directory i with
  | error fault =>
    refine ⟨?_, ?_, ?_⟩
    · intro _ _
      rfl
    · intro path _ h
      cases h
    · intro _ h
      cases h
  | ok a =>
    unfold respond at hrespond
    split at hrespond
    · cases hrespond
    · obtain ⟨text, htext, rfl⟩ := exists_say hrespond
      exact atomic_delivered w i.task.output? htext

/-- A command line that is accepted is carried out part by part, and what it leaves behind is
all of its effect or nothing: on a failure the world is as it was, and otherwise a text is in
the output file that the line names, or on the output stream when it names none. -/
theorem atomic_run {words : List String} {i : Invocation} (h : Invocation.read words = .ok i)
    (w : World) :
    (course i).outcome w = run w i ∧ Atomic w (outputOf? words) (run w i) := by
  refine ⟨outcome_course i w, ?_⟩
  rw [← output?_of_read h]
  exact atomic_task w i

/-- A resize that is refused is reported and leaves no output file. -/
theorem atomic_run_refused :
    let words := ["edit", "--output", "never.json", "resize", "0", "min", "10"]
    let i : Invocation :=
      ⟨none, .edit .builtin (some "never.json") (.change 0 (.resize .minWidth 10))⟩
    let w : World := ⟨⟨[]⟩, ""⟩
    Invocation.read words = .ok i ∧ (run w i).1.isSome = true ∧
      (course i).outcome w = run w i ∧ Atomic w (outputOf? words) (run w i) := by
  intro words i w
  have hread : Invocation.read words = .ok i := rfl
  have hfailed : (run w i).1.isSome = true := by decide +kernel
  exact ⟨hread, hfailed, atomic_run hread w⟩

end ResponsiveGrid.Command
