import ResponsiveGrid.Proofs.Grid.Reload
import ResponsiveGrid.Proofs.Machine.Edit
import ResponsiveGrid.Proofs.Machine.Layout
set_option autoImplicit false

/-!
# Machine: sessions in words

A session that is computed in words, with the operations of `Machine.Word` alone.  One step
ends in no trap and gives the session that there should be (`step_eq`), whatever the session
is, since the types of its entries and of its system carry all the bounds that the
operations need; `run_eq` is the same for a run, by induction on its steps.  `safe_run` says
of every session that can be reached what a maintainer would want of it: no edit, no lookup
and no layout can trap, whatever it is asked for, and layouts are exact.

Identities are numbers of a counter of their own.  They are only compared, and are no words
here.
-/

namespace ResponsiveGrid.Machine

/-! ## Systems from content -/

/-- Takes identities for settings, one after the other. -/
def mintAll (next : Id) : List Settings → Checked (Except Violation (List Entry) × Id)
  | [] => .ok (.ok [], next)
  | settings :: rest => do
      match ← entryOf? next settings with
      | .error v => return (.error v, next + 1)
      | .ok e =>
          match ← mintAll (next + 1) rest with
          | (.error v, after) => return (.error v, after)
          | (.ok entries, after) => return (.ok (e :: entries), after)

theorem mintAll_eq (next : Id) (settings : List Settings) :
    mintAll next settings = .ok (Grid.mintAll next settings) := by
  induction settings generalizing next with
  | nil => rfl
  | cons first rest ih =>
    rw [mintAll, Grid.mintAll, entryOf?_eq, ok_bind]
    cases Entry.of? next first with
    | error v => rfl
    | ok e =>
      simp only
      rw [ih (next + 1), ok_bind]
      rcases Grid.mintAll (next + 1) rest with ⟨outcome, after⟩
      cases outcome with
      | error v => rfl
      | ok entries => rfl

/-- The system with given content under new identities. -/
def ofSnapshot? (next : Id) (content : Snapshot) : Checked (Except Violation Grid × Id) := do
  match ← mintAll next content.breakpoints with
  | (.error v, after) => return (.error v, after)
  | (.ok entries, after) => return (← gridOf? entries, after)

theorem ofSnapshot?_eq (next : Id) (content : Snapshot) :
    ofSnapshot? next content = .ok (Grid.ofSnapshot? next content) := by
  unfold ofSnapshot? Grid.ofSnapshot?
  rw [mintAll_eq, ok_bind]
  rcases Grid.mintAll next content.breakpoints with ⟨outcome, after⟩
  cases outcome with
  | error v => rfl
  | ok entries =>
    simp only
    rw [gridOf?_eq, ok_bind, pure_eq_ok]

/-- The default system under new identities; there has to be one. -/
def reset (next : Id) : Checked (Grid × Id) := do
  match ← ofSnapshot? next .default with
  | (.ok s, after) => return (s, after)
  | (.error _, _) => throw .refused

theorem exists_default (next : Id) :
    ∃ s after, Grid.ofSnapshot? next .default = (.ok s, after) := by
  have hvalid : ∀ b ∈ Snapshot.default.breakpoints, b.Valid := by decide
  have hranges : Snapshot.default.breakpoints.map Settings.range =
      (Grid.reset 1).1.entries.map Entry.range := by decide
  exact (Grid.reset 1).1.exists_ofSnapshot? hvalid hranges next

theorem reset_eq (next : Id) : reset next = .ok (Grid.reset next) := by
  obtain ⟨s, after, hdefault⟩ := exists_default next
  unfold reset Grid.reset
  rw [ofSnapshot?_eq, ok_bind, hdefault]
  rfl

/-! ## Steps and runs -/

/-- The session after a step, in words. -/
def step (s : Session) : Step → Checked Session
  | .load text =>
      match Snapshot.parse text with
      | .ok content => do return s.settle (← ofSnapshot? s.next content)
      | .error _ => .ok s
  | .reset => do
      let (g, next) ← reset s.next
      return ⟨g, next⟩
  | .add => do return s.settle (← addTail s.next s.grid)
  | .remove id => do return s.settle (← remove s.grid id, s.next)
  | .resize id edge value => do return s.settle (← resize s.grid id edge value, s.next)
  | .setField id value => do return s.settle (← setField s.grid id value, s.next)
  | .place id element side value => do
      return s.settle (← place s.grid id element side value, s.next)
  | .mint => .ok ⟨s.grid, s.next + 1⟩

theorem settle_eq {ε : Type} (s : Session) {checked : Checked (Except ε Grid)}
    {outcome : Except ε Grid} (h : checked = .ok outcome) :
    (do return s.settle (← checked, s.next) : Checked Session) =
      .ok (s.settle (outcome, s.next)) := by
  rw [h, ok_bind, pure_eq_ok]

/-- No step traps. -/
theorem step_eq (s : Session) (which : Step) : step s which = .ok (s.step which) := by
  cases which with
  | load text =>
    unfold step Session.step
    simp only
    cases Snapshot.parse text with
    | error fault => rfl
    | ok content =>
      simp only
      rw [ofSnapshot?_eq, ok_bind, pure_eq_ok]
  | reset =>
    unfold step Session.step
    simp only
    rw [reset_eq, ok_bind, pure_eq_ok]
  | add =>
    unfold step Session.step
    simp only
    rw [addTail_eq, ok_bind, pure_eq_ok]
  | remove id => exact settle_eq s (remove_eq s.grid id)
  | resize id edge value => exact settle_eq s (resize_eq s.grid id edge value)
  | setField id value => exact settle_eq s (setField_eq s.grid id value)
  | place id element side value => exact settle_eq s (place_eq s.grid id element side value)
  | mint => rfl

/-- The session after a number of steps, each of them in words. -/
def run (s : Session) (steps : List Step) : Checked Session := steps.foldlM step s

/-- No run traps. -/
theorem run_eq (s : Session) (steps : List Step) : run s steps = .ok (s.run steps) := by
  unfold run Session.run
  induction steps generalizing s with
  | nil => rfl
  | cons first rest ih =>
    rw [List.foldlM_cons, step_eq, ok_bind, List.foldl_cons]
    exact ih (s.step first)

/-! ## What can be asked of a session -/

/-- Nothing that can be asked of a session traps, and layouts are exact. -/
structure Safe (s : Session) : Prop where
  step : ∀ which, step s which = .ok (s.step which)
  load : ∀ content, ofSnapshot? s.next content = .ok (Grid.ofSnapshot? s.next content)
  add : addTail s.next s.grid = .ok (s.grid.add s.next)
  remove : ∀ id, remove s.grid id = .ok (s.grid.remove id)
  resize : ∀ id edge value, resize s.grid id edge value = .ok (s.grid.resize id edge value)
  setField : ∀ id value, setField s.grid id value = .ok (s.grid.setField id value)
  place : ∀ id element side value,
    place s.grid id element side value = .ok (s.grid.place id element side value)
  wider : ∀ id, wider? s.grid id = .ok (s.grid.wider? id)
  layout : ∀ (width : UInt32) tool,
    layoutAt s.grid width.toNat tool = .ok (s.grid.layout width.toNat tool)
  entryLayout : ∀ e ∈ s.grid.entries, ∀ (width : UInt32) tool,
    Machine.layout e width.toNat tool = .ok (e.layout width.toNat tool)
  exact : ∀ e ∈ s.grid.entries, ∀ width : UInt32, ExactAt e width.toNat

theorem toNat_le_largest32 (width : UInt32) : width.toNat ≤ largest32 := by
  have hlt := width.toNat_lt
  unfold largest32
  omega

/-- Whatever steps are taken from the empty system, no step traps, nothing traps that can be
asked of the session they lead to, and what is computed is what there should be. -/
theorem safe_run (steps : List Step) :
    run .start steps = .ok (Session.start.run steps) ∧ Safe (Session.start.run steps) := by
  refine ⟨run_eq .start steps, ?_⟩
  exact {
    step := step_eq _
    load := ofSnapshot?_eq _
    add := addTail_eq _ _
    remove := remove_eq _
    resize := resize_eq _
    setField := setField_eq _
    place := place_eq _
    wider := wider?_eq _
    layout := fun width tool => layoutAt_eq _ (toNat_le_largest32 width) tool
    entryLayout := fun e _ width tool => layout_eq e (toNat_le_largest32 width) tool
    exact := fun e _ width => exact_layout e (toNat_le_largest32 width) }

end ResponsiveGrid.Machine
