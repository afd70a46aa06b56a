import Mathlib.Data.List.InsertIdx
import ResponsiveGrid.Proofs.Decimal.Scale
import ResponsiveGrid.Proofs.Grid.Edit
import ResponsiveGrid.Proofs.Grid.Partition
import ResponsiveGrid.Wire
set_option autoImplicit false

/-!
# Grid: sessions

A session is a system that is edited for a while, together with the next identity.  A
step replaces the system by the outcome of an edit, or keeps it when the edit is
refused; identities that a refused step has taken stay taken.

What the entries of every system in a session keep is carried by the types.  What is
left to show is where identities come from: `Session.known_step` says that one step puts
only identities into the system that were there before or that it has just taken, and
`Session.known_run` carries this through a run of any length.
-/

namespace ResponsiveGrid

/-! ## Steps -/

/-- What can be done to the system of a session. -/
inductive Step where
  /-- puts a stored system in place of the one there is -/
  | load (text : String)
  | reset
  | add
  | remove (id : Id)
  | resize (id : Id) (edge : Edge) (value : Nat)
  | setField (id : Id) (value : FieldValue)
  | place (id : Id) (element : Element) (side : Side) (value : Nat)
  /-- takes an identity for nothing -/
  | mint
  deriving DecidableEq, Repr, Inhabited

/-- A system and the next identity. -/
structure Session where
  grid : Grid
  next : Id

namespace Session

/-- Nothing is there, and no identity has been taken. -/
def start : Session := ⟨.empty, 1⟩

/-- Takes over the outcome of an edit; what is refused leaves the system as it is. -/
def settle {ε : Type} (s : Session) : Except ε Grid × Id → Session
  | (.ok g, next) => ⟨g, next⟩
  | (.error _, next) => ⟨s.grid, next⟩

/-- The session after a step. -/
def step (s : Session) : Step → Session
  | .load text =>
      match Snapshot.parse text with
      | .ok content => s.settle (Grid.ofSnapshot? s.next content)
      | .error _ => s
  | .reset => ⟨(Grid.reset s.next).1, (Grid.reset s.next).2⟩
  | .add => s.settle (s.grid.add s.next)
  | .remove id => s.settle (s.grid.remove id, s.next)
  | .resize id edge value => s.settle (s.grid.resize id edge value, s.next)
  | .setField id value => s.settle (s.grid.setField id value, s.next)
  | .place id element side value => s.settle (s.grid.place id element side value, s.next)
  | .mint => ⟨s.grid, s.next + 1⟩

/-- The session after a number of steps. -/
def run (s : Session) (steps : List Step) : Session := steps.foldl step s

/-- The identities that a step takes: those that the next identity moves past. -/
def minted (s : Session) (step : Step) : List Id := List.range' s.next ((s.step step).next - s.next)

/-- The identities that are taken in a run, in the order in which they are taken. -/
def mintedIn (s : Session) : List Step → List Id
  | [] => []
  | step :: rest => s.minted step ++ (s.step step).mintedIn rest

/-! ## One step -/

/-- The identities of the system after a step are old ones or ones that the step has
taken, and the next identity never moves back. -/
def Known (s t : Session) : Prop :=
  s.next ≤ t.next ∧ ∀ id ∈ t.grid.ids, id ∈ s.grid.ids ∨ s.next ≤ id ∧ id < t.next

theorem known_refused (s : Session) {next : Id} (h : s.next ≤ next) :
    s.Known ⟨s.grid, next⟩ :=
  ⟨h, fun _ hid => .inl hid⟩

theorem known_settle {ε : Type} (s : Session) (outcome : Except ε Grid)
    (h : ∀ g, outcome = .ok g → ∀ id ∈ g.ids, id ∈ s.grid.ids) :
    s.Known (s.settle (outcome, s.next)) := by
  cases houtcome : outcome with
  | error _ => exact s.known_refused (Nat.le_refl _)
  | ok g => exact ⟨Nat.le_refl _, fun id hid => .inl (h g houtcome id hid)⟩

theorem known_ofSnapshot? (s : Session) (content : Snapshot) :
    s.Known (s.settle (Grid.ofSnapshot? s.next content)) := by
  have hle := Grid.le_ofSnapshot? s.next content
  rcases houtcome : Grid.ofSnapshot? s.next content with ⟨outcome, after⟩
  rw [houtcome] at hle
  cases outcome with
  | error _ => exact s.known_refused hle
  | ok g =>
    obtain ⟨hids, -, hafter⟩ := Grid.ofSnapshot?_eq_ok houtcome
    refine ⟨hle, fun id hid => .inr ?_⟩
    have hid : id ∈ g.ids := hid
    rw [hids, List.mem_range'_1] at hid
    exact ⟨hid.1, hafter ▸ hid.2⟩

theorem known_reset (s : Session) : s.Known ⟨(Grid.reset s.next).1, (Grid.reset s.next).2⟩ := by
  have hknown := s.known_ofSnapshot? .default
  have hle := Grid.le_ofSnapshot? s.next .default
  unfold Grid.reset
  rcases houtcome : Grid.ofSnapshot? s.next .default with ⟨outcome, after⟩
  rw [houtcome] at hknown hle
  cases outcome with
  | error _ => exact ⟨hle, fun id hid => absurd hid (List.not_mem_nil)⟩
  | ok g => exact hknown

theorem known_add (s : Session) : s.Known (s.settle (s.grid.add s.next)) := by
  have hnext := s.grid.next_of_add s.next
  rcases houtcome : s.grid.add s.next with ⟨outcome, after⟩
  rw [houtcome] at hnext
  cases outcome with
  | error _ => exact s.known_refused hnext.1
  | ok g =>
    obtain ⟨rfl, hentries⟩ := Grid.entries_of_add houtcome
    refine ⟨hnext.1, ?_⟩
    intro id hid
    have hid : id ∈ g.entries.map Entry.id := hid
    have hnew : s.next ≤ s.next ∧ s.next < s.next + 1 := ⟨Nat.le_refl _, Nat.lt_succ_self _⟩
    rcases hentries with ⟨-, e, he, hg⟩ | ⟨front, tail, shrunk, added, hs, hshrunk, hadded, hg⟩
    · rw [hg, List.map_singleton, List.mem_singleton, he] at hid
      exact .inr (hid ▸ hnew)
    · rw [hg, List.map_append, List.mem_append] at hid
      show id ∈ s.grid.entries.map Entry.id ∨ _
      rw [hs, List.map_append, List.mem_append]
      rcases hid with hfront | hid
      · exact .inl (.inl hfront)
      · rw [List.map_cons, List.map_singleton, hshrunk, hadded] at hid
        rcases List.mem_cons.1 hid with rfl | hid
        · exact .inl (.inr (by simp))
        · rw [List.mem_singleton] at hid
          exact .inr (hid ▸ hnew)

theorem ids_of_change {g g' : Grid} {id : Id} {edit : Entry → Except Violation Entry}
    (hedit : ∀ e e', edit e = .ok e' → e'.id = e.id) (h : g.change id edit = .ok g') :
    g'.ids = g.ids := by
  obtain ⟨index, e, e', -, he, he', hentries⟩ := Grid.entries_of_change h
  unfold Grid.ids
  rw [hentries]
  exact map_id_set he (hedit e e' he')

theorem ids_of_resize {g g' : Grid} {id : Id} {edge : Edge} {value : Nat}
    (h : g.resize id edge value = .ok g') : g'.ids = g.ids := by
  obtain ⟨index, p, neighbour, facing, patched, -, hp, hq⟩ := Grid.entries_of_resize h
  exact (map_id_of_patchAt hq).trans (map_id_of_patchAt hp)

theorem ids_of_remove {g g' : Grid} {id : Id} (h : g.remove id = .ok g') :
    ∃ index, g.indexOf? id = some index ∧ g'.ids = g.ids.eraseIdx index := by
  obtain ⟨index, removed, hindex, -, hentries⟩ := Grid.entries_of_remove h
  refine ⟨index, hindex, ?_⟩
  unfold Grid.ids
  rw [List.eraseIdx_map]
  rcases hentries with hentries | ⟨neighbour, p, hp⟩
  · rw [hentries]
  · exact map_id_of_patchAt hp

/-- Every step keeps to the identities it finds and those it takes. -/
theorem known_step (s : Session) (step : Step) : s.Known (s.step step) := by
  cases step with
  | load text =>
    unfold Session.step
    simp only
    split
    · exact s.known_ofSnapshot? _
    · exact s.known_refused (Nat.le_refl _)
  | reset => exact s.known_reset
  | add => exact s.known_add
  | remove id =>
    apply s.known_settle
    intro g hg other hother
    obtain ⟨index, -, hids⟩ := ids_of_remove hg
    rw [hids] at hother
    exact List.mem_of_mem_eraseIdx hother
  | resize id edge value =>
    exact s.known_settle _ fun g hg other hother => ids_of_resize hg ▸ hother
  | setField id value =>
    apply s.known_settle
    intro g hg other hother
    have hids := ids_of_change (fun e e' => Entry.id_of_setField) hg
    exact hids ▸ hother
  | place id element side value =>
    apply s.known_settle
    intro g hg other hother
    have hids := ids_of_change (fun e e' => Entry.id_of_place) hg
    exact hids ▸ hother
  | mint => exact s.known_refused (Nat.le_succ _)

/-! ## Runs -/

/-- A run takes the identities one after the other, without a gap. -/
theorem mintedIn_eq (s : Session) (steps : List Step) :
    s.next ≤ (s.run steps).next ∧
      s.mintedIn steps = List.range' s.next ((s.run steps).next - s.next) := by
  induction steps generalizing s with
  | nil => simp [mintedIn, run]
  | cons step rest ih =>
    have hstep := (s.known_step step).1
    obtain ⟨hle, hminted⟩ := ih (s.step step)
    have hrun : s.run (step :: rest) = (s.step step).run rest := rfl
    refine ⟨hrun ▸ Nat.le_trans hstep hle, ?_⟩
    have hstart : s.next + ((s.step step).next - s.next) = (s.step step).next :=
      Nat.add_sub_cancel' hstep
    rw [mintedIn, hminted, hrun, minted]
    nth_rewrite 2 [← hstart]
    rw [List.range'_append_1, Nat.add_comm, Nat.sub_add_sub_cancel hle hstep]

/-- The identities of the system after a run were there before it or are taken in it. -/
theorem known_run (s : Session) (steps : List Step) :
    ∀ id ∈ (s.run steps).grid.ids, id ∈ s.grid.ids ∨ id ∈ s.mintedIn steps := by
  induction steps generalizing s with
  | nil => exact fun id hid => .inl hid
  | cons step rest ih =>
    intro id hid
    rcases ih (s.step step) id hid with hbefore | htaken
    · obtain ⟨hle, hknown⟩ := s.known_step step
      rcases hknown id hbefore with hold | hnew
      · exact .inl hold
      · refine .inr (List.mem_append_left _ ?_)
        rw [minted, List.mem_range'_1, Nat.add_sub_cancel' hle]
        exact hnew
    · exact .inr (List.mem_append_right _ htaken)

theorem taken_run (steps : List Step) :
    ∀ id ∈ (start.run steps).grid.ids, id ∈ start.mintedIn steps := by
  intro id hid
  rcases start.known_run steps id hid with hold | htaken
  · exact absurd hold List.not_mem_nil
  · exact htaken

theorem lt_next_of_taken (steps : List Step) :
    ∀ id ∈ start.mintedIn steps, id < (start.run steps).next := by
  obtain ⟨hle, hminted⟩ := start.mintedIn_eq steps
  intro id hid
  rw [hminted, List.mem_range'_1, Nat.add_sub_cancel' hle] at hid
  exact hid.2

/-! ## What every session keeps -/

/-- The fields of settings are within their bounds, and the scale is a number. -/
structure InBounds (s : Settings) : Prop where
  range : s.range.minWidth ≤ 9998 ∧
    ∀ m ∈ s.range.maxWidth, s.range.minWidth < m ∧ 1 ≤ m ∧ m ≤ 9999
  contentMaxWidth : ∀ w ∈ s.contentMaxWidth, 128 ≤ w ∧ w ≤ 1920
  columns : 1 ≤ s.columns ∧ s.columns ≤ 12
  gutter : s.gutter ≤ 256
  margin : s.margin ≤ 256
  scale : s.scale.isFinite = true ∧ 1.0 ≤ s.scale ∧ s.scale ≤ 2.0
  placements : ∀ element, 1 ≤ (s.placements.get element).start ∧
    (s.placements.get element).start < (s.placements.get element).stop ∧
    (s.placements.get element).stop ≤ s.columns + 1

/-- What holds of a session in which given identities have been taken. -/
structure Sound (s : Session) (taken : List Id) : Prop where
  /-- one entry for every width: the one looked up, and the last that starts there or before -/
  covers : s.grid.entries = [] ∨ ∀ width, ∃ e,
    (s.grid.entries.filter fun e => e.range.matches? width) = [e] ∧
    s.grid.matchFor width = some e ∧
    (s.grid.entries.filter fun e => decide (e.range.minWidth ≤ width)).getLast? = some e
  inBounds : ∀ e ∈ s.grid.entries, InBounds e.settings
  nodup_ids : s.grid.ids.Nodup
  ids_lt : ∀ id ∈ s.grid.ids, id < s.next
  ids_taken : ∀ id ∈ s.grid.ids, id ∈ taken
  taken_lt : ∀ id ∈ taken, id < s.next
  nodup_taken : taken.Nodup

theorem inBounds_entry (e : Entry) : InBounds e.settings where
  range := by
    refine ⟨e.range.minWidth_le, ?_⟩
    intro m hm
    obtain ⟨hlt, hle⟩ := e.range.maxWidth_bounds m hm
    exact ⟨hlt, Nat.one_le_of_lt hlt, hle⟩
  contentMaxWidth := e.valid.contentMaxWidth
  columns := e.valid.columns
  gutter := e.valid.gutter
  margin := e.valid.margin
  scale := ⟨Decimal.isFinite_of_between e.valid.scale.1 e.valid.scale.2, e.valid.scale⟩
  placements := e.valid.placements

/-- Whatever steps are taken from the empty system, its entries share out all widths,
every field is within its bounds, and no identity is taken twice or stands for two
entries. -/
theorem sound_run (steps : List Step) : (start.run steps).Sound (start.mintedIn steps) := by
  obtain ⟨-, hminted⟩ := start.mintedIn_eq steps
  exact {
    covers := by
      by_cases hempty : (start.run steps).grid.entries = []
      · exact .inl hempty
      · exact .inr fun width => (start.run steps).grid.matchFor_unique hempty width
    inBounds := fun e _ => inBounds_entry e
    nodup_ids := (start.run steps).grid.nodup_ids
    ids_lt := fun id hid => lt_next_of_taken steps id (taken_run steps id hid)
    ids_taken := taken_run steps
    taken_lt := lt_next_of_taken steps
    nodup_taken := hminted ▸ List.nodup_range' }

example : (start.run [.reset, .remove 2, .add]).grid.ids = [1, 3, 4, 5, 6] := by decide

end Session

end ResponsiveGrid
