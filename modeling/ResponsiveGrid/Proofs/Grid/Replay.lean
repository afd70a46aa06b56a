import ResponsiveGrid.Command.Run
import ResponsiveGrid.Proofs.Grid.Content
import ResponsiveGrid.Proofs.Stylesheet.Determined
set_option autoImplicit false

/-!
# Grid: the same edits in two sessions

Edits that address an entry by its position can be replayed in any session.  Two sessions whose
systems have the same content agree on every such edit (`Grid.alike_editAt`), and so they go on
agreeing (`Session.agree_of_snapshot_eq`).  Identities are taken at different points in the two
sessions, and further ones may be taken elsewhere at any time; no outcome shows this but by the
identities in it.
-/

namespace ResponsiveGrid

/-! ## Edits by position -/

/-- An edit of what its address stands for, if that is anything. -/
def Grid.Edit.lookup {α β : Type} (f : α → Option β) : Edit α → Option (Edit β)
  | .add => some .add
  | .remove who => (f who).map .remove
  | .resize who edge value => (f who).map fun found => .resize found edge value
  | .setField who value => (f who).map fun found => .setField found value
  | .place who element side value => (f who).map fun found => .place found element side value

theorem Grid.Edit.lookup_map {α β γ : Type} (f : α → Option β) (g : β → γ) (edit : Edit α) :
    edit.lookup (fun who => (f who).map g) = (edit.lookup f).map (Edit.map g) := by
  cases edit with
  | add => rfl
  | remove who => simp only [lookup, Option.map_map]; rfl
  | resize who edge value => simp only [lookup, Option.map_map]; rfl
  | setField who value => simp only [lookup, Option.map_map]; rfl
  | place who element side value => simp only [lookup, Option.map_map]; rfl

theorem Grid.Edit.exists_of_lookup {α β : Type} {f : α → Option β} {edit : Edit α}
    {found : Edit β} (h : edit.lookup f = some found) :
    ∀ b ∈ found.who?, ∃ a, f a = some b := by
  cases edit with
  | add =>
    cases h
    exact fun b hb => absurd hb (Option.not_mem_none b)
  | _ =>
    obtain ⟨b, hb, rfl⟩ := Option.map_eq_some_iff.1 h
    rintro _ ⟨⟩
    exact ⟨_, hb⟩

namespace Grid

/-- The identity at a position. -/
def idAt? (s : Grid) (index : Nat) : Option Id := (s.get? index).map Entry.id

/-- An edit of the entry at a position as an edit of its identity. -/
def resolve (s : Grid) (edit : Edit Nat) : Option (Edit Id) := edit.lookup s.idAt?

/-- The outcome of an edit of the entry at a position; none when no entry stands there. -/
def editAt (next : Id) (s : Grid) (edit : Edit Nat) : Option (Except EditFault Grid) :=
  (s.resolve edit).map (s.edit next)

theorem mem_ids_of_idAt? {s : Grid} {index : Nat} {id : Id} (h : s.idAt? index = some id) :
    id ∈ s.ids := by
  obtain ⟨e, he, rfl⟩ := Option.map_eq_some_iff.1 h
  exact List.mem_map_of_mem (List.mem_of_getElem? he)

section

variable {s t : Grid}

theorem idAt?_of_snapshot_eq (hst : s.snapshot = t.snapshot) (index : Nat) :
    t.idAt? index = (s.idAt? index).map (s.counterpart t) := by
  have hmap : s.entries.map Entry.settings = t.entries.map Entry.settings :=
    congrArg Snapshot.breakpoints hst
  unfold idAt? get?
  cases he : s.entries[index]? with
  | none =>
    have hnone : t.entries[index]? = none := by
      rw [List.getElem?_eq_none_iff] at he ⊢
      rwa [length_eq_of_map_eq hmap] at he
    rw [hnone]
    rfl
  | some e =>
    obtain ⟨hlt, hget⟩ := List.getElem?_eq_some_iff.1 he
    have hs : s.entries = s.entries.take index ++ e :: s.entries.drop (index + 1) := by
      rw [← hget, List.getElem_cons_drop, List.take_append_drop]
    obtain ⟨front', e', back', ht, hfront, -, -, hid⟩ := exists_split_of_snapshot_eq hst hs
    have hindex : front'.length = index := by
      rw [length_eq_of_map_eq hfront, List.length_take, Nat.min_eq_left (Nat.le_of_lt hlt)]
    rw [← hindex, ht, getElem?_split, Option.map_some, Option.map_some, Option.map_some, hid]

/-- In a system with the same content an edit by position is one of the counterpart. -/
theorem resolve_of_snapshot_eq (hst : s.snapshot = t.snapshot) (edit : Edit Nat) :
    t.resolve edit = (s.resolve edit).map (Edit.map (s.counterpart t)) := by
  unfold resolve
  rw [← Edit.lookup_map, funext (idAt?_of_snapshot_eq hst)]

/-! ## One edit -/

/-- Outcomes that are the same but for identities: those of the second one stand for those of
the first one as `f` says. -/
inductive Alike (f : Id → Id) :
    Option (Except EditFault Grid) → Option (Except EditFault Grid) → Prop where
  | missing : Alike f none none
  | edited {s t : Grid} (h : s.snapshot = t.snapshot) : Alike f (some (.ok s)) (some (.ok t))
  | refused (fault : EditFault) :
      Alike f (some (.error fault)) (some (.error (fault.mapId f)))

/-- An edit by position comes out alike in systems with the same content. -/
theorem alike_editAt (hst : s.snapshot = t.snapshot) {next other : Id} (hnext : next ∉ s.ids)
    (hother : other ∉ t.ids) (edit : Edit Nat) :
    Alike (s.counterpart t) (s.editAt next edit) (t.editAt other edit) := by
  unfold editAt
  rw [resolve_of_snapshot_eq hst]
  cases hresolve : s.resolve edit with
  | none => exact .missing
  | some found =>
    have hwho : ∀ id ∈ found.who?, id ∈ s.ids := by
      intro id hid
      obtain ⟨index, hindex⟩ := Edit.exists_of_lookup hresolve id hid
      exact mem_ids_of_idAt? hindex
    simp only [Option.map_some]
    rcases s.yields_or_refuses next found with ⟨entries, h⟩ | ⟨fault, h⟩
    · obtain ⟨others, hmirror, hsettings⟩ := h.mirror hst other
      obtain ⟨u, hu, rfl⟩ := edit_of_yields hnext h
      obtain ⟨v, hv, rfl⟩ := edit_of_yields hother hmirror
      rw [hu, hv]
      exact .edited (congrArg Snapshot.mk hsettings.symm)
    · rw [edit_of_refuses next h, edit_of_refuses other (h.mirror hst hwho)]
      exact .refused fault

/-- The system after an edit with a given outcome; what is refused leaves the system. -/
def orKeep (s : Grid) : Option (Except EditFault Grid) → Grid
  | some (.ok g) => g
  | _ => s

theorem Alike.snapshot_orKeep {f : Id → Id} {left right : Option (Except EditFault Grid)}
    (h : Alike f left right) (hst : s.snapshot = t.snapshot) :
    (s.orKeep left).snapshot = (t.orKeep right).snapshot := by
  cases h with
  | missing => exact hst
  | edited h => exact h
  | refused => exact hst

/-! ## What is computed from a system -/

/-- What is computed from two systems is the same but for identities. -/
structure BehavesLike (s t : Grid) : Prop where
  snapshot : s.snapshot = t.snapshot
  /-- a width is matched by entries with the same settings at the same position -/
  matchFor : ∀ width,
    (t.matchFor width).map Entry.settings = (s.matchFor width).map Entry.settings ∧
    (t.matchFor width).map Entry.id = ((s.matchFor width).map Entry.id).map (s.counterpart t)
  layout : ∀ width tool, s.layout width tool = t.layout width tool
  generate : Stylesheet.generate s = Stylesheet.generate t

theorem settings_matchFor (s : Grid) (width : Nat) :
    (s.matchFor width).map Entry.settings =
      s.snapshot.breakpoints.find? fun b => b.range.matches? width := by
  unfold matchFor snapshot
  rw [List.find?_map]
  rfl

theorem matchFor_of_snapshot_eq (hst : s.snapshot = t.snapshot) {width : Nat} {e : Entry}
    (h : s.matchFor width = some e) :
    ∃ e', t.matchFor width = some e' ∧ e'.settings = e.settings ∧
      s.counterpart t e.id = e'.id := by
  obtain ⟨hmatch, front, back, hs, hfail⟩ := List.find?_eq_some_iff_append.1 h
  obtain ⟨front', e', back', ht, hfront, he, -, hid⟩ := exists_split_of_snapshot_eq hst hs
  refine ⟨e', List.find?_eq_some_iff_append.2 ⟨?_, front', back', ht, ?_⟩, he, hid⟩
  · rw [Entry.range_eq he]
    exact hmatch
  · intro a' ha'
    obtain ⟨a, ha, hsettings⟩ := List.mem_map.1 (hfront ▸ List.mem_map_of_mem ha')
    rw [← Entry.range_eq hsettings]
    exact hfail a ha

theorem matchFor_eq_none_of_snapshot_eq (hst : s.snapshot = t.snapshot) {width : Nat}
    (h : s.matchFor width = none) : t.matchFor width = none := by
  rw [← Option.map_eq_none_iff (f := Entry.settings), settings_matchFor, ← hst,
    ← settings_matchFor, h]
  rfl

theorem layout_eq_of_settings_eq {d e : Entry} (h : d.settings = e.settings) (width : Nat)
    (tool : Tool) : d.layout width tool = e.layout width tool := by
  unfold Entry.layout Entry.checkExport Entry.sketchColumns Entry.figmaColumns
    Entry.containerWidth Entry.range
  rw [h]

theorem layout_of_snapshot_eq (hst : s.snapshot = t.snapshot) (width : Nat) (tool : Tool) :
    s.layout width tool = t.layout width tool := by
  unfold layout
  cases h : s.matchFor width with
  | none => rw [matchFor_eq_none_of_snapshot_eq hst h]
  | some e =>
    obtain ⟨e', he', hsettings, -⟩ := matchFor_of_snapshot_eq hst h
    rw [he']
    simp only [layout_eq_of_settings_eq hsettings]

theorem generate_of_snapshot_eq (hst : s.snapshot = t.snapshot) :
    Stylesheet.generate s = Stylesheet.generate t := by
  apply Stylesheet.generate_eq_of_outline_eq
  by_cases hs : s.entries = []
  · have hmap : s.entries.map Entry.settings = t.entries.map Entry.settings :=
      congrArg Snapshot.breakpoints hst
    rw [hs, List.map_nil, eq_comm, List.map_eq_nil_iff] at hmap
    rw [Stylesheet.outline, Stylesheet.outline, hs, hmap]
  · apply Stylesheet.outline_eq_of_sameLayout
    intro width _
    obtain ⟨e, -, he, -⟩ := s.matchFor_unique hs width
    obtain ⟨e', he', hsettings, -⟩ := matchFor_of_snapshot_eq hst he
    exact ⟨e, e', he, he', congrArg Stylesheet.look hsettings.symm⟩

/-- What is computed from systems with the same content is the same but for identities. -/
theorem behavesLike_of_snapshot_eq (hst : s.snapshot = t.snapshot) : s.BehavesLike t where
  snapshot := hst
  matchFor := by
    intro width
    cases h : s.matchFor width with
    | none =>
      rw [matchFor_eq_none_of_snapshot_eq hst h]
      exact ⟨rfl, rfl⟩
    | some e =>
      obtain ⟨e', he', hsettings, hid⟩ := matchFor_of_snapshot_eq hst h
      rw [he']
      exact ⟨congrArg some hsettings, congrArg some hid.symm⟩
  layout := layout_of_snapshot_eq hst
  generate := generate_of_snapshot_eq hst

end

end Grid

/-! ## Edits of the command line -/

namespace Command

/-- A fault of a command with other identities. -/
def Fault.mapId (f : Id → Id) : Fault → Fault
  | .edit cause => .edit (cause.mapId f)
  | fault => fault

/-- Outcomes of an edit of the command line that are the same but for identities. -/
inductive Alike (f : Id → Id) : Except Fault Grid → Except Fault Grid → Prop where
  | edited {s t : Grid} (h : s.snapshot = t.snapshot) : Alike f (.ok s) (.ok t)
  | refused (fault : Fault) : Alike f (.error fault) (.error (fault.mapId f))

theorem alike_ofEdit {f : Id → Id} {left right : Except EditFault Grid}
    (h : Grid.Alike f (some left) (some right)) : Alike f (ofEdit left) (ofEdit right) := by
  cases h with
  | edited h => exact .edited h
  | refused fault => exact .refused (.edit fault)

/-- An edit of the command line comes out alike for systems with the same content. -/
theorem alike_applyEdit {s t : Grid} (hst : s.snapshot = t.snapshot) {next other : Id}
    (hnext : next ∉ s.ids) (hother : other ∉ t.ids) (edit : Edit) :
    Alike (s.counterpart t) (applyEdit next s edit) (applyEdit other t edit) := by
  have hfound : ∀ (e : Grid.Edit Nat) {found found' : Grid.Edit Id},
      s.resolve e = some found → t.resolve e = some found' →
        Alike (s.counterpart t) (ofEdit (s.edit next found)) (ofEdit (t.edit other found')) := by
    intro e found found' h h'
    have halike := Grid.alike_editAt hst hnext hother e
    rw [Grid.editAt, Grid.editAt, h, h'] at halike
    exact alike_ofEdit halike
  cases edit with
  | add => exact hfound .add rfl rfl
  | change index change =>
    have hindex := Grid.idAt?_of_snapshot_eq hst index
    unfold Grid.idAt? at hindex
    unfold applyEdit
    cases he : s.get? index with
    | none =>
      rw [he, Option.map_none, Option.map_none, Option.map_eq_none_iff] at hindex
      have hsize : s.size = t.size :=
        Grid.length_eq_of_map_eq (congrArg Snapshot.breakpoints hst)
      simp only [he, hindex, hsize]
      exact .refused _
    | some e =>
      obtain ⟨e', he', -⟩ := Option.map_eq_some_iff.1 (he ▸ hindex)
      have hid : s.idAt? index = some e.id := congrArg (Option.map Entry.id) he
      have hid' : t.idAt? index = some e'.id := congrArg (Option.map Entry.id) he'
      simp only [he, he']
      cases change with
      | remove =>
        exact hfound (.remove index) (Option.map_eq_some_iff.2 ⟨_, hid, rfl⟩)
          (Option.map_eq_some_iff.2 ⟨_, hid', rfl⟩)
      | resize edge value =>
        exact hfound (.resize index edge value) (Option.map_eq_some_iff.2 ⟨_, hid, rfl⟩)
          (Option.map_eq_some_iff.2 ⟨_, hid', rfl⟩)
      | place element side value =>
        exact hfound (.place index element side value) (Option.map_eq_some_iff.2 ⟨_, hid, rfl⟩)
          (Option.map_eq_some_iff.2 ⟨_, hid', rfl⟩)
      | set field word =>
        -- the value is read after the position has been looked up, on both sides
        unfold applyChange
        simp only
        cases field.valueOf word with
        | error cause => exact .refused (.argument cause)
        | ok value =>
          exact hfound (.setField index value) (Option.map_eq_some_iff.2 ⟨_, hid, rfl⟩)
            (Option.map_eq_some_iff.2 ⟨_, hid', rfl⟩)

end Command

/-! ## Sessions -/

/-- The step that makes an edit. -/
def Grid.Edit.step : Grid.Edit Id → Step
  | .add => .add
  | .remove id => .remove id
  | .resize id edge value => .resize id edge value
  | .setField id value => .setField id value
  | .place id element side value => .place id element side value

/-- An edit by position in both of two sessions, and how many identities each session has
taken elsewhere before it. -/
structure Round where
  edit : Grid.Edit Nat
  left : Nat
  right : Nat
  deriving DecidableEq, Repr

namespace Session

/-- The session after identities have been taken for nothing. -/
def skip (s : Session) (count : Nat) : Session := s.run (List.replicate count .mint)

/-- The session after an edit by position; nothing happens where no entry stands. -/
def stepAt (s : Session) (edit : Grid.Edit Nat) : Session :=
  match s.grid.resolve edit with
  | some found => s.step found.step
  | none => s

/-- Two sessions agree on a number of edits: the outcomes of each are alike, and what is
computed from the systems at the end is the same but for identities. -/
def Agree (s t : Session) : List Round → Prop
  | [] => s.grid.BehavesLike t.grid
  | round :: rest =>
      let s := s.skip round.left
      let t := t.skip round.right
      Grid.Alike (s.grid.counterpart t.grid) (s.grid.editAt s.next round.edit)
          (t.grid.editAt t.next round.edit) ∧
        (s.stepAt round.edit).Agree (t.stepAt round.edit) rest

theorem Ahead.stepAt {s : Session} (h : s.Ahead) (edit : Grid.Edit Nat) :
    (s.stepAt edit).Ahead := by
  unfold Session.stepAt
  split
  · exact h.step _
  · exact h

theorem grid_skip (s : Session) (count : Nat) : (s.skip count).grid = s.grid := by
  unfold skip
  induction count generalizing s with
  | zero => rfl
  | succ count ih => exact ih (s.step .mint)

theorem step_eq_settle (s : Session) (edit : Grid.Edit Id) :
    ∃ next, s.step edit.step = s.settle (s.grid.edit s.next edit, next) := by
  cases edit with
  | add => exact ⟨(s.grid.add s.next).2, rfl⟩
  | _ => exact ⟨s.next, rfl⟩

/-- What is left after an edit by position is the outcome, or the system before it when the
edit is refused. -/
theorem grid_stepAt (s : Session) (edit : Grid.Edit Nat) :
    (s.stepAt edit).grid = s.grid.orKeep (s.grid.editAt s.next edit) := by
  unfold stepAt Grid.editAt
  cases s.grid.resolve edit with
  | none => rfl
  | some found =>
    obtain ⟨next, hstep⟩ := s.step_eq_settle found
    simp only [hstep, Option.map_some]
    cases s.grid.edit s.next found <;> rfl

/-! ## Runs -/

/-- Sessions whose systems have the same content agree on any number of edits. -/
theorem agree_of_snapshot_eq (rounds : List Round) {s t : Session} (hs : s.Ahead) (ht : t.Ahead)
    (hst : s.grid.snapshot = t.grid.snapshot) : s.Agree t rounds := by
  induction rounds generalizing s t with
  | nil => exact Grid.behavesLike_of_snapshot_eq hst
  | cons round rest ih =>
    -- what is taken elsewhere changes neither system, and the next identities stay ahead
    have hs := hs.run (List.replicate round.left .mint)
    have ht := ht.run (List.replicate round.right .mint)
    rw [← s.grid_skip round.left, ← t.grid_skip round.right] at hst
    have halike := Grid.alike_editAt hst hs.next_not_mem ht.next_not_mem round.edit
    refine ⟨halike, ih (hs.stepAt round.edit) (ht.stepAt round.edit) ?_⟩
    rw [grid_stepAt, grid_stepAt]
    exact halike.snapshot_orKeep hst

/-- Whatever has been done in two sessions, if it has left systems with the same content, then
edits by position do the same in both from then on: at every step both are accepted with the
same content or both are refused, with the same fault about entries at the same position, and
what is computed at the end is the same but for identities. -/
theorem agree_run (p q : List Step)
    (h : (start.run p).grid.snapshot = (start.run q).grid.snapshot) (rounds : List Round) :
    (start.run p).Agree (start.run q) rounds :=
  agree_of_snapshot_eq rounds (ahead_start.run p) (ahead_start.run q) h

/-- Two default systems whose identities are one apart agree on a boundary that cannot be moved,
a removal and an addition. -/
theorem agree_run_reset :
    (start.run [.reset]).grid.ids ≠ (start.run [.mint, .reset]).grid.ids ∧
      (start.run [.reset]).grid.snapshot = (start.run [.mint, .reset]).grid.snapshot ∧
      (start.run [.reset]).Agree (start.run [.mint, .reset])
        [⟨.resize 0 .minWidth 320, 0, 2⟩, ⟨.remove 1, 1, 0⟩, ⟨.add, 0, 0⟩] := by
  have hids : (start.run [.reset]).grid.ids ≠ (start.run [.mint, .reset]).grid.ids := by decide
  have hsnapshot :
      (start.run [.reset]).grid.snapshot = (start.run [.mint, .reset]).grid.snapshot := rfl
  exact ⟨hids, hsnapshot, agree_run _ _ hsnapshot _⟩

end Session

end ResponsiveGrid
