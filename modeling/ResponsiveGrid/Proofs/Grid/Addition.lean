import ResponsiveGrid.Proofs.Grid.Removal
import ResponsiveGrid.Proofs.Stylesheet.Determined
set_option autoImplicit false

/-!
# Grid: adding a tail

An addition cuts the tail in two: the tail keeps the first widths of its range, and a copy of it
under a new identity takes over the rest (`Entry.Cut`).  Since the copy holds what the tail
holds, the cut shows nowhere but in the list of entries: each width still has the same fields,
and so the sheet is the same (`Grid.generate_eq_of_sameFields`).  A removal of the copy joins the
two halves again (`Grid.remove_added`).
-/

namespace ResponsiveGrid

/-! ## An entry that is cut in two -/

namespace Entry

/-- Two entries hold the same in all fields but their ranges. -/
def SameFields (e e' : Entry) : Prop := e'.settings = { e.settings with range := e'.range }

/-- An entry cut in two: it keeps the first widths of its range, and the rest goes to a copy of
it under a new identity. -/
structure Cut (e : Entry) (new : Id) (kept added : Entry) : Prop where
  first : e.Resized kept
  firstEnds : kept.range.minWidth = e.range.minWidth ∧
    kept.range.maxWidth = some (e.range.minWidth + 239)
  newId : added.id = new
  copy : e.SameFields added
  copyEnds : added.range.minWidth = e.range.minWidth + 240 ∧ added.range.maxWidth = none

variable {e kept added : Entry} {new : Id}

/-- An entry is cut in two when it takes over its new end and there is a range behind it. -/
theorem cut_iff :
    e.Cut new kept added ↔
      e.patch (.maxWidth (some (e.range.minWidth + Grid.addedSpan - 1))) = .ok kept ∧
        ∃ range, WidthRange.of? (e.range.minWidth + Grid.addedSpan) none = .ok range ∧
          added.id = new ∧ added.settings = { e.settings with range := range } := by
  rw [patch_maxWidth_eq_ok_iff]
  simp only [WidthRange.of?_eq_ok_iff]
  constructor
  · intro h
    exact ⟨⟨h.first, h.firstEnds⟩, added.range, h.copyEnds, h.newId, h.copy⟩
  · rintro ⟨⟨hkept, hkeptEnds⟩, range, haddedEnds, hid, hadded⟩
    have hrange : added.range = range := congrArg Settings.range hadded
    subst hrange
    exact ⟨hkept, hkeptEnds, hid, hadded, haddedEnds⟩

theorem exists_cut_iff (e : Entry) (new : Id) :
    (∃ kept added, e.Cut new kept added) ↔ e.range.minWidth ≤ 9758 := by
  constructor
  · rintro ⟨kept, added, h⟩
    have hstart := added.range.minWidth_le
    rw [h.copyEnds.1] at hstart
    omega
  · intro h
    obtain ⟨kept, hkept⟩ := e.exists_patch (p := .maxWidth (some (e.range.minWidth + 239)))
      (WidthRange.exists_of?_between (by omega))
    obtain ⟨hresized, hends⟩ := patch_maxWidth_eq_ok_iff.1 hkept
    let range : WidthRange := ⟨e.range.minWidth + 240, none, by omega, WidthRange.unbounded _⟩
    let added : Entry := ⟨new, { e.settings with range := range }, e.valid.onRange range⟩
    exact ⟨kept, added, hresized, hends, rfl, rfl, rfl, rfl⟩

theorem Cut.meets (h : e.Cut new kept added) : kept.range.Meets added.range :=
  Grid.meets_of_eq h.firstEnds.2 h.copyEnds.1

end Entry

namespace Grid

variable {s t : Grid} {next : Id} {front : List Entry} {tail kept added : Entry}

/-! ## What an addition does -/

/-- An accepted addition to entries has cut the last of them in two. -/
theorem add_eq_ok_iff (hnext : next ∉ s.ids) (h : s.entries = front ++ [tail]) :
    (s.add next).1 = .ok t ↔
      ∃ kept added, tail.Cut next kept added ∧ t.entries = front ++ [kept, added] := by
  have hadd : (s.add next).1 = .ok t ↔ s.Yields next .add t.entries :=
    @edit_eq_ok_iff s next .add hnext t
  rw [hadd]
  constructor
  · intro hyields
    generalize hentries : t.entries = entries at hyields
    cases hyields with
    | seed hempty _ _ => simp [hempty] at h
    | tail hsplit hkept hrange hid hadded =>
      obtain ⟨rfl, htail⟩ := List.append_inj' (hsplit.symm.trans h) rfl
      cases htail
      exact ⟨_, _, Entry.cut_iff.2 ⟨hkept, _, hrange, hid, hadded⟩, rfl⟩
  · rintro ⟨kept, added, hcut, hentries⟩
    obtain ⟨hkept, range, hrange, hid, hadded⟩ := Entry.cut_iff.1 hcut
    rw [hentries]
    exact .tail h hkept hrange hid hadded

/-- An entry can be added exactly when the last one can be cut in two, if there is one. -/
theorem exists_add_iff (hnext : next ∉ s.ids) :
    (∃ t, (s.add next).1 = .ok t) ↔ ∀ tail ∈ s.last?, tail.range.minWidth ≤ 9758 := by
  unfold last?
  rcases List.eq_nil_or_concat' s.entries with h | ⟨front, tail, h⟩
  · have hseed : s.Yields next .add [⟨next, .seed, valid_seed⟩] := .seed h rfl rfl
    obtain ⟨t, ht, -⟩ := edit_of_yields hnext hseed
    refine ⟨fun _ tail htail => ?_, fun _ => ⟨t, ht⟩⟩
    rw [h] at htail
    cases htail
  · rw [h, List.getLast?_concat]
    simp only [Option.mem_some_iff, forall_eq', ← tail.exists_cut_iff next]
    constructor
    · rintro ⟨t, ht⟩
      obtain ⟨kept, added, hcut, -⟩ := (add_eq_ok_iff hnext h).1 ht
      exact ⟨kept, added, hcut⟩
    · rintro ⟨kept, added, hcut⟩
      obtain ⟨t, -, hentries⟩ := exists_lift_of_part h hcut.firstEnds.1 hcut.meets
        hcut.copyEnds.2 hcut.first.id hcut.newId hnext
      exact ⟨t, (add_eq_ok_iff hnext h).2 ⟨kept, added, hcut, hentries⟩⟩

/-! ## Where it does not show -/

/-- In a system whose tail has been cut in two, each width has the fields that it had before. -/
theorem sameFields_of_cut (h : s.entries = front ++ [tail]) (hcut : tail.Cut next kept added)
    (ht : t.entries = front ++ [kept, added]) (width : Nat) :
    Option.Rel Entry.SameFields (s.matchFor width) (t.matchFor width) := by
  have hentries : s.entries ≠ [] := by simp [h]
  have hlast : tail.range.maxWidth = none := (tiles_of_split h).maxWidth_last
  obtain ⟨f, hf, hmem, hwidth⟩ := exists_matchFor hentries width
  rw [hf]
  rw [h] at hmem
  rcases List.mem_append.1 hmem with hfront | htail
  · have hkept : f ∈ t.entries := ht ▸ List.mem_append_left _ hfront
    exact rel_matchFor hkept rfl hwidth
  · cases List.mem_singleton.1 htail
    have hjoin := hcut.meets.mem_join_iff hcut.firstEnds.1.symm
      (hlast.trans hcut.copyEnds.2.symm) width
    rcases hjoin.1 hwidth with hwidth | hwidth
    · exact rel_matchFor (mem_of_split ht) hcut.first.settings hwidth
    · have hadded := ht.trans (append_second front kept added [])
      exact rel_matchFor (mem_of_split hadded) hcut.copy hwidth

/-- Two systems with entries and with the same fields at each width have the same sheet. -/
theorem generate_eq_of_sameFields (hentries : s.entries ≠ [])
    (h : ∀ width, Option.Rel Entry.SameFields (s.matchFor width) (t.matchFor width)) :
    Stylesheet.generate t = Stylesheet.generate s := by
  have hlayout : Stylesheet.SameLayout s t := by
    intro width _
    obtain ⟨d, hd, -⟩ := exists_matchFor hentries width
    have hsame := h width
    rw [hd] at hsame
    generalize t.matchFor width = found at hsame ⊢
    cases hsame with
    | @some _ e hfields =>
      refine ⟨d, e, hd, rfl, ?_⟩
      rw [hfields, Stylesheet.look_eq_iff]
      exact ⟨rfl, rfl, rfl, rfl, rfl⟩
  exact (Stylesheet.generate_eq_of_outline_eq (Stylesheet.outline_eq_of_sameLayout hlayout)).symm

/-- A removal of the new entry joins the two halves of the tail again. -/
theorem remove_added (h : s.entries = front ++ [tail]) (hcut : tail.Cut next kept added)
    (ht : t.entries = front ++ [kept, added]) : t.remove next = .ok s := by
  have hlast : tail.range.maxWidth = none := (tiles_of_split h).maxWidth_last
  have hjoined : kept.patch (.maxWidth added.range.maxWidth) = .ok tail :=
    Entry.patch_maxWidth_eq_ok_iff.2
      ⟨hcut.first.symm, hcut.firstEnds.1.symm, hlast.trans hcut.copyEnds.2.symm⟩
  rw [← hcut.newId, remove_narrower_eq ht hjoined, lift_ofEntries?_eq_ok_iff]
  exact h

/-- A system is what another one is with its tail cut in two. -/
structure Parted (s : Grid) (front : List Entry) (tail : Entry) (new : Id) (t : Grid) : Prop where
  entries : ∃ kept added, t.entries = front ++ [kept, added] ∧ tail.Cut new kept added
  /-- each width has the fields that it had before -/
  fields : ∀ width, Option.Rel Entry.SameFields (s.matchFor width) (t.matchFor width)
  sheet : Stylesheet.generate t = Stylesheet.generate s
  undone : t.remove new = .ok s

theorem parted_of_add (hnext : next ∉ s.ids) (ht : (s.add next).1 = .ok t)
    (h : s.entries = front ++ [tail]) : s.Parted front tail next t := by
  obtain ⟨kept, added, hcut, hentries⟩ := (add_eq_ok_iff hnext h).1 ht
  have hfields := sameFields_of_cut h hcut hentries
  exact {
    entries := ⟨kept, added, hentries, hcut⟩
    fields := hfields
    sheet := generate_eq_of_sameFields (by simp [h]) hfields
    undone := remove_added h hcut hentries }

end Grid

namespace Session

/-- In every session an entry can be added exactly when there is none or the last one starts no
further than at 9758.  Its identity is none that has been taken before.  The addition has cut
the last entry in two and left the others: it shows neither in the fields that any width has nor
in the sheet, and a removal of the new entry takes it back. -/
theorem add_parts_tail (steps : List Step) :
    ((∃ t, ((start.run steps).grid.add (start.run steps).next).1 = .ok t) ↔
      ∀ tail ∈ (start.run steps).grid.last?, tail.range.minWidth ≤ 9758) ∧
    (start.run steps).next ∉ start.mintedIn steps ∧
    ∀ t, ((start.run steps).grid.add (start.run steps).next).1 = .ok t →
      ∀ front tail, (start.run steps).grid.entries = front ++ [tail] →
        (start.run steps).grid.Parted front tail (start.run steps).next t := by
  have hnext := (ahead_start.run steps).next_not_mem
  refine ⟨Grid.exists_add_iff hnext, fun htaken => ?_, fun t ht front tail h => ?_⟩
  · exact Nat.lt_irrefl _ (lt_next_of_taken steps _ htaken)
  · exact Grid.parted_of_add hnext ht h

/-- Behind the default breakpoints a sixth one can be added. -/
theorem add_parts_tail_default :
    ∃ t front tail, ((start.run [.reset]).grid.add (start.run [.reset]).next).1 = .ok t ∧
      (start.run [.reset]).grid.entries = front ++ [tail] ∧
      (start.run [.reset]).grid.Parted front tail (start.run [.reset]).next t := by
  obtain ⟨haccepted, -, hparted⟩ := add_parts_tail [.reset]
  have htail : ∀ tail ∈ (start.run [.reset]).grid.last?, tail.range.minWidth ≤ 9758 := by decide
  have hentries : (start.run [.reset]).grid.entries ≠ [] := by decide
  obtain ⟨t, ht⟩ := haccepted.2 htail
  obtain ⟨front, tail, h⟩ := (List.eq_nil_or_concat' _).resolve_left hentries
  exact ⟨t, front, tail, ht, h, hparted t ht front tail h⟩

/-- An addition to entries leaves entries and the sheet, accepted or not. -/
theorem generate_step_add {s : Session} (h : s.Ahead) (hentries : s.grid.entries ≠ []) :
    (s.step .add).grid.entries ≠ [] ∧
      Stylesheet.generate (s.step .add).grid = Stylesheet.generate s.grid := by
  have hstep : s.step .add = s.settle (s.grid.add s.next) := rfl
  rcases hadd : s.grid.add s.next with ⟨outcome, after⟩
  rw [hstep, hadd]
  cases outcome with
  | error _ => exact ⟨hentries, rfl⟩
  | ok t =>
    have ht : (s.grid.add s.next).1 = .ok t := by rw [hadd]
    obtain ⟨front, tail, hsplit⟩ := (List.eq_nil_or_concat' _).resolve_left hentries
    have hparted := Grid.parted_of_add h.next_not_mem ht hsplit
    obtain ⟨kept, added, hparts, -⟩ := hparted.entries
    have hleft : t.entries ≠ [] := by simp [hparts]
    exact ⟨hleft, hparted.sheet⟩

/-- However often an entry is added to entries, the sheet stays what it is. -/
theorem generate_run_add {s : Session} (h : s.Ahead) (hentries : s.grid.entries ≠ [])
    (count : Nat) :
    Stylesheet.generate (s.run (List.replicate count .add)).grid = Stylesheet.generate s.grid := by
  induction count generalizing s with
  | zero => rfl
  | succ count ih =>
    obtain ⟨hleft, hsheet⟩ := generate_step_add h hentries
    exact (ih (h.step .add) hleft).trans hsheet

end Session

end ResponsiveGrid
