import ResponsiveGrid.Grid.Edit
import ResponsiveGrid.Proofs.Bounds
set_option autoImplicit false

/-!
# Grid: what an accepted edit has done

For each edit the list of entries that it leaves when it is accepted, in terms of the
entries before.  Every later statement about accepted edits starts from these
inversions; the closing check of the partition appears in none of them, since the
result is a system and has passed it.
-/

namespace ResponsiveGrid

theorem exists_ok_of_isOk {ε α : Type} {x : Except ε α} (h : x.isOk = true) :
    ∃ a, x = .ok a := by
  cases x with
  | ok a => exact ⟨a, rfl⟩
  | error _ => cases h

/-- The identities of the entries of a system, narrowest entry first. -/
def Grid.ids (s : Grid) : List Id := s.entries.map Entry.id

/-! ## One entry -/

namespace Entry

/-- An accepted change of an end of the range changes the range alone. -/
theorem patch_eq_ok_iff {e e' : Entry} {p : RangePatch} :
    e.patch p = .ok e' ↔ ∃ range, e.range.patch p = .ok range ∧ e' = e.onRange range := by
  unfold patch
  cases h : e.range.patch p with
  | ok range => simp [eq_comm]
  | error v => simp

theorem id_of_patch {e e' : Entry} {p : RangePatch} (h : e.patch p = .ok e') :
    e'.id = e.id := by
  obtain ⟨range, -, rfl⟩ := patch_eq_ok_iff.1 h
  rfl

theorem exists_patch {e : Entry} {p : RangePatch} (h : ∃ range, e.range.patch p = .ok range) :
    ∃ e', e.patch p = .ok e' := by
  obtain ⟨range, hrange⟩ := h
  exact ⟨e.onRange range, patch_eq_ok_iff.2 ⟨range, hrange, rfl⟩⟩

theorem patch_eq_error_iff {e : Entry} {p : RangePatch} {v : Violation} :
    e.patch p = .error v ↔ e.range.patch p = .error v := by
  unfold patch
  cases h : e.range.patch p with
  | ok range => simp
  | error w => simp

/-- A new least width is refused for the first bound that it breaks. -/
theorem patch_minWidth_eq_error_iff {e : Entry} {value : Nat} {v : Violation} :
    e.patch (.minWidth value) = .error v ↔ WidthRange.Broken value e.range.maxWidth v :=
  patch_eq_error_iff.trans WidthRange.of?_eq_error_iff

theorem patch_maxWidth_eq_error_iff {e : Entry} {value : Option Nat} {v : Violation} :
    e.patch (.maxWidth value) = .error v ↔ WidthRange.Broken e.range.minWidth value v :=
  patch_eq_error_iff.trans WidthRange.of?_eq_error_iff

theorem range_of_patch {e e' : Entry} {p : RangePatch} (h : e.patch p = .ok e') :
    e.range.patch p = .ok e'.range := by
  obtain ⟨range, hrange, rfl⟩ := patch_eq_ok_iff.1 h
  exact hrange

theorem ends_of_patch_minWidth {e e' : Entry} {value : Nat}
    (h : e.patch (.minWidth value) = .ok e') :
    e'.range.minWidth = value ∧ e'.range.maxWidth = e.range.maxWidth :=
  WidthRange.of?_eq_ok_iff.1 (range_of_patch h)

theorem ends_of_patch_maxWidth {e e' : Entry} {value : Option Nat}
    (h : e.patch (.maxWidth value) = .ok e') :
    e'.range.minWidth = e.range.minWidth ∧ e'.range.maxWidth = value :=
  WidthRange.of?_eq_ok_iff.1 (range_of_patch h)

theorem id_of_setField {e e' : Entry} {value : FieldValue} (h : e.setField value = .ok e') :
    e'.id = e.id :=
  (of?_eq_ok_iff.1 h).1

theorem id_of_place {e e' : Entry} {element : Element} {side : Side} {value : Nat}
    (h : e.place element side value = .ok e') : e'.id = e.id :=
  (of?_eq_ok_iff.1 h).1

theorem range_of_setField {e e' : Entry} {value : FieldValue}
    (h : e.setField value = .ok e') : e'.range = e.range := by
  have hrange : (e.settings.set value).range = e.settings.range := by cases value <;> rfl
  rw [range, (of?_eq_ok_iff.1 h).2, hrange, range]

theorem range_of_place {e e' : Entry} {element : Element} {side : Side} {value : Nat}
    (h : e.place element side value = .ok e') : e'.range = e.range := by
  rw [range, (of?_eq_ok_iff.1 h).2]
  rfl

end Entry

/-! ## Lists of entries -/

theorem map_id_set {entries : List Entry} {index : Nat} {e e' : Entry}
    (he : entries[index]? = some e) (hid : e'.id = e.id) :
    (entries.set index e').map Entry.id = entries.map Entry.id := by
  rw [List.map_set, hid]
  apply List.ext_getElem?
  intro i
  rw [List.getElem?_set, List.getElem?_map]
  split
  · next h =>
    subst h
    obtain ⟨hlt, hget⟩ := List.getElem?_eq_some_iff.1 he
    simp [hlt, hget]
  · rfl

theorem patchAt_eq_ok_iff {entries entries' : List Entry} {index : Nat} {p : RangePatch} :
    Grid.patchAt entries index p = .ok entries' ↔
      entries[index]? = none ∧ entries' = entries ∨
      ∃ e e', entries[index]? = some e ∧ e.patch p = .ok e' ∧
        entries' = entries.set index e' := by
  unfold Grid.patchAt
  cases he : entries[index]? with
  | none => simp [eq_comm]
  | some e =>
    cases hp : e.patch p with
    | ok e' => simp [hp, eq_comm]
    | error v => simp [hp]

theorem map_id_of_patchAt {entries entries' : List Entry} {index : Nat} {p : RangePatch}
    (h : Grid.patchAt entries index p = .ok entries') :
    entries'.map Entry.id = entries.map Entry.id := by
  rcases patchAt_eq_ok_iff.1 h with ⟨-, rfl⟩ | ⟨e, e', he, hp, rfl⟩
  · rfl
  · exact map_id_set he (Entry.id_of_patch hp)

namespace Grid

/-- The closing check of an edit passes for the entries of the resulting system. -/
theorem lift_ofEntries?_eq_ok_iff {entries : List Entry} {s : Grid} :
    lift (ofEntries? entries) = .ok s ↔ s.entries = entries := by
  rw [← ofEntries?_eq_ok_iff]
  cases ofEntries? entries with
  | ok t => simp [lift]
  | error v => simp [lift]

/-! ## The edits -/

/-- An accepted move of a boundary has patched two ranges, one after the other. -/
theorem entries_of_resize {s s' : Grid} {id : Id} {edge : Edge} {value : Nat}
    (h : s.resize id edge value = .ok s') :
    ∃ index p neighbour facing patched, s.indexOf? id = some index ∧
      patchAt s.entries index p = .ok patched ∧
      patchAt patched neighbour facing = .ok s'.entries := by
  have hmove : ∀ {index neighbour : Nat} {p facing : RangePatch},
      s.moveBoundary index p neighbour facing = .ok s' →
      ∃ patched, patchAt s.entries index p = .ok patched ∧
        patchAt patched neighbour facing = .ok s'.entries := by
    intro index neighbour p facing h
    unfold moveBoundary at h
    split at h
    · cases h
    · next patched hp =>
      split at h
      · cases h
      · next entries hq =>
        rw [lift_ofEntries?_eq_ok_iff] at h
        exact ⟨patched, hp, h ▸ hq⟩
  unfold resize at h
  split at h
  · cases h
  · next index hindex =>
    cases edge with
    | minWidth =>
      simp only at h
      split at h
      · cases h
      · split at h
        · cases h
        · obtain ⟨patched, hp, hq⟩ := hmove h
          exact ⟨index, _, _, _, patched, hindex, hp, hq⟩
    | maxWidth =>
      simp only at h
      split at h
      · cases h
      · split at h
        · cases h
        · obtain ⟨patched, hp, hq⟩ := hmove h
          exact ⟨index, _, _, _, patched, hindex, hp, hq⟩

/-- An accepted change of one entry has replaced it by the outcome of the change. -/
theorem entries_of_change {s s' : Grid} {id : Id} {edit : Entry → Except Violation Entry}
    (h : s.change id edit = .ok s') :
    ∃ index e e', s.indexOf? id = some index ∧ s.entries[index]? = some e ∧
      edit e = .ok e' ∧ s'.entries = s.entries.set index e' := by
  unfold change at h
  split at h
  · cases h
  · next index hindex =>
    split at h
    · cases h
    · next e he =>
      split at h
      · cases h
      · next e' he' =>
        exact ⟨index, e, e', hindex, he, he', lift_ofEntries?_eq_ok_iff.1 h⟩

/-- An accepted removal has dropped one entry and may have patched one other. -/
theorem entries_of_remove {s s' : Grid} {id : Id} (h : s.remove id = .ok s') :
    ∃ index removed, s.indexOf? id = some index ∧ s.entries[index]? = some removed ∧
      (s'.entries = s.entries.eraseIdx index ∨
        ∃ neighbour p, patchAt (s.entries.eraseIdx index) neighbour p = .ok s'.entries) := by
  unfold remove at h
  split at h
  · cases h
  · next index hindex =>
    split at h
    · cases h
    · next removed hremoved =>
      refine ⟨index, removed, hindex, hremoved, ?_⟩
      simp only at h
      split at h
      · cases h
      · next entries habsorbed =>
        rw [lift_ofEntries?_eq_ok_iff] at h
        rw [h]
        split at habsorbed
        · exact .inr ⟨_, _, habsorbed⟩
        · split at habsorbed
          · exact .inr ⟨_, _, habsorbed⟩
          · cases habsorbed
            exact .inl rfl

/-- An accepted addition has taken one identity, for a seed in an empty system and else
for a copy of the tail behind the shortened tail. -/
theorem entries_of_add {s s' : Grid} {next after : Id} (h : s.add next = (.ok s', after)) :
    after = next + 1 ∧
      ((s.entries = [] ∧ ∃ e, e.id = next ∧ s'.entries = [e]) ∨
        ∃ front tail shrunk added, s.entries = front ++ [tail] ∧ shrunk.id = tail.id ∧
          added.id = next ∧ s'.entries = front ++ [shrunk, added]) := by
  unfold add at h
  split at h
  · next hlast =>
    split at h
    · cases h
    · next e he =>
      obtain ⟨hs, rfl⟩ := Prod.mk.inj h
      refine ⟨rfl, .inl ⟨List.getLast?_eq_none_iff.1 hlast, e, (Entry.of?_eq_ok_iff.1 he).1, ?_⟩⟩
      exact lift_ofEntries?_eq_ok_iff.1 hs
  · next tail hlast =>
    simp only at h
    split at h
    · cases h
    · next shrunk hshrunk =>
      split at h
      · cases h
      · next range hrange =>
        split at h
        · cases h
        · next added hadded =>
          obtain ⟨hs, rfl⟩ := Prod.mk.inj h
          obtain ⟨front, hfront⟩ := List.getLast?_eq_some_iff.1 hlast
          refine ⟨rfl, .inr ⟨front, tail, shrunk, added, hfront, Entry.id_of_patch hshrunk,
            (Entry.of?_eq_ok_iff.1 hadded).1, ?_⟩⟩
          rw [lift_ofEntries?_eq_ok_iff.1 hs, hfront, List.dropLast_concat]

theorem next_of_add (s : Grid) (next : Id) :
    next ≤ (s.add next).2 ∧ (s.add next).2 ≤ next + 1 := by
  unfold add
  split
  · split <;> simp
  · simp only
    split
    · simp
    · split
      · simp
      · split <;> simp

/-! ## Systems from content -/

/-- Entries that are made from settings have the next identities, in order, and the
settings they are made from. -/
theorem mintAll_eq_ok {settings : List Settings} {next after : Id} {entries : List Entry}
    (h : mintAll next settings = (.ok entries, after)) :
    entries.map Entry.id = List.range' next settings.length ∧
      entries.map Entry.settings = settings ∧ after = next + settings.length := by
  induction settings generalizing next entries with
  | nil =>
    cases h
    simp
  | cons first rest ih =>
    unfold mintAll at h
    split at h
    · cases h
    · next e he =>
      split at h
      · cases h
      · next others after' hrest =>
        cases h
        obtain ⟨hids, hsettings, hafter⟩ := ih hrest
        obtain ⟨hid, hfirst⟩ := Entry.of?_eq_ok_iff.1 he
        refine ⟨?_, ?_, ?_⟩
        · rw [List.map_cons, hid, hids, List.length_cons, List.range'_succ]
        · rw [List.map_cons, hfirst, hsettings]
        · rw [hafter, List.length_cons, Nat.add_assoc, Nat.add_comm 1]

theorem exists_mintAll {settings : List Settings} (h : ∀ b ∈ settings, b.Valid) (next : Id) :
    ∃ entries after, mintAll next settings = (.ok entries, after) := by
  induction settings generalizing next with
  | nil => exact ⟨[], next, rfl⟩
  | cons first rest ih =>
    obtain ⟨entries, after, hrest⟩ := ih (fun b hb => h b (List.mem_cons_of_mem first hb)) (next + 1)
    let e : Entry := ⟨next, first, h first List.mem_cons_self⟩
    have hfirst : Entry.of? next first = .ok e := Entry.of?_eq_ok_iff.2 ⟨rfl, rfl⟩
    refine ⟨e :: entries, after, ?_⟩
    rw [mintAll, hfirst]
    simp only [hrest]

theorem le_mintAll (next : Id) (settings : List Settings) : next ≤ (mintAll next settings).2 := by
  induction settings generalizing next with
  | nil => simp [mintAll]
  | cons first rest ih =>
    have hrest := ih (next + 1)
    unfold mintAll
    split
    · simp
    · split
      · next hmint => rw [hmint] at hrest; exact Nat.le_of_succ_le hrest
      · next hmint => rw [hmint] at hrest; exact Nat.le_of_succ_le hrest

/-- A system made from content has this content, under the next identities in order. -/
theorem ofSnapshot?_eq_ok {content : Snapshot} {next after : Id} {s : Grid}
    (h : ofSnapshot? next content = (.ok s, after)) :
    s.ids = List.range' next content.breakpoints.length ∧ s.snapshot = content ∧
      after = next + content.breakpoints.length := by
  unfold ofSnapshot? at h
  split at h
  · cases h
  · next entries after' hmint =>
    obtain ⟨hs, rfl⟩ := Prod.mk.inj h
    obtain ⟨hids, hsettings, hafter⟩ := mintAll_eq_ok hmint
    rw [ofEntries?_eq_ok_iff] at hs
    exact ⟨by rw [ids, hs, hids], by rw [snapshot, hs, hsettings], hafter⟩

theorem le_ofSnapshot? (next : Id) (content : Snapshot) :
    next ≤ (ofSnapshot? next content).2 := by
  have hmint := le_mintAll next content.breakpoints
  unfold ofSnapshot?
  split
  · next h => rw [h] at hmint; exact hmint
  · next h => rw [h] at hmint; exact hmint

end Grid

end ResponsiveGrid
