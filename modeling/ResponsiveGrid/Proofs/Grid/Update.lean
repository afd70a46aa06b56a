import ResponsiveGrid.Proofs.Decimal.Scale
import ResponsiveGrid.Proofs.Grid.Neighbours
import ResponsiveGrid.Proofs.Grid.Outcome
set_option autoImplicit false

/-!
# Grid: updating one entry

Apart from a range, settings are eleven values: five scalar fields and two sides of each of
three demo elements.  A `Slot` is the place of one of them and an `Update` a value for one of
them.  Reading and writing keep the laws of a lens: what has been written is read back
(`Settings.get_write`), and at every other slot what was there before (`Settings.get_write_ne`).

An update checks all fields of the entry again.  Since the entry has passed this check before,
the outcome depends on what is written alone (`Settings.valid_write_iff`): a value is held
against its own bounds, and only columns and demo elements are held against each other.
-/

namespace ResponsiveGrid

/-! ## Slots -/

/-- The place of a value in settings. -/
inductive Slot where
  | contentMaxWidth
  | columns
  | gutter
  | margin
  | scale
  | side (element : Element) (side : Side)
  deriving DecidableEq, Repr

/-- A value for one slot. -/
inductive Update where
  | field (value : FieldValue)
  | place (element : Element) (side : Side) (value : Nat)
  deriving DecidableEq, Repr

/-- Where the value of a scalar field belongs. -/
def FieldValue.slot : FieldValue → Slot
  | .contentMaxWidth _ => .contentMaxWidth
  | .columns _ => .columns
  | .gutter _ => .gutter
  | .margin _ => .margin
  | .scale _ => .scale

/-- Where the value of an update belongs. -/
def Update.slot : Update → Slot
  | .field value => value.slot
  | .place element side _ => .side element side

namespace Settings

/-- What is at a slot, as the update that would put it there. -/
def get (s : Settings) : Slot → Update
  | .contentMaxWidth => .field (.contentMaxWidth s.contentMaxWidth)
  | .columns => .field (.columns s.columns)
  | .gutter => .field (.gutter s.gutter)
  | .margin => .field (.margin s.margin)
  | .scale => .field (.scale s.scale)
  | .side element side => .place element side ((s.placements.get element).get side)

/-- The settings with the value of an update in its slot. -/
def write (s : Settings) : Update → Settings
  | .field value => s.set value
  | .place element side value => s.place element side value

theorem get_write (s : Settings) (u : Update) : (s.write u).get u.slot = u := by
  cases u with
  | field value => cases value <;> rfl
  | place element side value => cases element <;> cases side <;> rfl

theorem get_write_ne (s : Settings) {u : Update} {slot : Slot} (h : slot ≠ u.slot) :
    (s.write u).get slot = s.get slot := by
  cases u with
  | field value => cases value <;> cases slot <;> first | rfl | exact absurd rfl h
  | place element side value =>
    cases slot with
    | side other face =>
      by_cases helement : other = element
      · subst helement
        have hside : face ≠ side := fun hside => h (hside ▸ rfl)
        cases other <;> cases face <;> cases side <;> first | rfl | exact absurd rfl hside
      · cases other <;> cases element <;> first | rfl | exact absurd rfl helement
    | _ => rfl

theorem range_write (s : Settings) (u : Update) : (s.write u).range = s.range := by
  cases u with
  | field value => cases value <;> rfl
  | place element side value => rfl

theorem write_onRange (s : Settings) (range : WidthRange) (u : Update) :
    { s with range := range }.write u = { s.write u with range := range } := by
  cases u with
  | field value => cases value <;> rfl
  | place element side value => rfl

theorem placement_eq_of_get {a b : Settings} {element : Element}
    (h : ∀ side, a.get (.side element side) = b.get (.side element side)) :
    a.placements.get element = b.placements.get element := by
  have hstart := (Update.place.inj (h .start)).2.2
  have hstop := (Update.place.inj (h .stop)).2.2
  cases ha : a.placements.get element
  cases hb : b.placements.get element
  simp_all [Placement.get]

/-- Settings with the same range and the same values at all slots are the same. -/
theorem eq_of_get {a b : Settings} (hrange : a.range = b.range)
    (h : ∀ slot, a.get slot = b.get slot) : a = b := by
  have hplacement : ∀ element, a.placements.get element = b.placements.get element :=
    fun element => placement_eq_of_get fun side => h (.side element side)
  have hheading1 := hplacement .heading1
  have hheading2 := hplacement .heading2
  have hparagraph := hplacement .paragraph
  have hwidth := h .contentMaxWidth
  have hcolumns := h .columns
  have hgutter := h .gutter
  have hmargin := h .margin
  have hscale := h .scale
  simp only [get, Update.field.injEq, FieldValue.contentMaxWidth.injEq,
    FieldValue.columns.injEq, FieldValue.gutter.injEq, FieldValue.margin.injEq,
    FieldValue.scale.injEq] at hwidth hcolumns hgutter hmargin hscale
  obtain ⟨_, _, _, _, _, _, ⟨_, _, _⟩⟩ := a
  obtain ⟨_, _, _, _, _, _, ⟨_, _, _⟩⟩ := b
  simp_all [Placements.get]

theorem write_comm (s : Settings) {u v : Update} (h : u.slot ≠ v.slot) :
    (s.write u).write v = (s.write v).write u := by
  refine eq_of_get ?_ fun slot => ?_
  · simp only [range_write]
  · by_cases hv : slot = v.slot
    · rw [hv, get_write, get_write_ne _ h.symm, get_write]
    · rw [get_write_ne _ hv]
      by_cases hu : slot = u.slot
      · rw [hu, get_write, get_write]
      · rw [get_write_ne _ hu, get_write_ne _ hu, get_write_ne _ hv]

/-- Of two settings, the second ones differ from the first ones by an update alone. -/
structure Updated (a : Settings) (u : Update) (b : Settings) : Prop where
  /-- the value of the update is read back -/
  written : b.get u.slot = u
  kept : ∀ slot, slot ≠ u.slot → b.get slot = a.get slot
  range : b.range = a.range

theorem updated_iff {a b : Settings} {u : Update} : a.Updated u b ↔ b = a.write u := by
  constructor
  · intro h
    refine eq_of_get (h.range.trans (a.range_write u).symm) fun slot => ?_
    by_cases hslot : slot = u.slot
    · rw [hslot, h.written, get_write]
    · rw [h.kept slot hslot, get_write_ne a hslot]
  · rintro rfl
    exact ⟨a.get_write u, fun slot hslot => get_write_ne a hslot, a.range_write u⟩

end Settings

/-! ## Bounds -/

/-- An update keeps its own bounds in given settings. -/
def Update.Fits (s : Settings) : Update → Prop
  | .field (.contentMaxWidth value) => ∀ w ∈ value, 128 ≤ w ∧ w ≤ 1920
  | .field (.columns value) =>
      (1 ≤ value ∧ value ≤ 12) ∧ ∀ element, (s.placements.get element).stop ≤ value + 1
  | .field (.gutter value) => value ≤ 256
  | .field (.margin value) => value ≤ 256
  | .field (.scale value) => value.isFinite = true ∧ 1.0 ≤ value ∧ value ≤ 2.0
  | .place element side value => ((s.placements.get element).set side value).Within s.columns

/-- Whether the bounds of an update depend on what is at a slot: columns are held against the
demo elements, and a demo element against its sides and the columns. -/
def Update.Reads : Update → Slot → Prop
  | .field (.columns _), .side _ _ => True
  | .place _ _ _, .columns => True
  | .place element _ _, .side other _ => other = element
  | _, _ => False

/-- Whether an update keeps its own bounds is seen at the slots that it reads. -/
theorem Update.fits_congr {a b : Settings} {u : Update}
    (h : ∀ slot, u.Reads slot → a.get slot = b.get slot) : u.Fits a ↔ u.Fits b := by
  cases u with
  | field value =>
    cases value with
    | columns value =>
      have hplacement : ∀ element, a.placements.get element = b.placements.get element :=
        fun element => Settings.placement_eq_of_get fun side => h (.side element side) trivial
      simp only [Fits, hplacement]
    | _ => rfl
  | place element side value =>
    have hplacement : a.placements.get element = b.placements.get element :=
      Settings.placement_eq_of_get fun side => h (.side element side) rfl
    have hcolumns : a.columns = b.columns :=
      FieldValue.columns.inj (Update.field.inj (h .columns trivial))
    simp only [Fits, hplacement, hcolumns]

namespace Settings

theorem valid_place_iff {s : Settings} (h : s.Valid) (element : Element) (side : Side)
    (value : Nat) : (s.place element side value).Valid ↔
      ((s.placements.get element).set side value).Within s.columns := by
  have hget : ∀ other, (s.place element side value).placements.get other =
      if other = element then (s.placements.get element).set side value
      else s.placements.get other := s.placements.get_set element _
  constructor
  · intro hplace
    have hwithin := hplace.placements element
    rwa [hget, if_pos rfl] at hwithin
  · intro hwithin
    refine ⟨h.contentMaxWidth, h.columns, h.gutter, h.margin, h.scale, fun other => ?_⟩
    rw [hget]
    split
    · exact hwithin
    · exact h.placements other

/-- Settings within bounds stay so exactly when what is written keeps its own bounds. -/
theorem valid_write_iff {s : Settings} (h : s.Valid) (u : Update) :
    (s.write u).Valid ↔ u.Fits s := by
  cases u with
  | place element side value => exact valid_place_iff h element side value
  | field value =>
    constructor
    · intro hset
      cases value with
      | contentMaxWidth value => exact hset.contentMaxWidth
      | columns value => exact ⟨hset.columns, fun element => (hset.placements element).2.2⟩
      | gutter value => exact hset.gutter
      | margin value => exact hset.margin
      | scale value =>
        obtain ⟨hlow, hhigh⟩ := hset.scale
        exact ⟨Decimal.isFinite_of_between hlow hhigh, hlow, hhigh⟩
    · intro hfits
      cases value with
      | contentMaxWidth value =>
        exact ⟨hfits, h.columns, h.gutter, h.margin, h.scale, h.placements⟩
      | columns value =>
        -- the sides of an element are in order already, so only where it ends can be wrong
        refine ⟨h.contentMaxWidth, hfits.1, h.gutter, h.margin, h.scale, fun element => ?_⟩
        obtain ⟨hfirst, horder, -⟩ := h.placements element
        exact ⟨hfirst, horder, hfits.2 element⟩
      | gutter value => exact ⟨h.contentMaxWidth, h.columns, hfits, h.margin, h.scale, h.placements⟩
      | margin value => exact ⟨h.contentMaxWidth, h.columns, h.gutter, hfits, h.scale, h.placements⟩
      | scale value =>
        exact ⟨h.contentMaxWidth, h.columns, h.gutter, h.margin, hfits.2, h.placements⟩

end Settings

/-! ## Entries and systems -/

/-- The entry after an update, or the first thing wrong with it. -/
def Update.apply (u : Update) (e : Entry) : Except Violation Entry :=
  Entry.of? e.id (e.settings.write u)

namespace Update

/-- An accepted update leaves the entry with what it has written. -/
theorem apply_eq_ok_iff {u : Update} {e e' : Entry} :
    u.apply e = .ok e' ↔ e'.id = e.id ∧ e'.settings = e.settings.write u :=
  Entry.of?_eq_ok_iff

theorem exists_apply_iff {u : Update} {e : Entry} :
    (∃ e', u.apply e = .ok e') ↔ u.Fits e.settings := by
  rw [← Settings.valid_write_iff e.valid]
  constructor
  · rintro ⟨e', he'⟩
    rw [← (apply_eq_ok_iff.1 he').2]
    exact e'.valid
  · intro h
    exact ⟨⟨e.id, e.settings.write u, h⟩, apply_eq_ok_iff.2 ⟨rfl, rfl⟩⟩

end Update

namespace Grid

/-- Updates one entry. -/
def update (s : Grid) (id : Id) : Update → Except EditFault Grid
  | .field value => s.setField id value
  | .place element side value => s.place id element side value

theorem update_eq_change (s : Grid) (id : Id) (u : Update) :
    s.update id u = s.change id u.apply := by
  cases u <;> rfl

section

variable {s t : Grid} {front back : List Entry} {e : Entry} {u : Update}

theorem update_eq_ok_iff (h : s.entries = front ++ e :: back) :
    s.update e.id u = .ok t ↔ ∃ e', u.apply e = .ok e' ∧ t.entries = front ++ e' :: back := by
  rw [update_eq_change]
  cases he : u.apply e with
  | error v =>
    rw [change_eq_error h he]
    simp
  | ok e' =>
    rw [change_eq h he, lift_ofEntries?_eq_ok_iff]
    simp

theorem exists_update_eq {e' : Entry} (h : s.entries = front ++ e :: back)
    (he : u.apply e = .ok e') :
    ∃ t, s.update e.id u = .ok t ∧ t.entries = front ++ e' :: back := by
  obtain ⟨hid, hsettings⟩ := Update.apply_eq_ok_iff.1 he
  have hrange : e'.range = e.range :=
    (congrArg Settings.range hsettings).trans (e.settings.range_write u)
  rw [update_eq_change]
  exact exists_change_eq h he hid hrange

/-- The entry of an identity can be updated exactly when the update keeps its own bounds. -/
theorem exists_update_iff (h : s.entries = front ++ e :: back) :
    (∃ t, s.update e.id u = .ok t) ↔ u.Fits e.settings := by
  rw [← Update.exists_apply_iff]
  constructor
  · rintro ⟨t, ht⟩
    obtain ⟨e', he', -⟩ := (update_eq_ok_iff h).1 ht
    exact ⟨e', he'⟩
  · rintro ⟨e', he'⟩
    obtain ⟨t, ht, -⟩ := exists_update_eq h he'
    exact ⟨t, ht⟩

theorem exists_split_of_update {id : Id} (h : s.update id u = .ok t) :
    ∃ front e back, s.entries = front ++ e :: back ∧ e.id = id := by
  rw [update_eq_change] at h
  obtain ⟨index, e, -, hindex, -⟩ := entries_of_change h
  by_contra hnone
  have hid : id ∉ s.ids := fun hid => hnone (exists_split hid)
  cases hindex.symm.trans (indexOf?_eq_none hid)

end

/-- A scalar field or a side of a demo element can be replaced exactly when there is an entry
of the identity and the new value keeps its own bounds: those of the field, with the ends of
all demo elements within the columns when it is these that are replaced, and those of the
placement that the new side makes.  The entries are then the same in the same order, and all
that has changed is the one value in the one entry. -/
theorem update_exact (s : Grid) (id : Id) (u : Update) :
    ((∃ t, s.update id u = .ok t) ↔ ∃ e, s.find? id = some e ∧ u.Fits e.settings) ∧
    ∀ t, s.update id u = .ok t →
      ∃ front e back e', s.entries = front ++ e :: back ∧ e.id = id ∧
        t.entries = front ++ e' :: back ∧ e'.id = id ∧ e.settings.Updated u e'.settings := by
  refine ⟨⟨?_, ?_⟩, ?_⟩
  · rintro ⟨t, ht⟩
    obtain ⟨front, e, back, hsplit, rfl⟩ := exists_split_of_update ht
    exact ⟨e, find?_split hsplit, (exists_update_iff hsplit).1 ⟨t, ht⟩⟩
  · rintro ⟨e, he, hfits⟩
    obtain ⟨hmem, rfl⟩ := find?_eq_some_iff.1 he
    obtain ⟨front, back, hsplit⟩ := List.append_of_mem hmem
    exact (exists_update_iff hsplit).2 hfits
  · intro t ht
    obtain ⟨front, e, back, hsplit, rfl⟩ := exists_split_of_update ht
    obtain ⟨e', he', hentries⟩ := (update_eq_ok_iff hsplit).1 ht
    obtain ⟨hid, hsettings⟩ := Update.apply_eq_ok_iff.1 he'
    exact ⟨front, e, back, e', hsplit, rfl, hentries, hid, Settings.updated_iff.2 hsettings⟩

/-- The second of the default breakpoints can be given ten columns, and all that has changed
then is this number. -/
theorem update_exact_default :
    ∃ t, (reset 1).1.update 2 (.field (.columns 10)) = .ok t ∧
      ∃ front e back e', (reset 1).1.entries = front ++ e :: back ∧ e.id = 2 ∧
        t.entries = front ++ e' :: back ∧ e'.id = 2 ∧
        e.settings.Updated (.field (.columns 10)) e'.settings := by
  obtain ⟨t, ht⟩ : ∃ t, (reset 1).1.update 2 (.field (.columns 10)) = .ok t :=
    exists_ok_of_isOk (by decide)
  exact ⟨t, ht, (update_exact (reset 1).1 2 (.field (.columns 10))).2 t ht⟩

/-- Some of its demo elements end behind the eighth column, and no scale is no number. -/
example : ((reset 1).1.update 2 (.field (.columns 7))).isOk = false ∧
    ((reset 1).1.update 2 (.field (.scale (0.0 / 0.0)))).isOk = false := by
  decide

end Grid

end ResponsiveGrid
