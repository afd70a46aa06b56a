import ResponsiveGrid.Settings
set_option autoImplicit false

/-!
# Entry: checked settings with an identity

An entry of a grid system is a breakpoint whose settings are within bounds.  Every
change of a field checks all of them again; a change of the range checks the range
alone, since no other field depends on it.
-/

namespace ResponsiveGrid

/-- A breakpoint of a grid system. -/
structure Entry where
  id : Id
  settings : Settings
  valid : settings.Valid
  deriving DecidableEq

namespace Entry

/-- The entry with given settings, or the first of them that is out of bounds. -/
def of? (id : Id) (settings : Settings) : Except Violation Entry :=
  match h : settings.check with
  | .ok () => .ok ⟨id, settings, Settings.valid_of_check h⟩
  | .error v => .error v

theorem of?_eq_ok_iff {id : Id} {settings : Settings} {e : Entry} :
    of? id settings = .ok e ↔ e.id = id ∧ e.settings = settings := by
  constructor
  · intro h
    unfold of? at h
    split at h
    · cases h; exact ⟨rfl, rfl⟩
    · cases h
  · rintro ⟨rfl, rfl⟩
    have hcheck := e.settings.check_eq_ok_iff.2 e.valid
    unfold of?
    split
    · rfl
    · next v hv => rw [hv] at hcheck; cases hcheck

theorem of?_eq_error_iff {id : Id} {settings : Settings} {v : Violation} :
    of? id settings = .error v ↔ settings.check = .error v := by
  unfold of?
  split
  · next h => simp [h]
  · next h => simp [h]

/-- The widths that an entry is for. -/
def range (e : Entry) : WidthRange := e.settings.range

/-- The entry with one scalar field replaced. -/
def setField (e : Entry) (value : FieldValue) : Except Violation Entry :=
  of? e.id (e.settings.set value)

/-- The entry with one side of one demo element replaced. -/
def place (e : Entry) (element : Element) (side : Side) (value : Nat) :
    Except Violation Entry :=
  of? e.id (e.settings.place element side value)

/-- The entry on another range. -/
def onRange (e : Entry) (range : WidthRange) : Entry where
  id := e.id
  settings := { e.settings with range := range }
  valid := e.valid.onRange range

/-- The entry with one end of its range replaced. -/
def patch (e : Entry) (p : RangePatch) : Except Violation Entry :=
  match e.range.patch p with
  | .ok range => .ok (e.onRange range)
  | .error v => .error v

end Entry

end ResponsiveGrid
