import ResponsiveGrid.Fault
set_option autoImplicit false

/-!
# WidthRange: a closed interval of viewport widths

A range has a least width and either a greatest width or none; without one it goes
on for ever.  The bounds that every range keeps are proof fields, so that a range
with nothing in it cannot be built.  `WidthRange.of?` is the only way from two
numbers to a range and says which bound they break.
-/

namespace ResponsiveGrid

/-- The greatest width that a range may end at. -/
def widthLimit : Nat := 9999

/-- The widths from `minWidth` to `maxWidth`, both included. -/
structure WidthRange where
  minWidth : Nat
  /-- none when the range goes on for ever -/
  maxWidth : Option Nat
  minWidth_le : minWidth ≤ 9998
  maxWidth_bounds : ∀ m ∈ maxWidth, minWidth < m ∧ m ≤ 9999
  deriving DecidableEq, Repr

/-- A replacement for one end of a range. -/
inductive RangePatch where
  | minWidth (value : Nat)
  | maxWidth (value : Option Nat)
  deriving DecidableEq, Repr, Inhabited

namespace WidthRange

/-! ## The bounds -/

theorem unbounded (minWidth : Nat) : ∀ m ∈ (none : Option Nat), minWidth < m ∧ m ≤ 9999 := by
  simp

theorem bounded {minWidth m : Nat} (h : minWidth < m ∧ m ≤ 9999) :
    ∀ k ∈ some m, minWidth < k ∧ k ≤ 9999 := by
  intro k hk
  cases hk
  exact h

theorem minWidth_le_of_bounded {minWidth m : Nat} (h : minWidth < m ∧ m ≤ 9999) :
    minWidth ≤ 9998 := by
  omega

theorem between_of_not {minWidth m : Nat} (hm : ¬ (m < 1 ∨ 9999 < m)) (hlt : ¬ m ≤ minWidth) :
    minWidth < m ∧ m ≤ 9999 := by
  omega

/-! ## Ranges from numbers -/

/-- The widths from one width on. -/
def onward (minWidth : Nat) (h : minWidth ≤ 9998) : WidthRange :=
  ⟨minWidth, none, h, unbounded minWidth⟩

/-- The widths between two widths. -/
def between (minWidth maxWidth : Nat) (h : minWidth < maxWidth ∧ maxWidth ≤ 9999) :
    WidthRange :=
  ⟨minWidth, some maxWidth, minWidth_le_of_bounded h, bounded h⟩

/-- All widths. -/
def full : WidthRange := onward 0 (Nat.zero_le 9998)

instance : Inhabited WidthRange := ⟨full⟩

/-- The range between two widths, or the bound that they break.  The least width is
looked at first, then the greatest, then their order. -/
def of? (minWidth : Nat) (maxWidth : Option Nat) : Except Violation WidthRange :=
  if hmin : 9998 < minWidth then .error (.minWidthOutOfRange minWidth)
  else
    match maxWidth with
    | none => .ok (onward minWidth (Nat.le_of_not_lt hmin))
    | some m =>
        if hm : m < 1 ∨ 9999 < m then .error (.maxWidthOutOfRange m)
        else if hlt : m ≤ minWidth then .error (.emptyRange minWidth m)
        else .ok (between minWidth m (between_of_not hm hlt))

/-- Whether the range starts at the narrowest width. -/
def isFromStart (r : WidthRange) : Bool := r.minWidth == 0

/-- Whether the range goes on for ever. -/
def isToEnd (r : WidthRange) : Bool := r.maxWidth.isNone

/-- A width lies in the range. -/
def Mem (r : WidthRange) (width : Nat) : Prop :=
  r.minWidth ≤ width ∧ ∀ m ∈ r.maxWidth, width ≤ m

instance (r : WidthRange) (width : Nat) : Decidable (r.Mem width) :=
  inferInstanceAs (Decidable (_ ∧ _))

/-- Whether a width lies in the range. -/
def matches? (r : WidthRange) (width : Nat) : Bool := decide (r.Mem width)

@[simp] theorem matches?_iff (r : WidthRange) (width : Nat) :
    r.matches? width = true ↔ r.Mem width := by
  simp [matches?]

/-- How a range is shown: both ends, or the least width and a plus sign. -/
def label (r : WidthRange) : String :=
  let least := r.minWidth
  match r.maxWidth with
  | some m => s!"{least} – {m}"
  | none => s!"{least} +"

/-- The range with one end replaced. -/
def patch (r : WidthRange) : RangePatch → Except Violation WidthRange
  | .minWidth value => of? value r.maxWidth
  | .maxWidth value => of? r.minWidth value

/-- Two ends make a range exactly when they keep the bounds, and then that range. -/
theorem of?_eq_ok_iff {minWidth : Nat} {maxWidth : Option Nat} {r : WidthRange} :
    of? minWidth maxWidth = .ok r ↔
      r.minWidth = minWidth ∧ r.maxWidth = maxWidth := by
  constructor
  · intro h
    unfold of? at h
    split at h
    · cases h
    · split at h
      · cases h; exact ⟨rfl, rfl⟩
      · split at h
        · cases h
        · split at h
          · cases h
          · cases h; exact ⟨rfl, rfl⟩
  · rintro ⟨rfl, rfl⟩
    have hmin := r.minWidth_le
    have hmax := r.maxWidth_bounds
    unfold of?
    rw [dif_neg (by omega)]
    split
    · next heq => cases r; simp_all [onward]
    · next m heq =>
        have hm := hmax m (by simp [heq])
        rw [dif_neg (by omega), dif_neg (by omega)]
        cases r; simp_all [between]

end WidthRange

end ResponsiveGrid
