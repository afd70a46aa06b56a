import ResponsiveGrid.WidthRange
set_option autoImplicit false

/-!
# Settings: what is configured for one breakpoint

`Settings` are the fields of one breakpoint without an identity.  Apart from its
range, which cannot be wrong, any number may stand in them; `Settings.Valid` says
which numbers are within bounds, and `Settings.check` finds the first field that is
not, in a fixed order.
-/

namespace ResponsiveGrid

theorem refuse_eq_ok_iff {p : Prop} [Decidable p] {v : Violation} {rest : Except Violation Unit} :
    (if p then .error v else rest) = .ok () ↔ ¬ p ∧ rest = .ok () := by
  by_cases hp : p
  · simp [hp]
  · simp [hp]

/-- The column lines that a demo element occupies, from `start` up to `stop`. -/
structure Placement where
  start : Nat
  stop : Nat
  deriving DecidableEq, Repr, Inhabited

namespace Placement

/-- The column line on one side. -/
def get (p : Placement) : Side → Nat
  | .start => p.start
  | .stop => p.stop

/-- The placement with the column line of one side replaced. -/
def set (p : Placement) (side : Side) (value : Nat) : Placement :=
  match side with
  | .start => { p with start := value }
  | .stop => { p with stop := value }

/-- A placement occupies at least one of `columns` columns.  Column lines count from
one, and there is one more of them than there are columns. -/
def Within (p : Placement) (columns : Nat) : Prop :=
  1 ≤ p.start ∧ p.start < p.stop ∧ p.stop ≤ columns + 1

instance (p : Placement) (columns : Nat) : Decidable (p.Within columns) :=
  inferInstanceAs (Decidable (_ ∧ _ ∧ _))

/-- The first thing wrong with a placement: a side that is no column line, then the
order of the two. -/
def check (p : Placement) (element : Element) (columns : Nat) : Except Violation Unit :=
  let max := columns + 1
  if p.start < 1 ∨ max < p.start then
    .error (.offsetOutOfRange element .start p.start max)
  else if p.stop < 1 ∨ max < p.stop then
    .error (.offsetOutOfRange element .stop p.stop max)
  else if p.stop ≤ p.start then .error (.offsetMisordered element p.start p.stop)
  else .ok ()

theorem check_eq_ok_iff (p : Placement) (element : Element) (columns : Nat) :
    p.check element columns = .ok () ↔ p.Within columns := by
  unfold check Within
  simp only [refuse_eq_ok_iff, and_true]
  omega

end Placement

/-- The placements of all demo elements. -/
structure Placements where
  heading1 : Placement
  heading2 : Placement
  paragraph : Placement
  deriving DecidableEq, Repr, Inhabited

namespace Placements

/-- The placement of an element. -/
def get (p : Placements) : Element → Placement
  | .heading1 => p.heading1
  | .heading2 => p.heading2
  | .paragraph => p.paragraph

/-- The placements with that of one element replaced. -/
def set (p : Placements) (element : Element) (value : Placement) : Placements :=
  match element with
  | .heading1 => { p with heading1 := value }
  | .heading2 => { p with heading2 := value }
  | .paragraph => { p with paragraph := value }

@[simp] theorem get_set (p : Placements) (element : Element) (value : Placement)
    (other : Element) :
    (p.set element value).get other = if other = element then value else p.get other := by
  cases element <;> cases other <;> rfl

theorem forall_within_iff (p : Placements) (columns : Nat) :
    (∀ element, (p.get element).Within columns) ↔
      p.heading1.Within columns ∧ p.heading2.Within columns ∧ p.paragraph.Within columns := by
  constructor
  · intro h
    exact ⟨h .heading1, h .heading2, h .paragraph⟩
  · rintro ⟨h1, h2, h3⟩ element
    cases element with
    | heading1 => exact h1
    | heading2 => exact h2
    | paragraph => exact h3

end Placements

/-- A new value for one scalar field. -/
inductive FieldValue where
  | contentMaxWidth (value : Option Nat)
  | columns (value : Nat)
  | gutter (value : Nat)
  | margin (value : Nat)
  | scale (value : Float)
  deriving DecidableEq, Repr, Inhabited

/-- The name of the field. -/
def FieldValue.name : FieldValue → String
  | .contentMaxWidth _ => "contentMaxWidth"
  | .columns _ => "columns"
  | .gutter _ => "gutter"
  | .margin _ => "margin"
  | .scale _ => "scale"

/-- The fields of one breakpoint. -/
structure Settings where
  range : WidthRange
  /-- none when the content is as wide as the viewport -/
  contentMaxWidth : Option Nat
  columns : Nat
  gutter : Nat
  margin : Nat
  /-- the size of the root font, as a factor -/
  scale : Float
  placements : Placements
  deriving DecidableEq, Repr, Inhabited

namespace Settings

/-- The settings with one scalar field replaced. -/
def set (s : Settings) : FieldValue → Settings
  | .contentMaxWidth v => { s with contentMaxWidth := v }
  | .columns v => { s with columns := v }
  | .gutter v => { s with gutter := v }
  | .margin v => { s with margin := v }
  | .scale v => { s with scale := v }

/-- The settings with one side of one demo element replaced. -/
def place (s : Settings) (element : Element) (side : Side) (value : Nat) : Settings :=
  { s with
    placements := s.placements.set element ((s.placements.get element).set side value) }

/-- Every field is within its bounds. -/
structure Valid (s : Settings) : Prop where
  contentMaxWidth : ∀ w ∈ s.contentMaxWidth, 128 ≤ w ∧ w ≤ 1920
  columns : 1 ≤ s.columns ∧ s.columns ≤ 12
  gutter : s.gutter ≤ 256
  margin : s.margin ≤ 256
  scale : 1.0 ≤ s.scale ∧ s.scale ≤ 2.0
  placements : ∀ element, (s.placements.get element).Within s.columns

theorem Valid.onRange {s : Settings} (h : s.Valid) (range : WidthRange) :
    { s with range := range }.Valid :=
  ⟨h.contentMaxWidth, h.columns, h.gutter, h.margin, h.scale, h.placements⟩

/-- The first field that is out of bounds. -/
def check (s : Settings) : Except Violation Unit :=
  let width := s.contentMaxWidth.filter fun w => w < 128 || 1920 < w
  match width with
  | some w => .error (.contentMaxWidthOutOfRange w)
  | none =>
      if s.columns < 1 ∨ 12 < s.columns then .error (.columnsOutOfRange s.columns)
      else if 256 < s.gutter then .error (.gutterOutOfRange s.gutter)
      else if 256 < s.margin then .error (.marginOutOfRange s.margin)
      else if ¬ (1.0 ≤ s.scale ∧ s.scale ≤ 2.0) then .error (.scaleOutOfRange s.scale)
      else
        match s.placements.heading1.check .heading1 s.columns with
        | .error v => .error v
        | .ok () =>
            match s.placements.heading2.check .heading2 s.columns with
            | .error v => .error v
            | .ok () => s.placements.paragraph.check .paragraph s.columns

theorem filter_width_eq_none_iff (width : Option Nat) :
    (width.filter fun w => w < 128 || 1920 < w) = none ↔ ∀ w ∈ width, 128 ≤ w ∧ w ≤ 1920 := by
  rw [Option.filter_eq_none_iff]
  constructor
  · intro h w hw
    have hout := h w hw
    simp only [Bool.or_eq_true, decide_eq_true_eq] at hout
    omega
  · intro h w hw
    have hbounds := h w hw
    simp only [Bool.or_eq_true, decide_eq_true_eq]
    omega

theorem placed_eq_ok_iff (p : Placements) (columns : Nat) :
    (match p.heading1.check .heading1 columns with
      | .error v => .error v
      | .ok () =>
          match p.heading2.check .heading2 columns with
          | .error v => .error v
          | .ok () => p.paragraph.check .paragraph columns : Except Violation Unit) = .ok () ↔
      ∀ element, (p.get element).Within columns := by
  rw [p.forall_within_iff, ← Placement.check_eq_ok_iff p.heading1 .heading1,
    ← Placement.check_eq_ok_iff p.heading2 .heading2,
    ← Placement.check_eq_ok_iff p.paragraph .paragraph]
  cases p.heading1.check .heading1 columns with
  | error v => simp
  | ok =>
    cases p.heading2.check .heading2 columns with
    | error v => simp
    | ok => simp

/-- The check passes exactly when every field is within its bounds. -/
theorem check_eq_ok_iff (s : Settings) : s.check = .ok () ↔ s.Valid := by
  unfold check
  simp only
  split
  · next w hw =>
    constructor
    · intro h
      cases h
    · intro h
      rw [(filter_width_eq_none_iff _).2 h.contentMaxWidth] at hw
      cases hw
  · next hw =>
    rw [refuse_eq_ok_iff, refuse_eq_ok_iff, refuse_eq_ok_iff, refuse_eq_ok_iff, placed_eq_ok_iff]
    constructor
    · rintro ⟨hcolumns, hgutter, hmargin, hscale, hplaced⟩
      exact ⟨(filter_width_eq_none_iff _).1 hw, by omega, by omega, by omega,
        Decidable.not_not.1 hscale, hplaced⟩
    · intro h
      have hcolumns := h.columns
      have hgutter := h.gutter
      have hmargin := h.margin
      exact ⟨by omega, by omega, by omega, not_not_intro h.scale, h.placements⟩

theorem valid_of_check {s : Settings} (h : s.check = .ok ()) : s.Valid :=
  s.check_eq_ok_iff.1 h

theorem not_valid_of_check {s : Settings} {v : Violation} (h : s.check = .error v) :
    ¬ s.Valid := by
  intro hv
  rw [s.check_eq_ok_iff.2 hv] at h
  cases h

instance (s : Settings) : Decidable s.Valid :=
  match h : s.check with
  | .ok () => isTrue (valid_of_check h)
  | .error _ => isFalse (not_valid_of_check h)

end Settings

end ResponsiveGrid
