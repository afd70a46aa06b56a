import ResponsiveGrid.Layout
import ResponsiveGrid.Proofs.Decimal.Quotient
import ResponsiveGrid.Proofs.Machine.Word
set_option autoImplicit false

/-!
# Machine: layouts in words

Layouts once more, counted in words with a sign and divided in binary64.  The margins and
the gutters of an entry are a few thousand widths at most, whatever word the artboard width
is.  This bounds what is divided; no conversion is inexact, nothing is divided by zero, and
the quotient is far from the ends of a word.  `exact_layout` is that both layouts are those
of exact arithmetic: nothing is lost to the two roundings on the way.
-/

namespace ResponsiveGrid.Machine

/-! ## What is divided -/

/-- The width between the outer margins. -/
def containerWidth (e : Entry) (width : Nat) : Checked Int := do
  let visible : Nat := match e.settings.contentMaxWidth with
    | some cap => min width cap
    | none => width
  let margins ← signed (2 * e.settings.margin)
  signed (visible - margins)

/-- A container is no wider than its artboard, and two margins take 512 widths at most. -/
theorem containerWidth_bounds (e : Entry) (width : Nat) :
    -512 ≤ e.containerWidth width ∧ e.containerWidth width ≤ width := by
  have hmargin := e.valid.margin
  unfold Entry.containerWidth
  cases e.settings.contentMaxWidth with
  | none =>
    simp only
    omega
  | some cap =>
    simp only
    omega

theorem containerWidth_eq (e : Entry) {width : Nat} (h : width ≤ largest32) :
    containerWidth e width = .ok (e.containerWidth width) := by
  have hmargin := e.valid.margin
  unfold largest32 at h
  unfold containerWidth Entry.containerWidth
  rw [signed_eq ⟨by omega, by omega⟩, ok_bind]
  cases e.settings.contentMaxWidth with
  | none =>
    simp only
    rw [signed_eq ⟨by omega, by omega⟩]
  | some cap =>
    simp only
    rw [signed_eq ⟨by omega, by omega⟩, Nat.cast_min]

/-- What the gutters leave of the container. -/
def columnSpace (e : Entry) (width : Nat) : Int :=
  e.containerWidth width - ((e.settings.columns : Int) - 1) * e.settings.gutter

/-- What the container leaves of the artboard. -/
def marginSpace (e : Entry) (width : Nat) : Int := width - e.containerWidth width

/-- The gutters between twelve columns take 2816 widths. -/
theorem gutters_bounds (e : Entry) :
    0 ≤ ((e.settings.columns : Int) - 1) * e.settings.gutter ∧
      ((e.settings.columns : Int) - 1) * e.settings.gutter ≤ 2816 := by
  have hcolumns := e.valid.columns
  have hgutter := e.valid.gutter
  have hgaps : 0 ≤ (e.settings.columns : Int) - 1 := by omega
  constructor
  · exact mul_nonneg hgaps (Int.natCast_nonneg _)
  · calc ((e.settings.columns : Int) - 1) * e.settings.gutter
        ≤ 11 * 256 := mul_le_mul (by omega) (by omega) (Int.natCast_nonneg _) (by omega)
      _ = 2816 := by norm_num

theorem columnSpace_bounds (e : Entry) (width : Nat) :
    -3328 ≤ columnSpace e width ∧ columnSpace e width ≤ width := by
  have hcontainer := containerWidth_bounds e width
  have hgutters := gutters_bounds e
  unfold columnSpace
  omega

theorem marginSpace_bounds (e : Entry) (width : Nat) :
    0 ≤ marginSpace e width ∧ marginSpace e width ≤ width + 512 := by
  have hcontainer := containerWidth_bounds e width
  unfold marginSpace
  omega

/-! ## Dividing -/

/-- The quotient of two whole numbers, rounded up at one half and more. -/
def shareOut (n d : Int) : Checked Int := do
  let dividend ← toReal n
  let divisor ← toReal d
  let quotient ← divide dividend divisor
  roundHalfUp quotient

theorem shareOut_eq {n : Int} {d : Nat} (hd : 1 ≤ d) (hlimit : d ≤ Decimal.divisorLimit)
    (hn : |n| ≤ Decimal.dividendLimit) : shareOut n d = .ok (Decimal.quotientHalfUp n d) := by
  have hresult : |Decimal.quotientHalfUp n d| ≤ 2 ^ 41 := by
    rw [Decimal.quotientHalfUp_eq hd hlimit hn]
    exact Decimal.abs_floor_le hd hn
  obtain ⟨hleast, hgreatest⟩ := abs_le.1 hresult
  obtain ⟨hneg, hpos⟩ := abs_le.1 hn
  unfold Decimal.dividendLimit at hneg hpos
  unfold Decimal.divisorLimit at hlimit
  have hdivisor : (d : Rat) ≠ 0 := by
    rw [Nat.cast_ne_zero]
    omega
  unfold shareOut
  rw [toReal_eq ⟨by omega, by omega⟩, ok_bind, toReal_eq ⟨by omega, by omega⟩, ok_bind,
    Int.cast_natCast, divide_eq hdivisor, ok_bind]
  exact roundHalfUp_eq ⟨by omega, by omega⟩

/-! ## Layouts -/

/-- The layout with a fixed column width. -/
def sketchColumns (e : Entry) (width : Nat) : Checked SketchColumns := do
  let container ← containerWidth e width
  let gaps ← sub e.settings.columns 1
  let gutters ← signed (gaps * e.settings.gutter)
  let space ← signed (container - gutters)
  let columnWidth ← shareOut space e.settings.columns
  return {
    totalWidth := container
    offset := 0
    numberOfColumns := e.settings.columns
    gutterOnOutside := false
    gutterWidth := e.settings.gutter
    columnWidth := columnWidth }

/-- The layout with stretched columns. -/
def figmaColumns (e : Entry) (width : Nat) : Checked FigmaColumns := do
  let container ← containerWidth e width
  let space ← signed (width - container)
  let margin ← shareOut space 2
  return {
    count := e.settings.columns
    margin := margin
    gutter := e.settings.gutter }

theorem columnSpace_limits (e : Entry) {width : Nat} (h : width ≤ largest32) :
    |columnSpace e width| ≤ Decimal.dividendLimit ∧
      e.settings.columns ≤ Decimal.divisorLimit := by
  have hspace := columnSpace_bounds e width
  have hcolumns := e.valid.columns
  unfold largest32 at h
  unfold Decimal.dividendLimit Decimal.divisorLimit
  rw [abs_le]
  omega

theorem marginSpace_limit (e : Entry) {width : Nat} (h : width ≤ largest32) :
    |marginSpace e width| ≤ Decimal.dividendLimit := by
  have hspace := marginSpace_bounds e width
  unfold largest32 at h
  unfold Decimal.dividendLimit
  rw [abs_le]
  omega

theorem sketchColumns_eq (e : Entry) {width : Nat} (h : width ≤ largest32) :
    sketchColumns e width = .ok (e.sketchColumns width) := by
  have hcolumns := e.valid.columns.1
  obtain ⟨hspace, hlimit⟩ := columnSpace_limits e h
  have hgutters := gutters_bounds e
  have hbounds := columnSpace_bounds e width
  have hgaps : ((e.settings.columns - 1 : Nat) : Int) = (e.settings.columns : Int) - 1 := by omega
  have hshare : shareOut (columnSpace e width) e.settings.columns =
      .ok (e.sketchColumns width).columnWidth := shareOut_eq hcolumns hlimit hspace
  unfold largest32 at h
  unfold sketchColumns
  rw [containerWidth_eq e h, ok_bind, sub_eq hcolumns, ok_bind, hgaps,
    signed_eq ⟨by omega, by omega⟩, ok_bind]
  change (signed (columnSpace e width) >>= _) = _
  rw [signed_eq ⟨by omega, by omega⟩, ok_bind, hshare, ok_bind]
  rfl

theorem figmaColumns_eq (e : Entry) {width : Nat} (h : width ≤ largest32) :
    figmaColumns e width = .ok (e.figmaColumns width) := by
  have hspace := marginSpace_limit e h
  have hbounds := marginSpace_bounds e width
  have hshare : shareOut (marginSpace e width) 2 = .ok (e.figmaColumns width).margin :=
    shareOut_eq (d := 2) (by decide) (by decide) hspace
  unfold largest32 at h
  unfold figmaColumns
  rw [containerWidth_eq e h, ok_bind]
  change (signed (marginSpace e width) >>= _) = _
  rw [signed_eq ⟨by omega, by omega⟩, ok_bind, hshare, ok_bind]
  rfl

/-- The layout of an entry at an artboard width, in words. -/
def layout (e : Entry) (width : Nat) (tool : Tool) : Checked (Except Refusal Layout) :=
  match e.checkExport width with
  | .error r => .ok (.error r)
  | .ok () =>
      match tool with
      | .sketch => do return .ok (.sketch (← sketchColumns e width))
      | .figma => do return .ok (.figma (← figmaColumns e width))

theorem layout_eq (e : Entry) {width : Nat} (h : width ≤ largest32) (tool : Tool) :
    layout e width tool = .ok (e.layout width tool) := by
  unfold layout Entry.layout
  cases e.checkExport width with
  | error r => rfl
  | ok =>
    cases tool with
    | sketch =>
      simp only
      rw [sketchColumns_eq e h, ok_bind, pure_eq_ok]
    | figma =>
      simp only
      rw [figmaColumns_eq e h, ok_bind, pure_eq_ok]

/-- The layout of the entry that an artboard width matches. -/
def layoutAt (s : Grid) (width : Nat) (tool : Tool) : Checked (Except Refusal (Option Layout)) :=
  match s.matchFor width with
  | none => .ok (.ok none)
  | some e => do
      match ← layout e width tool with
      | .ok l => return .ok (some l)
      | .error r => return .error r

theorem layoutAt_eq (s : Grid) {width : Nat} (h : width ≤ largest32) (tool : Tool) :
    layoutAt s width tool = .ok (s.layout width tool) := by
  unfold layoutAt Grid.layout
  cases s.matchFor width with
  | none => rfl
  | some e =>
    simp only
    rw [layout_eq e h, ok_bind]
    cases e.layout width tool with
    | ok l => rfl
    | error r => rfl

/-! ## Exactness -/

/-- Both layouts of an entry are those of exact arithmetic. -/
structure ExactAt (e : Entry) (width : Nat) : Prop where
  columnWidth : (e.sketchColumns width).columnWidth =
    ⌊(columnSpace e width : Rat) / e.settings.columns + 1 / 2⌋
  margin : (e.figmaColumns width).margin = ⌊(marginSpace e width : Rat) / 2 + 1 / 2⌋

/-- At every artboard width that is a word, the two roundings are not seen in a layout. -/
theorem exact_layout (e : Entry) {width : Nat} (h : width ≤ largest32) : ExactAt e width where
  columnWidth := by
    obtain ⟨hspace, hlimit⟩ := columnSpace_limits e h
    exact Decimal.quotientHalfUp_eq e.valid.columns.1 hlimit hspace
  margin := Decimal.quotientHalfUp_eq (d := 2) (by decide) (by decide) (marginSpace_limit e h)

end ResponsiveGrid.Machine
