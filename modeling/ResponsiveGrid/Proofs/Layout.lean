import ResponsiveGrid.Proofs.Grid.Neighbours
import ResponsiveGrid.Proofs.Machine.Layout
set_option autoImplicit false

/-!
# Layout: one grid for two tools

Whether an entry has a layout at an artboard width does not depend on the tool: it has one
unless it is `Entry.Unfit`.  A system therefore has the layout of the one entry that is for the
width, and no other entry has one there (`Grid.layout_of_match`).

The two forms of a layout describe one grid (`Entry.layouts_agree`).  Both count from the same
container and divide once, rounding halves up: one form divides what gutters leave of the
container by the number of columns (`Entry.columns_share`), the other one halves what the
container leaves of the artboard.  The roundings on the way to the two quotients are not seen
(`Decimal.quotientHalfUp_eq_iff`), so what is left is arithmetic of whole numbers.
-/

namespace ResponsiveGrid

namespace Entry

variable {e : Entry} {width : Nat} {tool : Tool} {r : Refusal}

/-! ## Entries without a layout -/

/-- Why an entry has no layout at an artboard width: the width is none of its own, or else its
root is scaled. -/
inductive Unfit (e : Entry) (width : Nat) : Refusal → Prop where
  | outside (h : ¬ e.range.Mem width) : Unfit e width (.artboardOutOfRange width e.range.label)
  | scaled (h : e.range.Mem width) (hscale : e.settings.scale ≠ 1.0) :
      Unfit e width (.scaledRoot e.settings.scale)

theorem checkExport_eq_error_iff : e.checkExport width = .error r ↔ e.Unfit width r := by
  unfold checkExport
  simp only [WidthRange.matches?_iff]
  constructor
  · intro h
    split at h
    · next hmem =>
      split at h
      · cases h
      · next hscale =>
        cases h
        exact .scaled hmem hscale
    · next hmem =>
      cases h
      exact .outside hmem
  · intro h
    cases h with
    | outside hmem => rw [if_neg hmem]
    | scaled hmem hscale => rw [if_pos hmem, if_neg hscale]

/-- The check passes unscaled entries at their own widths. -/
theorem checkExport_eq_ok_iff :
    e.checkExport width = .ok () ↔ e.range.Mem width ∧ e.settings.scale = 1.0 := by
  unfold checkExport
  simp only [WidthRange.matches?_iff]
  constructor
  · intro h
    split at h
    · next hmem =>
      split at h
      · next hscale => exact ⟨hmem, hscale⟩
      · cases h
    · cases h
  · rintro ⟨hmem, hscale⟩
    rw [if_pos hmem, if_pos hscale]

theorem layout_eq_error_iff : e.layout width tool = .error r ↔ e.Unfit width r := by
  rw [← checkExport_eq_error_iff]
  unfold layout
  cases e.checkExport width with
  | error cause => simp only [Except.error.injEq]
  | ok =>
    cases tool with
    | sketch => exact iff_of_false nofun nofun
    | figma => exact iff_of_false nofun nofun

/-- Where the check passes, each tool gets its form of the layout. -/
theorem layout_of_check (h : e.checkExport width = .ok ()) :
    e.layout width .sketch = .ok (.sketch (e.sketchColumns width)) ∧
      e.layout width .figma = .ok (.figma (e.figmaColumns width)) := by
  unfold layout
  rw [h]
  exact ⟨rfl, rfl⟩

end Entry

/-! ## The entry for an artboard -/

namespace Grid

/-- The layout of a system at an artboard width is that of one of its entries. -/
structure LaidOutBy (s : Grid) (width : Nat) (tool : Tool) (e : Entry) : Prop where
  matched : s.matchFor width = some e
  layout : s.layout width tool = (e.layout width tool).map some
  /-- nothing but a scaled root is refused, in particular no width -/
  refused_iff : ∀ r, s.layout width tool = .error r ↔
    r = .scaledRoot e.settings.scale ∧ e.settings.scale ≠ 1.0
  /-- no other entry has a layout there, scaled or not -/
  others : ∀ f ∈ s.entries, f ≠ e →
    f.layout width tool = .error (.artboardOutOfRange width f.range.label)

/-- The layout of a system is that of the entry that its artboard width matches. -/
theorem layout_eq_map {s : Grid} {e : Entry} {width : Nat} (h : s.matchFor width = some e)
    (tool : Tool) : s.layout width tool = (e.layout width tool).map some := by
  unfold layout
  rw [h]
  simp only
  cases e.layout width tool with
  | error r => rfl
  | ok l => rfl

/-- An entry refuses one of its own widths for a scaled root and for nothing else. -/
theorem layout_eq_error_iff {s : Grid} {e : Entry} {width : Nat} {tool : Tool} {r : Refusal}
    (h : s.matchFor width = some e) :
    s.layout width tool = .error r ↔
      r = .scaledRoot e.settings.scale ∧ e.settings.scale ≠ 1.0 := by
  have hwidth : e.range.Mem width := (matchFor_eq_some_iff.1 h).2
  have hentry : s.layout width tool = .error r ↔ e.layout width tool = .error r := by
    rw [layout_eq_map h]
    cases e.layout width tool with
    | error cause => simp only [Except.map, Except.error.injEq]
    | ok l => exact iff_of_false nofun nofun
  rw [hentry, Entry.layout_eq_error_iff]
  constructor
  · intro hunfit
    cases hunfit with
    | outside hout => exact absurd hwidth hout
    | scaled _ hscale => exact ⟨rfl, hscale⟩
  · rintro ⟨rfl, hscale⟩
    exact .scaled hwidth hscale

theorem layout_of_not_matched {s : Grid} {e f : Entry} {width : Nat}
    (h : s.matchFor width = some e) (hf : f ∈ s.entries) (hne : f ≠ e) (tool : Tool) :
    f.layout width tool = .error (.artboardOutOfRange width f.range.label) := by
  have hout : ¬ f.range.Mem width := by
    intro hin
    have hfound := matchFor_eq_some_iff.2 ⟨hf, hin⟩
    rw [h] at hfound
    exact hne (Option.some.inj hfound).symm
  exact Entry.layout_eq_error_iff.2 (.outside hout)

/-- At every artboard width, a system without entries has no layout, and any other system has
the layout of the one entry that is for this width.  This entry refuses it for a scaled root
only, and every other entry refuses the width. -/
theorem layout_of_match (s : Grid) (width : Nat) (tool : Tool) :
    (s.layout width tool = .ok none ↔ s.entries = []) ∧
      (s.entries = [] ∨ ∃ e ∈ s.entries, s.LaidOutBy width tool e) := by
  by_cases hentries : s.entries = []
  · refine ⟨iff_of_true ?_ hentries, .inl hentries⟩
    unfold layout
    rw [matchFor_eq_none_iff.2 hentries]
  · obtain ⟨e, hmatch, hmem, -⟩ := exists_matchFor hentries width
    have hlayout := layout_eq_map hmatch tool
    refine ⟨iff_of_false ?_ hentries, .inr ⟨e, hmem, ?_⟩⟩
    · rw [hlayout]
      cases e.layout width tool with
      | error r => exact nofun
      | ok l => exact nofun
    · exact {
        matched := hmatch
        layout := hlayout
        refused_iff := fun _ => layout_eq_error_iff hmatch
        others := fun f hf hne => layout_of_not_matched hmatch hf hne tool }

end Grid

/-! ## The two forms of a layout -/

namespace Entry

/-- How much of an artboard the content takes up. -/
def visible (e : Entry) (width : Nat) : Nat := e.settings.contentMaxWidth.elim width (min width)

/-- What margins and gutters leave of the content for the columns; it is negative when they take
more than there is. -/
def forColumns (e : Entry) (width : Nat) : Int :=
  (e.visible width : Int) - 2 * e.settings.margin -
    ((e.settings.columns : Int) - 1) * e.settings.gutter

/-- The two forms of a layout of an entry at an artboard width describe one grid. -/
structure SameGrid (e : Entry) (width : Nat) (a : SketchColumns) (b : FigmaColumns) : Prop where
  count : a.numberOfColumns = b.count
  gutter : a.gutterWidth = b.gutter
  /-- a margin is half of what the container leaves, and an odd width is halved upwards -/
  total : a.totalWidth + 2 * b.margin =
    if 2 ∣ (width : Int) - a.totalWidth then (width : Int) else width + 1
  margin_le : (e.settings.margin : Int) ≤ b.margin
  /-- the margin grows only where the artboard is wider than the content -/
  margin_eq_iff : b.margin = e.settings.margin ↔ ∀ cap ∈ e.settings.contentMaxWidth, width ≤ cap

/-- The columns of a layout share out what is left for them. -/
structure SharesOut (e : Entry) (width : Nat) (a : SketchColumns) : Prop where
  /-- the width of a column is the quotient with halves going up, and nothing else is -/
  columnWidth_iff : ∀ q : Int, a.columnWidth = q ↔
    2 * e.forColumns width - e.settings.columns < 2 * e.settings.columns * q ∧
      2 * e.settings.columns * q ≤ 2 * e.forColumns width + e.settings.columns
  /-- columns and gutters make up the container, but for half a width in each column -/
  rest_le : 2 * |e.settings.columns * a.columnWidth +
    ((e.settings.columns : Int) - 1) * a.gutterWidth - a.totalWidth| ≤ e.settings.columns

section

variable {e : Entry} {width : Nat}

theorem visible_le (e : Entry) (width : Nat) : e.visible width ≤ width := by
  unfold visible
  cases e.settings.contentMaxWidth with
  | none => exact Nat.le_refl width
  | some cap => exact Nat.min_le_left width cap

theorem visible_eq_iff :
    e.visible width = width ↔ ∀ cap ∈ e.settings.contentMaxWidth, width ≤ cap := by
  unfold visible
  cases e.settings.contentMaxWidth with
  | none => simp
  | some cap => simp

theorem containerWidth_eq_visible (e : Entry) (width : Nat) :
    e.containerWidth width = (e.visible width : Int) - 2 * e.settings.margin := by
  unfold containerWidth visible
  cases e.settings.contentMaxWidth with
  | none => rfl
  | some cap =>
    simp only [Option.elim_some]
    rw [Nat.cast_min]

theorem columnSpace_eq (e : Entry) (width : Nat) :
    Machine.columnSpace e width = e.forColumns width := by
  unfold Machine.columnSpace forColumns
  rw [containerWidth_eq_visible]

/-- The margin of a layout is half of what the container leaves of the artboard, rounded up. -/
theorem margin_bounds (e : Entry) (h : width ≤ largest32) :
    (width : Int) - e.containerWidth width ≤ 2 * (e.figmaColumns width).margin ∧
      2 * (e.figmaColumns width).margin ≤ (width : Int) - e.containerWidth width + 1 := by
  have hquotient : Decimal.quotientHalfUp (Machine.marginSpace e width) 2 =
      (e.figmaColumns width).margin := rfl
  have hbounds := (Decimal.quotientHalfUp_eq_iff (d := 2) (by decide) (by decide)
    (Machine.marginSpace_limit e h)).1 hquotient
  unfold Machine.marginSpace at hbounds
  push_cast at hbounds
  omega

theorem sameGrid_columns (e : Entry) (h : width ≤ largest32) :
    e.SameGrid width (e.sketchColumns width) (e.figmaColumns width) := by
  have hvisible := e.visible_le width
  have hcontainer := e.containerWidth_eq_visible width
  obtain ⟨hlow, hhigh⟩ := e.margin_bounds h
  -- all that is left is that twice the margin is the rest of the artboard or one width more
  exact {
    count := rfl
    gutter := rfl
    total := by
      show e.containerWidth width + 2 * (e.figmaColumns width).margin =
        if 2 ∣ (width : Int) - e.containerWidth width then (width : Int) else width + 1
      split
      · omega
      · omega
    margin_le := by omega
    margin_eq_iff := by
      rw [← visible_eq_iff]
      omega }

theorem sharesOut_columns (e : Entry) (h : width ≤ largest32) :
    e.SharesOut width (e.sketchColumns width) := by
  obtain ⟨hspace, hlimit⟩ := Machine.columnSpace_limits e h
  rw [columnSpace_eq] at hspace
  have hquotient : (e.sketchColumns width).columnWidth =
      Decimal.quotientHalfUp (e.forColumns width) e.settings.columns := by
    rw [← columnSpace_eq]
    rfl
  have hiff : ∀ q : Int, (e.sketchColumns width).columnWidth = q ↔
      2 * e.forColumns width - e.settings.columns < 2 * e.settings.columns * q ∧
        2 * e.settings.columns * q ≤ 2 * e.forColumns width + e.settings.columns := by
    intro q
    rw [hquotient]
    exact Decimal.quotientHalfUp_eq_iff e.valid.columns.1 hlimit hspace
  refine ⟨hiff, ?_⟩
  obtain ⟨hlow, hhigh⟩ := (hiff _).1 rfl
  have hrest : e.settings.columns * (e.sketchColumns width).columnWidth +
      ((e.settings.columns : Int) - 1) * (e.sketchColumns width).gutterWidth -
        (e.sketchColumns width).totalWidth =
      e.settings.columns * (e.sketchColumns width).columnWidth - e.forColumns width := by
    show e.settings.columns * (e.sketchColumns width).columnWidth +
      ((e.settings.columns : Int) - 1) * e.settings.gutter - e.containerWidth width = _
    rw [containerWidth_eq_visible]
    unfold forColumns
    ring
  rw [hrest, ← abs_two, ← abs_mul, abs_le]
  constructor
  · linarith
  · linarith

end

/-- Both tools are refused a layout for the same cause, or both get one, and then these describe
one grid. -/
theorem layouts_agree (e : Entry) {width : Nat} (h : width ≤ largest32) :
    (∃ r, ∀ tool, e.layout width tool = .error r) ∨
      ∃ a b, e.layout width .sketch = .ok (.sketch a) ∧
        e.layout width .figma = .ok (.figma b) ∧ e.SameGrid width a b := by
  cases hcheck : e.checkExport width with
  | error r =>
    have hunfit := checkExport_eq_error_iff.1 hcheck
    exact .inl ⟨r, fun tool => layout_eq_error_iff.2 hunfit⟩
  | ok =>
    obtain ⟨hsketch, hfigma⟩ := layout_of_check hcheck
    exact .inr ⟨_, _, hsketch, hfigma, e.sameGrid_columns h⟩

/-- Settings whose margins and gutters take more than the content is wide. -/
def crowdedSettings : Settings :=
  { Settings.seed with contentMaxWidth := some 128, columns := 12, gutter := 254, margin := 256 }

theorem valid_crowdedSettings : crowdedSettings.Valid := by decide

/-- An entry whose columns have less than no room. -/
def crowded : Entry := ⟨1, crowdedSettings, valid_crowdedSettings⟩

/-- On an artboard one width wider than the content, the container of a crowded entry is negative
and the odd rest is halved upwards. -/
theorem layouts_agree_crowded :
    129 ≤ largest32 ∧ ∃ a b, crowded.layout 129 .sketch = .ok (.sketch a) ∧
      crowded.layout 129 .figma = .ok (.figma b) ∧ crowded.SameGrid 129 a b ∧
      a.totalWidth = -384 ∧ b.margin = 257 := by
  have hwidth : 129 ≤ largest32 := by decide
  have hcheck : crowded.checkExport 129 = .ok () := checkExport_eq_ok_iff.2 (by decide)
  obtain ⟨hsketch, -⟩ := layout_of_check hcheck
  obtain ⟨r, hr⟩ | ⟨a, b, ha, hb, hsame⟩ := crowded.layouts_agree hwidth
  · rw [hr .sketch] at hsketch
    cases hsketch
  · rw [hsketch] at ha
    cases ha
    have htotal := hsame.total
    have hcontainer : (crowded.sketchColumns 129).totalWidth = -384 := by decide
    rw [hcontainer, if_neg (by decide)] at htotal
    exact ⟨hwidth, _, b, hsketch, hb, hsame, hcontainer, by omega⟩

/-- An unscaled entry has a layout with a fixed column width at every width of its own, and its
columns share out what margins and gutters leave of the content. -/
theorem columns_share (e : Entry) {width : Nat} (h : width ≤ largest32)
    (hmem : e.range.Mem width) (hscale : e.settings.scale = 1.0) :
    ∃ a, e.layout width .sketch = .ok (.sketch a) ∧ e.SharesOut width a :=
  ⟨_, (layout_of_check (checkExport_eq_ok_iff.2 ⟨hmem, hscale⟩)).1, e.sharesOut_columns h⟩

/-- At width 0, the twelve columns of a crowded entry share out a debt of 3306 widths, which is
275 and one half for each: the half goes up. -/
theorem columns_share_crowded :
    0 ≤ largest32 ∧ crowded.range.Mem 0 ∧ crowded.settings.scale = 1.0 ∧
      crowded.forColumns 0 = -3306 ∧ ∃ a, crowded.layout 0 .sketch = .ok (.sketch a) ∧
        crowded.SharesOut 0 a ∧ a.columnWidth = -275 := by
  have hwidth : 0 ≤ largest32 := by decide
  have hmem : crowded.range.Mem 0 := by decide
  have hscale : crowded.settings.scale = 1.0 := by decide
  have hspace : crowded.forColumns 0 = -3306 := by decide
  have hcolumns : crowded.settings.columns = 12 := rfl
  obtain ⟨a, ha, hshare⟩ := crowded.columns_share hwidth hmem hscale
  refine ⟨hwidth, hmem, hscale, hspace, a, ha, hshare, (hshare.columnWidth_iff _).2 ?_⟩
  rw [hspace, hcolumns]
  decide

end Entry

end ResponsiveGrid
