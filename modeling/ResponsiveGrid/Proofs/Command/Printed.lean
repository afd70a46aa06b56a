import Mathlib.Data.List.Forall2
import ResponsiveGrid.Command.Run
import ResponsiveGrid.Proofs.Wire
set_option autoImplicit false

/-!
# Command: snapshots that are printed

A snapshot is printed on one line or with one member a line, and a line break follows.  A
reader finds the same in either text, and it is what was printed, whether or not the numbers
are within the bounds of their fields (`parse_snapshotText`).  A scale is the only field that may
come back changed, and a whole one does not: it is written as an integer.
-/

namespace ResponsiveGrid

/-- Settings that were read are those that were written.  The scale is when it is whole, and is
a scale in any case. -/
structure Settings.Kept (written read : Settings) : Prop where
  range : read.range = written.range
  contentMaxWidth : read.contentMaxWidth = written.contentMaxWidth
  columns : read.columns = written.columns
  gutter : read.gutter = written.gutter
  margin : read.margin = written.margin
  placements : read.placements = written.placements
  /-- a whole scale is written without a fraction -/
  digits : Decimal.Whole written.scale → ∃ n : Nat, scaleToJson written.scale = Json.natural n
  scale : Decimal.Whole written.scale → read.scale = written.scale
  bounds : 1.0 ≤ read.scale ∧ read.scale ≤ 2.0

theorem Settings.Storable.kept {s : Settings} (h : s.Storable) : s.Kept s.reread where
  range := rfl
  contentMaxWidth := rfl
  columns := rfl
  gutter := rfl
  margin := rfl
  placements := rfl
  digits hwhole := by
    rcases (Decimal.whole_iff h.scale.1 h.scale.2).1 hwhole with hone | htwo
    · exact ⟨1, hone ▸ scaleToJson_one⟩
    · exact ⟨2, htwo ▸ scaleToJson_two⟩
  scale hwhole := by
    show Decimal.reread s.scale = s.scale
    rcases (Decimal.whole_iff h.scale.1 h.scale.2).1 hwhole with hone | htwo
    · rw [hone, Decimal.reread_one]
    · rw [htwo, Decimal.reread_two]
  bounds := Decimal.reread_between h.scale.1 h.scale.2

namespace Command

/-- What is read of a printed snapshot does not depend on how it is printed. -/
theorem parse_snapshotText {s : Snapshot} (h : ∀ b ∈ s.breakpoints, b.Storable) (pretty : Bool) :
    Snapshot.parse (snapshotText pretty s) = .ok s.reread := by
  cases pretty with
  | false => exact Snapshot.parse_text_newline h
  | true => exact Snapshot.parse_prettyText_newline h

/-- What is printed of a snapshot whose numbers fit thirty-two bits and whose scales lie between
one and two is read, in either layout, and so is its text without the line break.  What is read
is the same each time: every field of every breakpoint as it was, in order. -/
theorem snapshotText_kept {s : Snapshot} (h : ∀ b ∈ s.breakpoints, b.Storable) :
    ∃ t, Snapshot.parse s.text = .ok t ∧
      (∀ pretty, Snapshot.parse (snapshotText pretty s) = .ok t) ∧
      List.Forall₂ Settings.Kept s.breakpoints t.breakpoints := by
  refine ⟨s.reread, Snapshot.parse_text h, parse_snapshotText h, ?_⟩
  unfold Snapshot.reread
  rw [List.forall₂_map_right_iff, List.forall₂_same]
  intro b hb
  exact (h b hb).kept

/-- A breakpoint that no system takes: its numbers are the greatest that can be read, and its
elements end before they start. -/
def unfit : Settings where
  range := .onward 9998 (Nat.le_refl 9998)
  contentMaxWidth := some largest32
  columns := largest32
  gutter := largest32
  margin := 0
  scale := 2.0
  placements := ⟨⟨largest32, 0⟩, ⟨5, 1⟩, ⟨0, 0⟩⟩

theorem storable_unfit : unfit.Storable where
  contentMaxWidth w hw := Nat.le_of_eq (Option.some.inj hw).symm
  columns := Nat.le_refl _
  gutter := Nat.le_refl _
  margin := Nat.zero_le _
  scale := by decide +kernel
  placements element := by cases element <;> decide

/-- Content that makes no system is read as it was printed. -/
theorem snapshotText_kept_unfit :
    (∀ b ∈ [unfit, .seed], b.Storable) ∧ ¬ unfit.Valid ∧ Decimal.Whole unfit.scale ∧
      ∃ t, Snapshot.parse (Snapshot.text ⟨[unfit, .seed]⟩) = .ok t ∧
        (∀ pretty, Snapshot.parse (snapshotText pretty ⟨[unfit, .seed]⟩) = .ok t) ∧
        List.Forall₂ Settings.Kept [unfit, .seed] t.breakpoints := by
  have hseed : Settings.seed.Valid := by decide +kernel
  have hstorable : ∀ b ∈ [unfit, .seed], b.Storable :=
    List.forall_mem_cons.2 ⟨storable_unfit, List.forall_mem_singleton.2 hseed.storable⟩
  have hwhole : Decimal.Whole unfit.scale :=
    (Decimal.whole_iff storable_unfit.scale.1 storable_unfit.scale.2).2 (.inr rfl)
  exact ⟨hstorable, by decide, hwhole, snapshotText_kept hstorable⟩

end Command

end ResponsiveGrid
