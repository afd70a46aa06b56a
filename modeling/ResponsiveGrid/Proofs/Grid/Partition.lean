import Mathlib.Data.List.Chain
import ResponsiveGrid.Grid.Edit
set_option autoImplicit false

/-!
# Grid: what the local check says about all widths

The check of a grid system looks at neighbours only.  `Tiles start entries` is what it
establishes: the ranges of `entries` follow each other without a gap from `start` on,
and the last one goes on for ever.  From that everything about single widths follows
from one fact, `Tiles.split`: a width cuts the entries into those that end below it,
the one entry whose range it lies in, and those that start above it.
-/

namespace ResponsiveGrid

/-! ## Ranges that follow each other -/

/-- The ranges of entries follow each other without a gap from a width on, and the last
one goes on for ever. -/
inductive Tiles : Nat → List Entry → Prop
  | last {start : Nat} {e : Entry} (hmin : e.range.minWidth = start)
      (hmax : e.range.maxWidth = none) : Tiles start [e]
  | cons {start : Nat} {e : Entry} {rest : List Entry} {m : Nat}
      (hmin : e.range.minWidth = start) (hmax : e.range.maxWidth = some m)
      (hrest : Tiles (m + 1) rest) : Tiles start (e :: rest)

theorem WidthRange.meets_iff {a b : WidthRange} :
    a.Meets b ↔ ∃ m, a.maxWidth = some m ∧ m + 1 = b.minWidth := by
  unfold WidthRange.Meets
  cases a.maxWidth with
  | none => simp
  | some m => simp

/-- No gap is found, whatever the position that counting starts from, exactly when every
entry meets the next. -/
theorem gap?_eq_none_iff (index : Nat) (entries : List Entry) :
    gap? index entries = none ↔ entries.IsChain fun a b => a.range.Meets b.range := by
  induction entries generalizing index with
  | nil => simp [gap?]
  | cons a rest ih =>
    cases rest with
    | nil => simp [gap?]
    | cons b rest =>
      rw [gap?, List.isChain_cons_cons]
      split
      · next h => rw [ih]; simp [h]
      · next h => simp [h]

/-- No identity is found twice exactly when the identities are pairwise different and
none of them was seen before. -/
theorem repeated?_eq_none_iff (seen : List Id) (entries : List Entry) :
    repeated? seen entries = none ↔
      (entries.map Entry.id).Nodup ∧ ∀ e ∈ entries, e.id ∉ seen := by
  induction entries generalizing seen with
  | nil => simp [repeated?]
  | cons e rest ih =>
    rw [repeated?]
    split
    · next h => simp [h]
    · next h =>
      rw [ih, List.map_cons, List.nodup_cons]
      constructor
      · rintro ⟨hnodup, hnew⟩
        refine ⟨⟨?_, hnodup⟩, ?_⟩
        · intro hmem
          obtain ⟨f, hf, hid⟩ := List.mem_map.1 hmem
          exact hnew f hf (by simp [hid])
        · intro f hf
          rcases List.mem_cons.1 hf with rfl | hf
          · exact h
          · intro hseen
            exact hnew f hf (List.mem_cons_of_mem _ hseen)
      · rintro ⟨⟨hfirst, hnodup⟩, hnew⟩
        refine ⟨hnodup, ?_⟩
        intro f hf hseen
        rcases List.mem_cons.1 hseen with hid | hseen
        · exact hfirst (List.mem_map.2 ⟨f, hf, hid⟩)
        · exact hnew f (List.mem_cons_of_mem _ hf) hseen

/-- Entries each of which meets the next, with an unbounded last one, tile the widths
from the first of them on. -/
theorem tiles_iff (e : Entry) (rest : List Entry) (start : Nat) :
    Tiles start (e :: rest) ↔
      e.range.minWidth = start ∧
      ((e :: rest).getLast (List.cons_ne_nil e rest)).range.maxWidth = none ∧
      (e :: rest).IsChain fun a b => a.range.Meets b.range := by
  induction rest generalizing e start with
  | nil =>
    constructor
    · intro h
      cases h with
      | last hmin hmax => exact ⟨hmin, hmax, by simp⟩
      | cons _ _ hrest => cases hrest
    · rintro ⟨hmin, hmax, -⟩
      exact .last hmin hmax
  | cons f rest ih =>
    rw [List.isChain_cons_cons, WidthRange.meets_iff, List.getLast_cons (List.cons_ne_nil f rest)]
    constructor
    · intro h
      cases h with
      | cons hmin hmax hrest =>
        obtain ⟨hnext, hlast, hchain⟩ := (ih f _).1 hrest
        exact ⟨hmin, hlast, ⟨_, hmax, hnext.symm⟩, hchain⟩
    · rintro ⟨hmin, hlast, ⟨m, hmax, hnext⟩, hchain⟩
      exact .cons hmin hmax ((ih f _).2 ⟨hnext.symm, hlast, hchain⟩)

/-- The check passes exactly for no entries and for entries that tile the widths from
zero on under pairwise different identities. -/
theorem partitionFault?_eq_none_iff (entries : List Entry) :
    partitionFault? entries = none ↔
      entries = [] ∨ Tiles 0 entries ∧ (entries.map Entry.id).Nodup := by
  cases entries with
  | nil => simp [partitionFault?]
  | cons e rest =>
    rw [partitionFault?, tiles_iff]
    have hgap := gap?_eq_none_iff 0 (e :: rest)
    have hids := repeated?_eq_none_iff [] (e :: rest)
    split
    · next h => simp [h]
    · next h =>
      have hmin : e.range.minWidth = 0 := Decidable.not_not.1 h
      split
      · next m hlast => simp [hlast]
      · next hlast =>
        split
        · next v hv =>
          rw [hv] at hgap
          simp only [reduceCtorEq, false_iff] at hgap
          simp [hgap]
        · next hv =>
          rw [hv] at hgap
          rw [hids]
          simp [hmin, hlast, hgap.1 rfl]

theorem Grid.tiles (s : Grid) (h : s.entries ≠ []) : Tiles 0 s.entries := by
  rcases (partitionFault?_eq_none_iff s.entries).1 s.partitioned with hnil | ⟨htiles, -⟩
  · exact absurd hnil h
  · exact htiles

theorem Grid.nodup_ids (s : Grid) : (s.entries.map Entry.id).Nodup := by
  rcases (partitionFault?_eq_none_iff s.entries).1 s.partitioned with hnil | ⟨-, hids⟩
  · simp [hnil]
  · exact hids

/-! ## Where a width lies -/

namespace Tiles

theorem start_le {start : Nat} {entries : List Entry} (h : Tiles start entries) :
    ∀ e ∈ entries, start ≤ e.range.minWidth := by
  induction h with
  | last hmin _ => simp [hmin]
  | @cons _ e rest m hmin hmax hrest ih =>
    intro f hf
    rcases List.mem_cons.1 hf with rfl | hf
    · exact Nat.le_of_eq hmin.symm
    · have hbounds := e.range.maxWidth_bounds m hmax
      have := ih f hf
      omega

/-- A width at or behind the start of a tiling cuts the entries in two around the one
whose range it lies in: those before end below the width, those behind start above. -/
theorem split {start : Nat} {entries : List Entry} (h : Tiles start entries) {width : Nat}
    (hw : start ≤ width) :
    ∃ (before : List Entry) (e : Entry) (after : List Entry),
      entries = before ++ e :: after ∧ e.range.Mem width ∧
      (∀ b ∈ before, b.range.minWidth ≤ width ∧ ∃ m ∈ b.range.maxWidth, m < width) ∧
      ∀ a ∈ after, width < a.range.minWidth := by
  induction h with
  | @last _ e hmin hmax =>
    exact ⟨[], e, [], rfl, ⟨by omega, by simp [hmax]⟩, by simp, by simp⟩
  | @cons _ e rest m hmin hmax hrest ih =>
    by_cases hm : width ≤ m
    · refine ⟨[], e, rest, rfl, ⟨by omega, by simp [hmax, hm]⟩, by simp, ?_⟩
      intro a ha
      have := hrest.start_le a ha
      omega
    · obtain ⟨before, f, after, rfl, hmem, hbefore, hafter⟩ := ih (by omega)
      refine ⟨e :: before, f, after, rfl, hmem, ?_, hafter⟩
      intro b hb
      rcases List.mem_cons.1 hb with rfl | hb
      · exact ⟨by omega, m, hmax, by omega⟩
      · exact hbefore b hb

end Tiles

theorem WidthRange.not_mem_of_lt {r : WidthRange} {width m : Nat} (hm : m ∈ r.maxWidth)
    (hlt : m < width) : ¬ r.Mem width := by
  intro h
  have := h.2 m hm
  omega

theorem WidthRange.not_mem_of_lt_minWidth {r : WidthRange} {width : Nat}
    (hlt : width < r.minWidth) : ¬ r.Mem width := by
  intro h
  have := h.1
  omega

namespace Grid

/-- Every width cuts the entries of a system around the one that is looked up for it. -/
theorem matchFor_split (s : Grid) (h : s.entries ≠ []) (width : Nat) :
    ∃ (before : List Entry) (e : Entry) (after : List Entry),
      s.entries = before ++ e :: after ∧ s.matchFor width = some e ∧ e.range.Mem width ∧
      (∀ b ∈ before, b.range.minWidth ≤ width ∧ ¬ b.range.Mem width) ∧
      ∀ a ∈ after, width < a.range.minWidth := by
  obtain ⟨before, e, after, heq, hmem, hbefore, hafter⟩ :=
    (s.tiles h).split (Nat.zero_le width)
  have hbelow : ∀ b ∈ before, b.range.minWidth ≤ width ∧ ¬ b.range.Mem width := by
    intro b hb
    obtain ⟨hmin, m, hm, hlt⟩ := hbefore b hb
    exact ⟨hmin, WidthRange.not_mem_of_lt hm hlt⟩
  refine ⟨before, e, after, heq, ?_, hmem, hbelow, hafter⟩
  unfold matchFor
  rw [heq, List.find?_append, List.find?_eq_none.2 (by simpa using fun b hb => (hbelow b hb).2)]
  simp [hmem]

/-- A width lies in exactly one range of a system that is not empty; that entry is
looked up for it, and it is the last one that starts at or below the width. -/
theorem matchFor_unique (s : Grid) (h : s.entries ≠ []) (width : Nat) :
    ∃ e, (s.entries.filter fun e => e.range.matches? width) = [e] ∧
      s.matchFor width = some e ∧
      (s.entries.filter fun e => decide (e.range.minWidth ≤ width)).getLast? = some e := by
  obtain ⟨before, e, after, heq, hmatch, hmem, hbefore, hafter⟩ := s.matchFor_split h width
  refine ⟨e, ?_, hmatch, ?_⟩
  · have hb : (before.filter fun e => e.range.matches? width) = [] := by
      simpa using fun b hb => (hbefore b hb).2
    have ha : (after.filter fun e => e.range.matches? width) = [] := by
      simpa using fun a ha => WidthRange.not_mem_of_lt_minWidth (hafter a ha)
    rw [heq, List.filter_append, hb, List.filter_cons_of_pos (by simpa using hmem), ha]
    rfl
  · have ha : (after.filter fun e => decide (e.range.minWidth ≤ width)) = [] := by
      simpa using hafter
    have he : decide (e.range.minWidth ≤ width) = true := by simpa using hmem.1
    rw [heq, List.filter_append, List.filter_cons, if_pos he, ha, List.getLast?_append]
    rfl

end Grid

end ResponsiveGrid
