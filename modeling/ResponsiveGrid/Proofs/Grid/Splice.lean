import ResponsiveGrid.Proofs.Grid.Edit
import ResponsiveGrid.Proofs.Grid.Partition
set_option autoImplicit false

/-!
# Grid: tilings that are cut and joined

An edit changes the ranges of one entry or of two neighbours.  Whether the list tiles the
widths afterwards depends on where the entries in front end and on where those behind start,
and on nothing else about them (`tiles_append_iff`, `tiles_pair_iff`).  So a boundary can be
moved (`Tiles.move`), two neighbours can become one (`Tiles.join`) and one can become two
(`Tiles.part`) anywhere in a tiling.
-/

namespace ResponsiveGrid

/-! ## The entries in front -/

/-- The ranges of entries follow each other without a gap from a width on and end right
below another one. -/
inductive Fills : Nat → List Entry → Nat → Prop
  | nil (start : Nat) : Fills start [] start
  | cons {start stop : Nat} {e : Entry} {rest : List Entry} {m : Nat}
      (hmin : e.range.minWidth = start) (hmax : e.range.maxWidth = some m)
      (hrest : Fills (m + 1) rest stop) : Fills start (e :: rest) stop

namespace Tiles

theorem minWidth_eq {start : Nat} {e : Entry} {rest : List Entry}
    (h : Tiles start (e :: rest)) : e.range.minWidth = start := by
  cases h with
  | last hmin _ => exact hmin
  | cons hmin _ _ => exact hmin

theorem atMinWidth {start : Nat} {e : Entry} {rest : List Entry}
    (h : Tiles start (e :: rest)) : Tiles e.range.minWidth (e :: rest) := by
  rw [h.minWidth_eq]
  exact h

/-- Of the first entry of a tiling, the rest only sees where it ends. -/
theorem ofFirst {start : Nat} {e f : Entry} {rest : List Entry} (h : Tiles start (e :: rest))
    (hmax : f.range.maxWidth = e.range.maxWidth) : Tiles f.range.minWidth (f :: rest) := by
  cases h with
  | last _ hend => exact .last rfl (hmax.trans hend)
  | cons _ hend hrest => exact .cons rfl (hmax.trans hend) hrest

end Tiles

/-- A list of entries tiles the widths exactly when those in front of an entry fill the
widths up to it and it tiles the rest together with those behind. -/
theorem tiles_append_iff {start : Nat} {front : List Entry} {e : Entry} {back : List Entry} :
    Tiles start (front ++ e :: back) ↔
      Fills start front e.range.minWidth ∧ Tiles e.range.minWidth (e :: back) := by
  induction front generalizing start with
  | nil =>
    constructor
    · intro h
      rw [← h.minWidth_eq]
      exact ⟨.nil _, h.atMinWidth⟩
    · rintro ⟨hfront, hback⟩
      cases hfront
      exact hback
  | cons f front ih =>
    constructor
    · intro h
      rw [List.cons_append] at h
      generalize hrest : front ++ e :: back = rest at h
      cases h with
      | last _ _ => exact absurd hrest (by simp)
      | cons hmin hmax htail =>
        obtain ⟨hfront, hback⟩ := ih.1 (hrest ▸ htail)
        exact ⟨.cons hmin hmax hfront, hback⟩
    · rintro ⟨hfront, hback⟩
      cases hfront with
      | cons hmin hmax hrest => exact .cons hmin hmax (ih.2 ⟨hrest, hback⟩)

theorem tiles_pair_iff {a b : Entry} {back : List Entry} :
    Tiles a.range.minWidth (a :: b :: back) ↔
      a.range.Meets b.range ∧ Tiles b.range.minWidth (b :: back) := by
  rw [WidthRange.meets_iff]
  constructor
  · intro h
    cases h with
    | cons _ hmax hrest => exact ⟨⟨_, hmax, hrest.minWidth_eq.symm⟩, hrest.atMinWidth⟩
  · rintro ⟨⟨m, hmax, hnext⟩, hrest⟩
    rw [← hnext] at hrest
    exact .cons rfl hmax hrest

/-! ## Changes of a tiling -/

namespace Tiles

variable {start : Nat} {front back : List Entry} {a b c a' b' : Entry}

/-- An entry can be replaced by one for the same widths. -/
theorem replace (h : Tiles start (front ++ a :: back))
    (hmin : a'.range.minWidth = a.range.minWidth) (hmax : a'.range.maxWidth = a.range.maxWidth) :
    Tiles start (front ++ a' :: back) := by
  obtain ⟨hfront, hback⟩ := tiles_append_iff.1 h
  exact tiles_append_iff.2 ⟨hmin.symm ▸ hfront, hback.ofFirst hmax⟩

/-- The boundary between two neighbours can be moved. -/
theorem move (h : Tiles start (front ++ a :: b :: back))
    (hmin : a'.range.minWidth = a.range.minWidth) (hmeets : a'.range.Meets b'.range)
    (hmax : b'.range.maxWidth = b.range.maxWidth) : Tiles start (front ++ a' :: b' :: back) := by
  obtain ⟨hfront, hpair⟩ := tiles_append_iff.1 h
  obtain ⟨-, hback⟩ := tiles_pair_iff.1 hpair
  exact tiles_append_iff.2 ⟨hmin.symm ▸ hfront, tiles_pair_iff.2 ⟨hmeets, hback.ofFirst hmax⟩⟩

/-- One entry can take the place of two neighbours. -/
theorem join (h : Tiles start (front ++ a :: b :: back))
    (hmin : c.range.minWidth = a.range.minWidth) (hmax : c.range.maxWidth = b.range.maxWidth) :
    Tiles start (front ++ c :: back) := by
  obtain ⟨hfront, hpair⟩ := tiles_append_iff.1 h
  obtain ⟨-, hback⟩ := tiles_pair_iff.1 hpair
  exact tiles_append_iff.2 ⟨hmin.symm ▸ hfront, hback.ofFirst hmax⟩

/-- Two neighbours can take the place of one entry. -/
theorem part (h : Tiles start (front ++ c :: back))
    (hmin : a.range.minWidth = c.range.minWidth) (hmeets : a.range.Meets b.range)
    (hmax : b.range.maxWidth = c.range.maxWidth) : Tiles start (front ++ a :: b :: back) := by
  obtain ⟨hfront, hback⟩ := tiles_append_iff.1 h
  exact tiles_append_iff.2 ⟨hmin.symm ▸ hfront, tiles_pair_iff.2 ⟨hmeets, hback.ofFirst hmax⟩⟩

theorem maxWidth_last (h : Tiles start (front ++ [a])) : a.range.maxWidth = none := by
  cases (tiles_append_iff.1 h).2 with
  | last _ hmax => exact hmax
  | cons _ _ hrest => cases hrest

theorem meets (h : Tiles start (front ++ a :: b :: back)) : a.range.Meets b.range :=
  (tiles_pair_iff.1 (tiles_append_iff.1 h).2).1

end Tiles

theorem WidthRange.Meets.lt {r q : WidthRange} (h : r.Meets q) : r.minWidth < q.minWidth := by
  obtain ⟨m, hmax, hnext⟩ := WidthRange.meets_iff.1 h
  have hbounds := r.maxWidth_bounds m hmax
  omega

/-! ## Positions -/

namespace Grid

variable {s : Grid} {front back : List Entry} {e : Entry}

/-- The entry of an identity cuts the entries in two. -/
theorem exists_split {id : Id} (h : id ∈ s.ids) :
    ∃ front e back, s.entries = front ++ e :: back ∧ e.id = id := by
  obtain ⟨e, he, rfl⟩ := List.mem_map.1 h
  obtain ⟨front, back, hsplit⟩ := List.append_of_mem he
  exact ⟨front, e, back, hsplit, rfl⟩

theorem mem_of_split (h : s.entries = front ++ e :: back) : e ∈ s.entries := by
  rw [h]
  exact List.mem_append_right front List.mem_cons_self

theorem tiles_of_split (h : s.entries = front ++ e :: back) : Tiles 0 (front ++ e :: back) := by
  rw [← h]
  refine s.tiles ?_
  rw [h]
  exact List.append_ne_nil_of_right_ne_nil front (List.cons_ne_nil e back)

theorem indexOf?_of_split (h : s.entries = front ++ e :: back) :
    s.indexOf? e.id = some front.length := by
  have hnodup := s.nodup_ids
  rw [h, List.map_append, List.map_cons, List.nodup_append] at hnodup
  obtain ⟨-, -, hdisjoint⟩ := hnodup
  have hfront : front.findIdx? (fun f => f.id == e.id) = none := by
    rw [List.findIdx?_eq_none_iff]
    intro f hf
    exact beq_false_of_ne (hdisjoint f.id (List.mem_map_of_mem hf) e.id List.mem_cons_self)
  unfold indexOf?
  rw [h, List.findIdx?_append, hfront, List.findIdx?_cons, if_pos (beq_self_eq_true e.id)]
  simp

theorem indexOf?_eq_none {id : Id} (h : id ∉ s.ids) : s.indexOf? id = none := by
  unfold indexOf?
  rw [List.findIdx?_eq_none_iff]
  intro f hf
  refine beq_false_of_ne fun hid => h ?_
  exact hid ▸ List.mem_map_of_mem hf

end Grid

theorem getElem?_split (front : List Entry) (e : Entry) (back : List Entry) :
    (front ++ e :: back)[front.length]? = some e := by
  rw [List.getElem?_append_right (Nat.le_refl _), Nat.sub_self, List.getElem?_cons_zero]

theorem set_split (front : List Entry) (e e' : Entry) (back : List Entry) :
    (front ++ e :: back).set front.length e' = front ++ e' :: back := by
  rw [List.set_append_right _ _ (Nat.le_refl _), Nat.sub_self, List.set_cons_zero]

theorem eraseIdx_split (front : List Entry) (e : Entry) (back : List Entry) :
    (front ++ e :: back).eraseIdx front.length = front ++ back := by
  rw [List.eraseIdx_append_of_length_le (Nat.le_refl _), Nat.sub_self, List.eraseIdx_cons_zero]

theorem append_second (front : List Entry) (a b : Entry) (back : List Entry) :
    front ++ a :: b :: back = (front ++ [a]) ++ b :: back := by
  rw [List.append_assoc, List.singleton_append]

theorem patchAt_split (front back : List Entry) {e e' : Entry} {p : RangePatch}
    (he : e.patch p = .ok e') :
    Grid.patchAt (front ++ e :: back) front.length p = .ok (front ++ e' :: back) := by
  unfold Grid.patchAt
  rw [getElem?_split]
  simp only [he]
  rw [set_split]

theorem patchAt_split_eq_error (front back : List Entry) {e : Entry} {p : RangePatch}
    {v : Violation} (he : e.patch p = .error v) :
    Grid.patchAt (front ++ e :: back) front.length p = .error v := by
  unfold Grid.patchAt
  rw [getElem?_split]
  simp only [he]

theorem patchAt_second (front : List Entry) (a : Entry) (back : List Entry) {b b' : Entry}
    {p : RangePatch} (hb : b.patch p = .ok b') :
    Grid.patchAt (front ++ a :: b :: back) (front.length + 1) p =
      .ok (front ++ a :: b' :: back) := by
  have hpatch := patchAt_split (front ++ [a]) back hb
  rw [List.length_append, List.length_singleton] at hpatch
  rw [append_second, append_second, hpatch]

theorem patchAt_second_eq_error (front : List Entry) (a : Entry) (back : List Entry)
    {b : Entry} {p : RangePatch} {v : Violation} (hb : b.patch p = .error v) :
    Grid.patchAt (front ++ a :: b :: back) (front.length + 1) p = .error v := by
  have hpatch := patchAt_split_eq_error (front ++ [a]) back hb
  rw [List.length_append, List.length_singleton] at hpatch
  rw [append_second, hpatch]

end ResponsiveGrid
