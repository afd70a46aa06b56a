import Mathlib.Data.List.Nodup
import ResponsiveGrid.Proofs.Bounds
import ResponsiveGrid.Proofs.Grid.Session
import ResponsiveGrid.Proofs.Grid.Splice
set_option autoImplicit false

/-!
# Grid: what becomes of an edit

The five edits side by side, and what can become of each: the list of entries that it leaves
(`Grid.Yields`) or the fault that it is refused with (`Grid.Refuses`).  Both relations speak
of the entries around the one that is edited and not of positions.  An edit always does one
of the two (`Grid.yields_or_refuses`), and what it leaves is a partition again, so that the
closing check of an edit never refuses anything.
-/

namespace ResponsiveGrid

namespace Grid

/-! ## Edits -/

/-- An edit of a grid system; `α` is what an entry is addressed by. -/
inductive Edit (α : Type) where
  | add
  | remove (who : α)
  | resize (who : α) (edge : Edge) (value : Nat)
  | setField (who : α) (value : FieldValue)
  | place (who : α) (element : Element) (side : Side) (value : Nat)
  deriving DecidableEq, Repr

/-- What an edit addresses.  An addition addresses no entry. -/
def Edit.who? {α : Type} : Edit α → Option α
  | .add => none
  | .remove who => some who
  | .resize who _ _ => some who
  | .setField who _ => some who
  | .place who _ _ _ => some who

/-- The outcome of an edit; `next` is the next identity. -/
def edit (next : Id) (s : Grid) : Edit Id → Except EditFault Grid
  | .add => (s.add next).1
  | .remove id => s.remove id
  | .resize id edge value => s.resize id edge value
  | .setField id value => s.setField id value
  | .place id element side value => s.place id element side value

/-! ## What can become of an edit -/

/-- The list of entries that an edit leaves. -/
inductive Yields (s : Grid) (next : Id) : Edit Id → List Entry → Prop where
  /-- an empty system gets the seed -/
  | seed {e : Entry} (h : s.entries = []) (hid : e.id = next) (hseed : e.settings = .seed) :
      Yields s next .add [e]
  /-- the tail keeps the first widths of its range and a copy of it takes over the rest -/
  | tail {front : List Entry} {e kept added : Entry} {range : WidthRange}
      (h : s.entries = front ++ [e])
      (hkept : e.patch (.maxWidth (some (e.range.minWidth + addedSpan - 1))) = .ok kept)
      (hrange : WidthRange.of? (e.range.minWidth + addedSpan) none = .ok range)
      (hid : added.id = next) (hadded : added.settings = { e.settings with range := range }) :
      Yields s next .add (front ++ [kept, added])
  /-- the wider neighbour takes over the range of a removed entry -/
  | wider {front back : List Entry} {e b b' : Entry} (h : s.entries = front ++ e :: b :: back)
      (hb : b.patch (.minWidth e.range.minWidth) = .ok b') :
      Yields s next (.remove e.id) (front ++ b' :: back)
  /-- the narrower neighbour takes over the range of the removed tail -/
  | narrower {front : List Entry} {a a' e : Entry} (h : s.entries = front ++ [a, e])
      (ha : a.patch (.maxWidth e.range.maxWidth) = .ok a') :
      Yields s next (.remove e.id) (front ++ [a'])
  /-- nothing is left behind the removal of the only entry -/
  | only {e : Entry} (h : s.entries = [e]) : Yields s next (.remove e.id) []
  /-- the boundary in front of an entry is moved -/
  | lower {front back : List Entry} {a a' b b' : Entry} {value : Nat}
      (h : s.entries = front ++ a :: b :: back) (hvalue : 0 < value)
      (hb : b.patch (.minWidth value) = .ok b')
      (ha : a.patch (.maxWidth (some (value - 1))) = .ok a') :
      Yields s next (.resize b.id .minWidth value) (front ++ a' :: b' :: back)
  /-- the boundary behind an entry is moved -/
  | upper {front back : List Entry} {a a' b b' : Entry} {value : Nat}
      (h : s.entries = front ++ a :: b :: back) (hvalue : value < largest32)
      (ha : a.patch (.maxWidth (some value)) = .ok a')
      (hb : b.patch (.minWidth (value + 1)) = .ok b') :
      Yields s next (.resize a.id .maxWidth value) (front ++ a' :: b' :: back)
  | setField {front back : List Entry} {e e' : Entry} {value : FieldValue}
      (h : s.entries = front ++ e :: back) (he : e.setField value = .ok e') :
      Yields s next (.setField e.id value) (front ++ e' :: back)
  | place {front back : List Entry} {e e' : Entry} {element : Element} {side : Side}
      {value : Nat} (h : s.entries = front ++ e :: back)
      (he : e.place element side value = .ok e') :
      Yields s next (.place e.id element side value) (front ++ e' :: back)

/-- The fault that an edit is refused with. -/
inductive Refuses (s : Grid) : Edit Id → EditFault → Prop where
  | unknownId {e : Edit Id} {id : Id} (hwho : e.who? = some id) (h : id ∉ s.ids) :
      Refuses s e (.refusal (.unknownId id))
  /-- there is no width that the tail could end at -/
  | tailEnd {front : List Entry} {e : Entry} (h : s.entries = front ++ [e])
      (hend : 9999 < e.range.minWidth + addedSpan - 1) :
      Refuses s .add (.violation (.maxWidthOutOfRange (e.range.minWidth + addedSpan - 1)))
  /-- there is no width that a new tail could start at -/
  | tailStart {front : List Entry} {e : Entry} (h : s.entries = front ++ [e])
      (hend : e.range.minWidth + addedSpan - 1 ≤ 9999)
      (hstart : 9998 < e.range.minWidth + addedSpan) :
      Refuses s .add (.violation (.minWidthOutOfRange (e.range.minWidth + addedSpan)))
  /-- the narrowest width is pinned -/
  | axisStart {e : Entry} {back : List Entry} {value : Nat} (h : s.entries = e :: back) :
      Refuses s (.resize e.id .minWidth value) (.violation (.fixedBoundary e.id .minWidth))
  /-- the end of the axis is pinned -/
  | axisEnd {front : List Entry} {e : Entry} {value : Nat} (h : s.entries = front ++ [e]) :
      Refuses s (.resize e.id .maxWidth value) (.violation (.fixedBoundary e.id .maxWidth))
  /-- nothing is narrower than zero -/
  | underflow {front back : List Entry} {a b : Entry} (h : s.entries = front ++ a :: b :: back) :
      Refuses s (.resize b.id .minWidth 0) (.violation (.widthUnderflow 0))
  /-- the largest width has no successor -/
  | overflow {front back : List Entry} {a b : Entry} {value : Nat}
      (h : s.entries = front ++ a :: b :: back) (hvalue : largest32 ≤ value) :
      Refuses s (.resize a.id .maxWidth value) (.violation (.minWidthOutOfRange value))
  /-- the entry could not start there -/
  | lowerOwn {front back : List Entry} {a b : Entry} {value : Nat} {v : Violation}
      (h : s.entries = front ++ a :: b :: back) (hvalue : 0 < value)
      (hb : WidthRange.Broken value b.range.maxWidth v) :
      Refuses s (.resize b.id .minWidth value) (.violation v)
  /-- the entry could start there, but its neighbour could not end there -/
  | lowerFacing {front back : List Entry} {a b b' : Entry} {value : Nat} {v : Violation}
      (h : s.entries = front ++ a :: b :: back) (hvalue : 0 < value)
      (hb : b.patch (.minWidth value) = .ok b')
      (ha : WidthRange.Broken a.range.minWidth (some (value - 1)) v) :
      Refuses s (.resize b.id .minWidth value) (.violation v)
  /-- the entry could not end there -/
  | upperOwn {front back : List Entry} {a b : Entry} {value : Nat} {v : Violation}
      (h : s.entries = front ++ a :: b :: back) (hvalue : value < largest32)
      (ha : WidthRange.Broken a.range.minWidth (some value) v) :
      Refuses s (.resize a.id .maxWidth value) (.violation v)
  /-- the entry could end there, but its neighbour could not start there -/
  | upperFacing {front back : List Entry} {a a' b : Entry} {value : Nat} {v : Violation}
      (h : s.entries = front ++ a :: b :: back) (hvalue : value < largest32)
      (ha : a.patch (.maxWidth (some value)) = .ok a')
      (hb : WidthRange.Broken (value + 1) b.range.maxWidth v) :
      Refuses s (.resize a.id .maxWidth value) (.violation v)
  | setField {front back : List Entry} {e : Entry} {value : FieldValue} {v : Violation}
      (h : s.entries = front ++ e :: back) (he : e.setField value = .error v)
      (hfield : v.OfField) : Refuses s (.setField e.id value) (.violation v)
  | place {front back : List Entry} {e : Entry} {element : Element} {side : Side}
      {value : Nat} {v : Violation} (h : s.entries = front ++ e :: back)
      (he : e.place element side value = .error v) (hfield : v.OfField) :
      Refuses s (.place e.id element side value) (.violation v)

/-! ## The closing check -/

/-- Entries that tile all widths under different identities pass the closing check. -/
theorem exists_lift_of_tiles {entries : List Entry} (htiles : Tiles 0 entries)
    (hids : (entries.map Entry.id).Nodup) :
    ∃ t, lift (ofEntries? entries) = .ok t ∧ t.entries = entries := by
  have hpartition : partitionFault? entries = none :=
    (partitionFault?_eq_none_iff entries).2 (.inr ⟨htiles, hids⟩)
  exact ⟨⟨entries, hpartition⟩, lift_ofEntries?_eq_ok_iff.2 rfl, rfl⟩

section

variable {s : Grid} {next : Id} {front back : List Entry} {a b e : Entry}

theorem nodup_of_split (h : s.entries = front ++ e :: back) :
    ((front ++ e :: back).map Entry.id).Nodup := by
  rw [← h]
  exact s.nodup_ids

theorem ne_of_split (h : s.entries = front ++ e :: back) : ∀ f ∈ front ++ back, f.id ≠ e.id := by
  have hnodup := nodup_of_split h
  rw [List.map_append, List.map_cons, List.nodup_middle, List.nodup_cons, ← List.map_append]
    at hnodup
  exact fun f hf hid => hnodup.1 (List.mem_map.2 ⟨f, hf, hid⟩)

/-! ## The edits around an entry -/

/-- Below an entry with a narrower neighbour, the entry is patched first and its neighbour
second, and the closing check comes last. -/
theorem resize_lower_eq (h : s.entries = front ++ a :: b :: back) {value : Nat}
    (hvalue : 0 < value) :
    s.resize b.id .minWidth value =
      lift ((b.patch (.minWidth value)).bind fun b' =>
        (a.patch (.maxWidth (some (value - 1)))).bind fun a' =>
          ofEntries? (front ++ a' :: b' :: back)) := by
  have hindex := indexOf?_of_split (h.trans (append_second front a b back))
  rw [List.length_append, List.length_singleton] at hindex
  unfold resize
  rw [hindex]
  simp only
  rw [if_neg (Nat.succ_ne_zero _), if_neg (Nat.ne_of_gt hvalue), Nat.add_sub_cancel]
  unfold moveBoundary
  rw [h]
  cases hb : b.patch (.minWidth value) with
  | error v =>
    rw [patchAt_second_eq_error front a back hb]
    rfl
  | ok b' =>
    rw [patchAt_second front a back hb]
    simp only
    cases ha : a.patch (.maxWidth (some (value - 1))) with
    | error v =>
      rw [patchAt_split_eq_error front (b' :: back) ha]
      rfl
    | ok a' =>
      rw [patchAt_split front (b' :: back) ha]
      rfl

theorem resize_upper_eq (h : s.entries = front ++ a :: b :: back) {value : Nat}
    (hvalue : value < largest32) :
    s.resize a.id .maxWidth value =
      lift ((a.patch (.maxWidth (some value))).bind fun a' =>
        (b.patch (.minWidth (value + 1))).bind fun b' =>
          ofEntries? (front ++ a' :: b' :: back)) := by
  have hsize : ¬ s.size ≤ front.length + 1 := by
    unfold size
    rw [h, List.length_append, List.length_cons, List.length_cons]
    omega
  unfold resize
  rw [indexOf?_of_split h]
  simp only
  rw [if_neg hsize, if_neg (Nat.not_le.2 hvalue)]
  unfold moveBoundary
  rw [h]
  cases ha : a.patch (.maxWidth (some value)) with
  | error v =>
    rw [patchAt_split_eq_error front (b :: back) ha]
    rfl
  | ok a' =>
    rw [patchAt_split front (b :: back) ha]
    simp only
    cases hb : b.patch (.minWidth (value + 1)) with
    | error v =>
      rw [patchAt_second_eq_error front a' back hb]
      rfl
    | ok b' =>
      rw [patchAt_second front a' back hb]
      rfl

theorem change_eq (h : s.entries = front ++ e :: back) {f : Entry → Except Violation Entry}
    {e' : Entry} (he : f e = .ok e') :
    s.change e.id f = lift (ofEntries? (front ++ e' :: back)) := by
  unfold change
  rw [indexOf?_of_split h]
  simp only [h, getElem?_split, he, set_split]

theorem change_eq_error (h : s.entries = front ++ e :: back)
    {f : Entry → Except Violation Entry} {v : Violation} (he : f e = .error v) :
    s.change e.id f = .error (.violation v) := by
  unfold change
  rw [indexOf?_of_split h]
  simp only [h, getElem?_split, he]

/-- The range of a removed entry goes to its wider neighbour. -/
theorem remove_wider_eq (h : s.entries = front ++ e :: b :: back) {b' : Entry}
    (hb : b.patch (.minWidth e.range.minWidth) = .ok b') :
    s.remove e.id = lift (ofEntries? (front ++ b' :: back)) := by
  have hinside : front.length < (front ++ b :: back).length := by
    rw [List.length_append, List.length_cons]
    omega
  unfold remove
  rw [indexOf?_of_split h]
  simp only [h, getElem?_split, eraseIdx_split]
  rw [if_pos hinside, patchAt_split front back hb]

/-- The range of the removed tail goes to its narrower neighbour. -/
theorem remove_narrower_eq (h : s.entries = front ++ [a, e]) {a' : Entry}
    (ha : a.patch (.maxWidth e.range.maxWidth) = .ok a') :
    s.remove e.id = lift (ofEntries? (front ++ [a'])) := by
  have hsplit := h.trans (append_second front a e [])
  have houtside : ¬ (front ++ [a]).length < (front ++ [a]).length := Nat.lt_irrefl _
  have hinner : 0 < (front ++ [a]).length := by simp
  have hlast : (front ++ [a]).length - 1 = front.length := by simp
  unfold remove
  rw [indexOf?_of_split hsplit]
  simp only [hsplit, getElem?_split, eraseIdx_split, List.append_nil]
  rw [if_neg houtside, if_pos hinner, hlast, patchAt_split front [] ha]

theorem remove_only_eq (h : s.entries = [e]) : s.remove e.id = lift (ofEntries? []) := by
  have hindex := @indexOf?_of_split s [] [] e h
  unfold remove
  rw [hindex]
  simp only [h]
  rfl

theorem add_seed_eq (h : s.entries = []) (hid : e.id = next) (hseed : e.settings = .seed) :
    s.add next = (lift (ofEntries? [e]), next + 1) := by
  unfold add
  rw [h, List.getLast?_nil]
  simp only [Entry.of?_eq_ok_iff.2 ⟨hid, hseed⟩]

theorem add_tail_eq (h : s.entries = front ++ [e]) {kept added : Entry} {range : WidthRange}
    (hkept : e.patch (.maxWidth (some (e.range.minWidth + addedSpan - 1))) = .ok kept)
    (hrange : WidthRange.of? (e.range.minWidth + addedSpan) none = .ok range)
    (hid : added.id = next) (hadded : added.settings = { e.settings with range := range }) :
    s.add next = (lift (ofEntries? (front ++ [kept, added])), next + 1) := by
  unfold add
  rw [h, List.getLast?_concat, List.dropLast_concat]
  simp only [hkept, hrange, Entry.of?_eq_ok_iff.2 ⟨hid, hadded⟩]

end

/-! ## What an edit yields -/

theorem meets_of_eq {a b : Entry} {m : Nat} (ha : a.range.maxWidth = some m)
    (hb : b.range.minWidth = m + 1) : a.range.Meets b.range :=
  WidthRange.meets_iff.2 ⟨m, ha, hb.symm⟩

theorem map_id_split {front back : List Entry} {e e' : Entry} (hid : e'.id = e.id) :
    (front ++ e' :: back).map Entry.id = (front ++ e :: back).map Entry.id := by
  simp only [List.map_append, List.map_cons, hid]

theorem exists_lift_of_move {s : Grid} {front back : List Entry} {a a' b b' : Entry} {m : Nat}
    (h : s.entries = front ++ a :: b :: back) (ha : a.patch (.maxWidth (some m)) = .ok a')
    (hb : b.patch (.minWidth (m + 1)) = .ok b') :
    ∃ t, lift (ofEntries? (front ++ a' :: b' :: back)) = .ok t ∧
      t.entries = front ++ a' :: b' :: back := by
  obtain ⟨hmin, hmax⟩ := Entry.ends_of_patch_maxWidth ha
  obtain ⟨hstart, hend⟩ := Entry.ends_of_patch_minWidth hb
  refine exists_lift_of_tiles ((tiles_of_split h).move hmin (meets_of_eq hmax hstart) hend) ?_
  rw [map_id_split (Entry.id_of_patch ha), append_second, map_id_split (Entry.id_of_patch hb),
    ← append_second]
  exact nodup_of_split h

theorem exists_lift_of_join {s : Grid} {front back : List Entry} {a b c : Entry}
    (h : s.entries = front ++ a :: b :: back) (hmin : c.range.minWidth = a.range.minWidth)
    (hmax : c.range.maxWidth = b.range.maxWidth) (hid : c.id = a.id ∨ c.id = b.id) :
    ∃ t, lift (ofEntries? (front ++ c :: back)) = .ok t ∧ t.entries = front ++ c :: back := by
  refine exists_lift_of_tiles ((tiles_of_split h).join hmin hmax) ?_
  rcases hid with hid | hid
  · rw [map_id_split hid]
    refine (nodup_of_split h).sublist (List.Sublist.map Entry.id ?_)
    exact List.Sublist.append_left (List.Sublist.cons_cons a (List.sublist_cons_self b back)) front
  · rw [map_id_split hid]
    refine (nodup_of_split h).sublist (List.Sublist.map Entry.id ?_)
    exact List.Sublist.append_left (List.sublist_cons_self a (b :: back)) front

theorem exists_lift_of_part {s : Grid} {next : Id} {front : List Entry} {a b e : Entry}
    (h : s.entries = front ++ [e]) (hmin : a.range.minWidth = e.range.minWidth)
    (hmeets : a.range.Meets b.range) (hmax : b.range.maxWidth = none) (hkept : a.id = e.id)
    (hadded : b.id = next) (hnext : next ∉ s.ids) :
    ∃ t, lift (ofEntries? (front ++ [a, b])) = .ok t ∧ t.entries = front ++ [a, b] := by
  have htiles := tiles_of_split h
  refine exists_lift_of_tiles (htiles.part hmin hmeets (hmax.trans htiles.maxWidth_last.symm)) ?_
  have hids : (front ++ [a, b]).map Entry.id = s.ids ++ [next] := by
    unfold ids
    simp [h, hkept, hadded]
  rw [hids, List.nodup_append]
  refine ⟨s.nodup_ids, List.nodup_singleton next, ?_⟩
  rintro id hmem other hother rfl
  exact hnext (List.mem_singleton.1 hother ▸ hmem)

theorem exists_change_eq {s : Grid} {front back : List Entry} {e e' : Entry}
    {f : Entry → Except Violation Entry} (h : s.entries = front ++ e :: back) (he : f e = .ok e')
    (hid : e'.id = e.id) (hrange : e'.range = e.range) :
    ∃ t, s.change e.id f = .ok t ∧ t.entries = front ++ e' :: back := by
  rw [change_eq h he]
  refine exists_lift_of_tiles ((tiles_of_split h).replace ?_ ?_) ?_
  · rw [hrange]
  · rw [hrange]
  · rw [map_id_split hid]
    exact nodup_of_split h

/-- What an edit leaves is a system, and the edit makes it. -/
theorem edit_of_yields {s : Grid} {next : Id} {edit : Edit Id} {entries : List Entry}
    (hnext : next ∉ s.ids) (h : s.Yields next edit entries) :
    ∃ t, s.edit next edit = .ok t ∧ t.entries = entries := by
  unfold Grid.edit
  cases h with
  | @seed e h hid hseed =>
    simp only [add_seed_eq h hid hseed]
    refine exists_lift_of_tiles (.last ?_ ?_) (List.nodup_singleton _)
    · exact congrArg (fun settings => settings.range.minWidth) hseed
    · exact congrArg (fun settings => settings.range.maxWidth) hseed
  | @tail front e kept added range h hkept hrange hid hadded =>
    simp only [add_tail_eq h hkept hrange hid hadded]
    obtain ⟨hmin, hmax⟩ := Entry.ends_of_patch_maxWidth hkept
    obtain ⟨hstart, hend⟩ := WidthRange.of?_eq_ok_iff.1 hrange
    have hrange : added.range = range := congrArg Settings.range hadded
    rw [← hrange] at hstart hend
    exact exists_lift_of_part h hmin (meets_of_eq hmax hstart) hend (Entry.id_of_patch hkept) hid
      hnext
  | @wider front back e b b' h hb =>
    simp only [remove_wider_eq h hb]
    obtain ⟨hmin, hmax⟩ := Entry.ends_of_patch_minWidth hb
    exact exists_lift_of_join h hmin hmax (.inr (Entry.id_of_patch hb))
  | @narrower front a a' e h ha =>
    simp only [remove_narrower_eq h ha]
    obtain ⟨hmin, hmax⟩ := Entry.ends_of_patch_maxWidth ha
    exact exists_lift_of_join h hmin hmax (.inl (Entry.id_of_patch ha))
  | @only e h =>
    simp only [remove_only_eq h]
    exact ⟨.empty, rfl, rfl⟩
  | @lower front back a a' b b' value h hvalue hb ha =>
    simp only [resize_lower_eq h hvalue, hb, ha, Except.bind]
    obtain ⟨m, rfl⟩ := Nat.exists_eq_add_one_of_ne_zero (Nat.ne_of_gt hvalue)
    exact exists_lift_of_move h ha hb
  | @upper front back a a' b b' value h hvalue ha hb =>
    simp only [resize_upper_eq h hvalue, ha, hb, Except.bind]
    exact exists_lift_of_move h ha hb
  | setField h he =>
    exact exists_change_eq h he (Entry.id_of_setField he) (Entry.range_of_setField he)
  | place h he => exact exists_change_eq h he (Entry.id_of_place he) (Entry.range_of_place he)

/-! ## What an edit is refused for -/

/-- An edit is refused with the faults that are listed. -/
theorem edit_of_refuses {s : Grid} {edit : Edit Id} {fault : EditFault} (next : Id)
    (h : s.Refuses edit fault) : s.edit next edit = .error fault := by
  unfold Grid.edit
  cases h with
  | @unknownId edit id hwho h =>
    have hindex := indexOf?_eq_none h
    cases edit with
    | add => cases hwho
    | remove who =>
      cases hwho
      simp only [remove, hindex]
    | resize who edge value =>
      cases hwho
      simp only [resize, hindex]
    | setField who value =>
      cases hwho
      simp only [Grid.setField, change, hindex]
    | place who element side value =>
      cases hwho
      simp only [Grid.place, change, hindex]
  | @tailEnd front e h hend =>
    have hkept : e.patch (.maxWidth (some (e.range.minWidth + addedSpan - 1))) =
        .error (.maxWidthOutOfRange (e.range.minWidth + addedSpan - 1)) :=
      Entry.patch_maxWidth_eq_error_iff.2 (.maxWidth e.range.minWidth_le (.inr hend))
    unfold add
    simp only [h, List.getLast?_concat, hkept]
  | @tailStart front e h hend hstart =>
    have hlonger : e.range.minWidth < e.range.minWidth + addedSpan - 1 := by
      unfold addedSpan
      omega
    obtain ⟨kept, hkept⟩ : ∃ kept,
        e.patch (.maxWidth (some (e.range.minWidth + addedSpan - 1))) = .ok kept :=
      Entry.exists_patch (WidthRange.exists_of?_between ⟨hlonger, hend⟩)
    have hrange := WidthRange.of?_eq_error_iff.2
      (WidthRange.Broken.minWidth hstart : WidthRange.Broken _ none _)
    unfold add
    simp only [h, List.getLast?_concat, hkept, hrange]
  | @axisStart e back value h =>
    have hindex := @indexOf?_of_split s [] back e h
    simp only [resize, hindex, List.length_nil, if_pos]
  | @axisEnd front e value h =>
    have hsize : s.size ≤ front.length + 1 := by
      unfold size
      rw [h, List.length_append, List.length_singleton]
    simp only [resize, indexOf?_of_split h]
    rw [if_pos hsize]
  | @underflow front back a b h =>
    have hindex := indexOf?_of_split (h.trans (append_second front a b back))
    have hne : (front ++ [a]).length ≠ 0 := by simp
    simp only [resize, hindex]
    rw [if_neg hne]
    rfl
  | @overflow front back a b value h hvalue =>
    have hsize : ¬ s.size ≤ front.length + 1 := by
      unfold size
      rw [h, List.length_append, List.length_cons, List.length_cons]
      omega
    simp only [resize, indexOf?_of_split h]
    rw [if_neg hsize, if_pos hvalue]
  | @lowerOwn front back a b value v h hvalue hb =>
    simp only [resize_lower_eq h hvalue, Entry.patch_minWidth_eq_error_iff.2 hb]
    rfl
  | @lowerFacing front back a b b' value v h hvalue hb ha =>
    simp only [resize_lower_eq h hvalue, hb, Entry.patch_maxWidth_eq_error_iff.2 ha]
    rfl
  | @upperOwn front back a b value v h hvalue ha =>
    simp only [resize_upper_eq h hvalue, Entry.patch_maxWidth_eq_error_iff.2 ha]
    rfl
  | @upperFacing front back a a' b value v h hvalue ha hb =>
    simp only [resize_upper_eq h hvalue, ha, Entry.patch_minWidth_eq_error_iff.2 hb]
    rfl
  | setField h he hfield => exact change_eq_error h he
  | place h he hfield => exact change_eq_error h he

/-! ## One or the other -/

theorem valid_seed : Settings.seed.Valid := by decide +kernel

theorem add_yields_or_refuses (s : Grid) (next : Id) :
    (∃ entries, s.Yields next .add entries) ∨ ∃ fault, s.Refuses .add fault := by
  rcases List.eq_nil_or_concat' s.entries with h | ⟨front, e, h⟩
  · exact .inl ⟨_, .seed (e := ⟨next, .seed, valid_seed⟩) h rfl rfl⟩
  cases hkept : e.patch (.maxWidth (some (e.range.minWidth + addedSpan - 1))) with
  | error v =>
    -- only the bound of the axis can be broken: the kept part is neither empty nor out of place
    cases Entry.patch_maxWidth_eq_error_iff.1 hkept with
    | minWidth hleast => exact absurd e.range.minWidth_le (Nat.not_le.2 hleast)
    | maxWidth _ hend =>
      refine .inr ⟨_, .tailEnd h ?_⟩
      unfold addedSpan at hend ⊢
      omega
    | empty _ _ hempty =>
      unfold addedSpan at hempty
      omega
  | ok kept =>
    have hend : e.range.minWidth + addedSpan - 1 ≤ 9999 :=
      (kept.range.maxWidth_bounds _ (Entry.ends_of_patch_maxWidth hkept).2).2
    cases hrange : WidthRange.of? (e.range.minWidth + addedSpan) none with
    | error v =>
      cases WidthRange.of?_eq_error_iff.1 hrange with
      | minWidth hstart => exact .inr ⟨_, .tailStart h hend hstart⟩
    | ok range =>
      let added : Entry := ⟨next, { e.settings with range := range }, e.valid.onRange range⟩
      have hadded : added.settings = { e.settings with range := range } := rfl
      exact .inl ⟨_, .tail h hkept hrange rfl hadded⟩

theorem exists_patch_start {s : Grid} {front back : List Entry} {e b : Entry}
    (h : s.entries = front ++ e :: b :: back) :
    ∃ b', b.patch (.minWidth e.range.minWidth) = .ok b' :=
  Entry.exists_patch (b.range.exists_of?_lower (Nat.le_of_lt (tiles_of_split h).meets.lt))

/-- The entry in front of the tail can end where the tail does, and that is nowhere. -/
theorem exists_patch_end {s : Grid} {front : List Entry} {a e : Entry}
    (h : s.entries = front ++ [a, e]) : ∃ a', a.patch (.maxWidth e.range.maxWidth) = .ok a' := by
  have hlast := (tiles_of_split (h.trans (append_second front a e []))).maxWidth_last
  rw [hlast]
  exact Entry.exists_patch a.range.exists_of?_onward

/-- The removal of an entry yields a list of entries: a neighbour can always take over its
range, the wider one by starting further down, the narrower one by going on for ever. -/
theorem exists_yields_remove {s : Grid} {front back : List Entry} {e : Entry} (next : Id)
    (h : s.entries = front ++ e :: back) : ∃ entries, s.Yields next (.remove e.id) entries := by
  cases back with
  | cons b back =>
    obtain ⟨b', hb⟩ := exists_patch_start h
    exact ⟨_, .wider h hb⟩
  | nil =>
    rcases List.eq_nil_or_concat' front with rfl | ⟨front, a, rfl⟩
    · exact ⟨_, .only h⟩
    · have hpair := h.trans (append_second front a e []).symm
      obtain ⟨a', ha⟩ := exists_patch_end hpair
      exact ⟨_, .narrower hpair ha⟩

theorem lower_yields_or_refuses {s : Grid} {front back : List Entry} {b : Entry} (next : Id)
    (h : s.entries = front ++ b :: back) (value : Nat) :
    (∃ entries, s.Yields next (.resize b.id .minWidth value) entries) ∨
      ∃ fault, s.Refuses (.resize b.id .minWidth value) fault := by
  rcases List.eq_nil_or_concat' front with rfl | ⟨front, a, rfl⟩
  · exact .inr ⟨_, .axisStart h⟩
  have h := h.trans (append_second front a b back).symm
  rcases Nat.eq_zero_or_pos value with rfl | hvalue
  · exact .inr ⟨_, .underflow h⟩
  cases hb : b.patch (.minWidth value) with
  | error v => exact .inr ⟨_, .lowerOwn h hvalue (Entry.patch_minWidth_eq_error_iff.1 hb)⟩
  | ok b' =>
    cases ha : a.patch (.maxWidth (some (value - 1))) with
    | error v => exact .inr ⟨_, .lowerFacing h hvalue hb (Entry.patch_maxWidth_eq_error_iff.1 ha)⟩
    | ok a' => exact .inl ⟨_, .lower h hvalue hb ha⟩

theorem upper_yields_or_refuses {s : Grid} {front back : List Entry} {a : Entry} (next : Id)
    (h : s.entries = front ++ a :: back) (value : Nat) :
    (∃ entries, s.Yields next (.resize a.id .maxWidth value) entries) ∨
      ∃ fault, s.Refuses (.resize a.id .maxWidth value) fault := by
  cases back with
  | nil => exact .inr ⟨_, .axisEnd h⟩
  | cons b back =>
    rcases Nat.lt_or_ge value largest32 with hvalue | hvalue
    · cases ha : a.patch (.maxWidth (some value)) with
      | error v => exact .inr ⟨_, .upperOwn h hvalue (Entry.patch_maxWidth_eq_error_iff.1 ha)⟩
      | ok a' =>
        cases hb : b.patch (.minWidth (value + 1)) with
        | error v =>
          exact .inr ⟨_, .upperFacing h hvalue ha (Entry.patch_minWidth_eq_error_iff.1 hb)⟩
        | ok b' => exact .inl ⟨_, .upper h hvalue ha hb⟩
    · exact .inr ⟨_, .overflow h hvalue⟩

/-- An edit always yields a list of entries or is refused. -/
theorem yields_or_refuses (s : Grid) (next : Id) (edit : Edit Id) :
    (∃ entries, s.Yields next edit entries) ∨ ∃ fault, s.Refuses edit fault := by
  cases hwho : edit.who? with
  | none =>
    cases edit with
    | add => exact s.add_yields_or_refuses next
    | _ => cases hwho
  | some id =>
    by_cases hid : id ∈ s.ids
    · obtain ⟨front, e, back, h, rfl⟩ := exists_split hid
      cases edit with
      | add => cases hwho
      | remove who =>
        cases hwho
        exact .inl (exists_yields_remove next h)
      | resize who edge value =>
        cases hwho
        cases edge with
        | minWidth => exact lower_yields_or_refuses next h value
        | maxWidth => exact upper_yields_or_refuses next h value
      | setField who value =>
        cases hwho
        cases he : e.setField value with
        | error v =>
          exact .inr ⟨_, .setField h he (Settings.ofField_of_check (Entry.of?_eq_error_iff.1 he))⟩
        | ok e' => exact .inl ⟨_, .setField h he⟩
      | place who element side value =>
        cases hwho
        cases he : e.place element side value with
        | error v =>
          exact .inr ⟨_, .place h he (Settings.ofField_of_check (Entry.of?_eq_error_iff.1 he))⟩
        | ok e' => exact .inl ⟨_, .place h he⟩
    · exact .inr ⟨_, .unknownId hwho hid⟩

theorem eq_of_entries {s t : Grid} (h : s.entries = t.entries) : s = t := by
  cases s
  cases t
  cases h
  rfl

section

variable {s : Grid} {next : Id} {edit : Edit Id}

/-- An edit makes a system exactly when it yields the entries of that system. -/
theorem edit_eq_ok_iff (hnext : next ∉ s.ids) {t : Grid} :
    s.edit next edit = .ok t ↔ s.Yields next edit t.entries := by
  constructor
  · intro hedit
    rcases s.yields_or_refuses next edit with ⟨entries, hyields⟩ | ⟨fault, hrefuses⟩
    · obtain ⟨u, hu, rfl⟩ := edit_of_yields hnext hyields
      cases hedit.symm.trans hu
      exact hyields
    · cases hedit.symm.trans (edit_of_refuses next hrefuses)
  · intro hyields
    obtain ⟨u, hu, hentries⟩ := edit_of_yields hnext hyields
    rw [hu, eq_of_entries hentries]

/-- An edit is refused with a fault exactly when that fault is listed for it. -/
theorem edit_eq_error_iff (hnext : next ∉ s.ids) {fault : EditFault} :
    s.edit next edit = .error fault ↔ s.Refuses edit fault := by
  constructor
  · intro hedit
    rcases s.yields_or_refuses next edit with ⟨entries, hyields⟩ | ⟨other, hrefuses⟩
    · obtain ⟨u, hu, -⟩ := edit_of_yields hnext hyields
      cases hedit.symm.trans hu
    · cases hedit.symm.trans (edit_of_refuses next hrefuses)
      exact hrefuses
  · exact edit_of_refuses next

end

/-! ## Kinds of faults -/

/-- The faults that concern an edit: what it addresses, the fields and ranges that it
changes, and the value that it is given. -/
def Edit.Concerns : Edit Id → EditFault → Prop
  | .add, .violation (.minWidthOutOfRange _) => True
  | .add, .violation (.maxWidthOutOfRange _) => True
  | .remove id, .refusal (.unknownId who) => who = id
  | .resize id _ _, .refusal (.unknownId who) => who = id
  | .resize id edge _, .violation (.fixedBoundary who side) => who = id ∧ side = edge
  | .resize _ _ value, .violation (.widthUnderflow width) => width = value
  | .resize _ _ _, .violation v => v.OfRange
  | .setField id _, .refusal (.unknownId who) => who = id
  | .setField _ _, .violation v => v.OfField
  | .place id _ _ _, .refusal (.unknownId who) => who = id
  | .place _ _ _ _, .violation v => v.OfField
  | _, _ => False

theorem concerns_of_broken {id : Id} {edge : Edge} {value least : Nat} {greatest : Option Nat}
    {v : Violation} (h : WidthRange.Broken least greatest v) :
    (Edit.resize id edge value).Concerns (.violation v) := by
  cases h <;> trivial

/-- What an edit is refused with concerns it. -/
theorem Refuses.concerns {s : Grid} {edit : Edit Id} {fault : EditFault}
    (h : s.Refuses edit fault) : edit.Concerns fault := by
  cases h with
  | @unknownId edit id hwho _ =>
    cases edit <;> cases hwho <;> rfl
  | tailEnd => trivial
  | tailStart => trivial
  | axisStart => exact ⟨rfl, rfl⟩
  | axisEnd => exact ⟨rfl, rfl⟩
  | underflow => rfl
  | overflow => trivial
  | lowerOwn _ _ hb => exact concerns_of_broken hb
  | lowerFacing _ _ _ ha => exact concerns_of_broken ha
  | upperOwn _ _ ha => exact concerns_of_broken ha
  | upperFacing _ _ _ hb => exact concerns_of_broken hb
  | setField _ _ hfield => exact hfield
  | place _ _ hfield => exact hfield

/-- Nothing that concerns an edit is about the list of entries as a whole. -/
theorem Edit.not_concerns_of_ofPartition {edit : Edit Id} {v : Violation} (h : v.OfPartition) :
    ¬ edit.Concerns (.violation v) := by
  intro hconcerns
  cases v <;> cases edit <;> first | exact h | exact hconcerns

end Grid

namespace Session

/-- No identity of the system is still to be taken. -/
def Ahead (s : Session) : Prop := ∀ id ∈ s.grid.ids, id < s.next

theorem Ahead.next_not_mem {s : Session} (h : s.Ahead) : s.next ∉ s.grid.ids :=
  fun hmem => Nat.lt_irrefl _ (h _ hmem)

theorem Ahead.step {s : Session} (h : s.Ahead) (step : Step) : (s.step step).Ahead := by
  obtain ⟨hle, hknown⟩ := s.known_step step
  intro id hid
  rcases hknown id hid with hold | ⟨-, hnew⟩
  · exact Nat.lt_of_lt_of_le (h id hold) hle
  · exact hnew

theorem Ahead.run {s : Session} (h : s.Ahead) (steps : List Step) : (s.run steps).Ahead := by
  induction steps generalizing s with
  | nil => exact h
  | cons step rest ih => exact ih (h.step step)

theorem ahead_start : start.Ahead := fun _ hid => absurd hid List.not_mem_nil

/-- In every session each edit does one of two things: it leaves the list of entries that it
yields, or it is refused with a fault that is listed for it.  Such a fault concerns the edit;
none is that of a list of entries that is no partition, so the closing check of an edit never
refuses what the edit has put together. -/
theorem edit_restores_partition (steps : List Step) (edit : Grid.Edit Id) :
    (∀ t, (start.run steps).grid.edit (start.run steps).next edit = .ok t ↔
      (start.run steps).grid.Yields (start.run steps).next edit t.entries) ∧
    (∀ fault, (start.run steps).grid.edit (start.run steps).next edit = .error fault ↔
      (start.run steps).grid.Refuses edit fault) ∧
    (∀ fault, (start.run steps).grid.edit (start.run steps).next edit = .error fault →
      edit.Concerns fault) ∧
    ∀ v, v.OfPartition →
      (start.run steps).grid.edit (start.run steps).next edit ≠ .error (.violation v) := by
  have hnext := (ahead_start.run steps).next_not_mem
  have hconcerns : ∀ fault,
      (start.run steps).grid.edit (start.run steps).next edit = .error fault →
        edit.Concerns fault :=
    fun fault hedit => ((Grid.edit_eq_error_iff hnext).1 hedit).concerns
  refine ⟨fun t => Grid.edit_eq_ok_iff hnext, fun fault => Grid.edit_eq_error_iff hnext,
    hconcerns, fun v hv hedit => ?_⟩
  exact Grid.Edit.not_concerns_of_ofPartition hv (hconcerns _ hedit)

end Session

end ResponsiveGrid
