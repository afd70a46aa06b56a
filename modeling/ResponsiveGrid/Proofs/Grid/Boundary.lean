import ResponsiveGrid.Proofs.Grid.Neighbours
import ResponsiveGrid.Proofs.Grid.Outcome
set_option autoImplicit false

/-!
# Grid: the boundary between two neighbours

Two edges lie on the boundary between two neighbours: the greatest width of the narrower one
and the least width of the wider one.  `Grid.resize_eq_ok_iff` says for both edges at once what
an accepted move has done: the boundary lies elsewhere (`Shares`), and nothing else is changed.
When a move is accepted follows from the two ranges (`Grid.exists_resize_iff`).  What a move
reads of the two neighbours is what it leaves alone (`Grid.resize_congr`), so that only the
last of several moves of one edge counts, and every move can be undone.
-/

namespace ResponsiveGrid

/-! ## Edges -/

namespace Edge

/-- Of two neighbours, the one whose edge lies on the boundary between them. -/
def owner (edge : Edge) (a b : Entry) : Entry :=
  match edge with
  | .minWidth => b
  | .maxWidth => a

/-- Of two neighbours, the one across the boundary. -/
def across (edge : Edge) (a b : Entry) : Entry :=
  match edge with
  | .minWidth => a
  | .maxWidth => b

/-- The last width below a boundary when the edge is at a width. -/
def below (edge : Edge) (value : Nat) : Nat :=
  match edge with
  | .minWidth => value - 1
  | .maxWidth => value

/-- The first width above a boundary when the edge is at a width. -/
def above (edge : Edge) (value : Nat) : Nat :=
  match edge with
  | .minWidth => value
  | .maxWidth => value + 1

theorem below_le_above (edge : Edge) (value : Nat) : edge.below value ≤ edge.above value := by
  cases edge with
  | minWidth => exact Nat.sub_le value 1
  | maxWidth => exact Nat.le_succ value

theorem above_eq {edge : Edge} {value : Nat} (h : 0 < edge.below value) :
    edge.above value = edge.below value + 1 := by
  cases edge with
  | minWidth => exact (Nat.succ_pred_eq_of_pos (Nat.lt_of_lt_of_le h (Nat.sub_le value 1))).symm
  | maxWidth => rfl

end Edge

/-- The width at an edge of a range; there is none where the range goes on for ever. -/
def WidthRange.edge? (r : WidthRange) : Edge → Option Nat
  | .minWidth => some r.minWidth
  | .maxWidth => r.maxWidth

namespace Grid

/-- The entry across the boundary that an edge of an entry lies on. -/
def facing? (s : Grid) (id : Id) : Edge → Option Entry
  | .minWidth => s.narrower? id
  | .maxWidth => s.wider? id

/-- Where an edge of an entry lies that is a boundary between two neighbours; the two ends of
the axis are none. -/
def boundary? (s : Grid) (id : Id) (edge : Edge) : Option Nat :=
  (s.facing? id edge).bind fun _ => (s.find? id).bind fun e => e.range.edge? edge

section

variable {s : Grid} {front back : List Entry} {a b : Entry}

theorem facing?_split (h : s.entries = front ++ a :: b :: back) (edge : Edge) :
    s.find? (edge.owner a b).id = some (edge.owner a b) ∧
      s.facing? (edge.owner a b).id edge = some (edge.across a b) := by
  obtain ⟨hwider, hnarrower⟩ := neighbours_split h
  cases edge with
  | minWidth => exact ⟨find?_split (h.trans (append_second front a b back)), hnarrower⟩
  | maxWidth => exact ⟨find?_split h, hwider⟩

/-- Where something stands across an edge, the edge is a boundary between two neighbours. -/
theorem exists_split_of_facing? {id : Id} {edge : Edge} {e n : Entry} (he : s.find? id = some e)
    (hn : s.facing? id edge = some n) :
    ∃ front a b back, s.entries = front ++ a :: b :: back ∧
      edge.owner a b = e ∧ edge.across a b = n := by
  obtain ⟨hmem, rfl⟩ := find?_eq_some_iff.1 he
  obtain ⟨front, back, h⟩ := List.append_of_mem hmem
  unfold facing? at hn
  cases edge with
  | minWidth =>
    simp only [narrower?_split h] at hn
    obtain ⟨front, rfl⟩ := List.getLast?_eq_some_iff.1 hn
    exact ⟨front, n, e, back, h.trans (append_second front n e back).symm, rfl, rfl⟩
  | maxWidth =>
    simp only [wider?_split h] at hn
    obtain ⟨back, rfl⟩ := List.head?_eq_some_iff.1 hn
    exact ⟨front, e, n, back, h, rfl, rfl⟩

theorem boundary?_split (h : s.entries = front ++ a :: b :: back) (edge : Edge) :
    s.boundary? (edge.owner a b).id edge = (edge.owner a b).range.edge? edge := by
  obtain ⟨howner, hacross⟩ := facing?_split h edge
  unfold boundary?
  rw [hacross, howner, Option.bind_some, Option.bind_some]

theorem exists_split_of_boundary? {id : Id} {edge : Edge} {value : Nat}
    (h : s.boundary? id edge = some value) :
    ∃ front a b back, s.entries = front ++ a :: b :: back ∧ (edge.owner a b).id = id := by
  obtain ⟨n, hn, h⟩ := Option.bind_eq_some_iff.1 h
  obtain ⟨e, he, -⟩ := Option.bind_eq_some_iff.1 h
  obtain ⟨front, a, b, back, hsplit, rfl, -⟩ := exists_split_of_facing? he hn
  exact ⟨front, a, b, back, hsplit, (find?_eq_some_iff.1 he).2⟩

end

end Grid

theorem edge?_owner_eq_some_iff {a b : Entry} (h : a.range.Meets b.range) {edge : Edge}
    {value : Nat} :
    (edge.owner a b).range.edge? edge = some value ↔
      a.range.maxWidth = some (edge.below value) ∧ b.range.minWidth = edge.above value := by
  obtain ⟨m, hmax, hmin⟩ := WidthRange.meets_iff.1 h
  cases edge with
  | minWidth =>
    simp only [WidthRange.edge?, Edge.owner, Edge.below, Edge.above, hmax, Option.some.injEq]
    omega
  | maxWidth =>
    simp only [WidthRange.edge?, Edge.owner, Edge.below, Edge.above, hmax, Option.some.injEq]
    omega

/-! ## What a move does -/

/-- Two neighbours whose boundary lies elsewhere: the first one ends at `below`, the second one
starts at `above`, and nothing else of the two has changed. -/
structure Shares (a b : Entry) (below above : Nat) (a' b' : Entry) : Prop where
  first : a.Resized a'
  firstEnds : a'.range.minWidth = a.range.minWidth ∧ a'.range.maxWidth = some below
  second : b.Resized b'
  secondEnds : b'.range.minWidth = above ∧ b'.range.maxWidth = b.range.maxWidth

theorem shares_iff {a b a' b' : Entry} {below above : Nat} :
    Shares a b below above a' b' ↔
      a.patch (.maxWidth (some below)) = .ok a' ∧ b.patch (.minWidth above) = .ok b' := by
  rw [Entry.patch_maxWidth_eq_ok_iff, Entry.patch_minWidth_eq_ok_iff]
  constructor
  · intro h
    exact ⟨⟨h.first, h.firstEnds⟩, ⟨h.second, h.secondEnds⟩⟩
  · rintro ⟨⟨hfirst, hfirstEnds⟩, ⟨hsecond, hsecondEnds⟩⟩
    exact ⟨hfirst, hfirstEnds, hsecond, hsecondEnds⟩

theorem Shares.owner_id {a b a' b' : Entry} {below above : Nat} (h : Shares a b below above a' b')
    (edge : Edge) : (edge.owner a' b').id = (edge.owner a b).id := by
  cases edge with
  | minWidth => exact h.second.id
  | maxWidth => exact h.first.id

/-- Both neighbours stay ranges when the first one ends at `below` and the second one starts at
`above`. -/
structure Room (a b : Entry) (below above : Nat) : Prop where
  first : a.range.minWidth < below
  limit : above ≤ 9998
  second : ∀ m ∈ b.range.maxWidth, above < m

/-- Two neighbours can share their widths anew where there is room for both. -/
theorem exists_shares_iff {a b : Entry} {below above : Nat} (hle : below ≤ above) :
    (∃ a' b', Shares a b below above a' b') ↔ Room a b below above := by
  constructor
  · rintro ⟨a', b', h⟩
    obtain ⟨hleast, hbelow⟩ := h.firstEnds
    obtain ⟨habove, hend⟩ := h.secondEnds
    exact {
      first := hleast ▸ (a'.range.maxWidth_bounds below hbelow).1
      limit := habove ▸ b'.range.minWidth_le
      second := fun m hm => habove ▸ (b'.range.maxWidth_bounds m (hend ▸ hm)).1 }
  · intro h
    have hlimit : below ≤ 9999 := Nat.le_trans hle (Nat.le_succ_of_le h.limit)
    let q : WidthRange := ⟨above, b.range.maxWidth, h.limit, fun m hm =>
      ⟨h.second m hm, (b.range.maxWidth_bounds m hm).2⟩⟩
    obtain ⟨a', ha⟩ := Entry.exists_patch (p := .maxWidth (some below))
      (WidthRange.exists_of?_between ⟨h.first, hlimit⟩)
    obtain ⟨b', hb⟩ := Entry.exists_patch (p := .minWidth above)
      ⟨q, WidthRange.of?_eq_ok_iff.2 ⟨rfl, rfl⟩⟩
    exact ⟨a', b', shares_iff.2 ⟨ha, hb⟩⟩

namespace Grid

/-- A fault on the way to the closing check refuses the edit. -/
theorem lift_bind_eq_ok_iff {α β : Type} {x : Except Violation α} {f : α → Except Violation β}
    {t : β} : lift (x.bind f) = .ok t ↔ ∃ y, x = .ok y ∧ lift (f y) = .ok t := by
  cases x with
  | error v => simp [Except.bind, lift]
  | ok y => simp [Except.bind]

section

variable {s t : Grid} {front back : List Entry} {a b : Entry} {edge : Edge} {value : Nat}

/-- A least width is accepted where the entry and its narrower neighbour can share their widths
anew. -/
theorem resize_lower_eq_ok_iff (h : s.entries = front ++ a :: b :: back) :
    s.resize b.id .minWidth value = .ok t ↔
      ∃ a' b', Shares a b (value - 1) value a' b' ∧ t.entries = front ++ a' :: b' :: back := by
  rcases Nat.eq_zero_or_pos value with rfl | hvalue
  · -- no width is below zero, and no range ends there
    have hrefused : s.resize b.id .minWidth 0 = _ := edit_of_refuses 0 (.underflow h)
    rw [hrefused]
    constructor
    · intro ht
      cases ht
    · rintro ⟨a', b', hshares, -⟩
      exact absurd (a'.range.maxWidth_bounds 0 hshares.firstEnds.2).1 (Nat.not_lt_zero _)
  · rw [resize_lower_eq h hvalue]
    simp only [lift_bind_eq_ok_iff, lift_ofEntries?_eq_ok_iff, shares_iff]
    constructor
    · rintro ⟨b', hb, a', ha, hentries⟩
      exact ⟨a', b', ⟨ha, hb⟩, hentries⟩
    · rintro ⟨a', b', ⟨ha, hb⟩, hentries⟩
      exact ⟨b', hb, a', ha, hentries⟩

theorem resize_upper_eq_ok_iff (h : s.entries = front ++ a :: b :: back) :
    s.resize a.id .maxWidth value = .ok t ↔
      ∃ a' b', Shares a b value (value + 1) a' b' ∧ t.entries = front ++ a' :: b' :: back := by
  rcases Nat.lt_or_ge value largest32 with hvalue | hvalue
  · rw [resize_upper_eq h hvalue]
    simp only [lift_bind_eq_ok_iff, lift_ofEntries?_eq_ok_iff, shares_iff]
    constructor
    · rintro ⟨a', ha, b', hb, hentries⟩
      exact ⟨a', b', ⟨ha, hb⟩, hentries⟩
    · rintro ⟨a', b', ⟨ha, hb⟩, hentries⟩
      exact ⟨a', ha, b', hb, hentries⟩
  · -- the widths end long before the largest one, so no range could start above it
    have hrefused : s.resize a.id .maxWidth value = _ := edit_of_refuses 0 (.overflow h hvalue)
    rw [hrefused]
    constructor
    · intro ht
      cases ht
    · rintro ⟨a', b', hshares, -⟩
      have hlimit := b'.range.minWidth_le
      rw [hshares.secondEnds.1] at hlimit
      unfold largest32 at hvalue
      omega

/-- An accepted move of a boundary has shared the widths of the two neighbours anew. -/
theorem resize_eq_ok_iff (h : s.entries = front ++ a :: b :: back) :
    s.resize (edge.owner a b).id edge value = .ok t ↔
      ∃ a' b', Shares a b (edge.below value) (edge.above value) a' b' ∧
        t.entries = front ++ a' :: b' :: back := by
  cases edge with
  | minWidth => exact resize_lower_eq_ok_iff h
  | maxWidth => exact resize_upper_eq_ok_iff h

theorem exists_resize_eq {a' b' : Entry} (h : s.entries = front ++ a :: b :: back)
    (hshares : Shares a b (edge.below value) (edge.above value) a' b') :
    ∃ t, s.resize (edge.owner a b).id edge value = .ok t ∧
      t.entries = front ++ a' :: b' :: back := by
  have hroom := (exists_shares_iff (edge.below_le_above value)).1 ⟨a', b', hshares⟩
  obtain ⟨ha, hb⟩ := shares_iff.1 hshares
  rw [Edge.above_eq (Nat.zero_lt_of_lt hroom.first)] at hb
  obtain ⟨t, -, hentries⟩ := exists_lift_of_move h ha hb
  exact ⟨t, (resize_eq_ok_iff h).2 ⟨a', b', hshares, hentries⟩, hentries⟩

/-- A boundary can be moved exactly where both neighbours stay ranges. -/
theorem exists_resize_iff (h : s.entries = front ++ a :: b :: back) (edge : Edge) (value : Nat) :
    (∃ t, s.resize (edge.owner a b).id edge value = .ok t) ↔
      Room a b (edge.below value) (edge.above value) := by
  rw [← exists_shares_iff (edge.below_le_above value)]
  constructor
  · rintro ⟨t, ht⟩
    obtain ⟨a', b', hshares, -⟩ := (resize_eq_ok_iff h).1 ht
    exact ⟨a', b', hshares⟩
  · rintro ⟨a', b', hshares⟩
    obtain ⟨t, ht, -⟩ := exists_resize_eq h hshares
    exact ⟨t, ht⟩

theorem exists_split_of_resize {id : Id} (h : s.resize id edge value = .ok t) :
    ∃ front a b back, s.entries = front ++ a :: b :: back ∧ (edge.owner a b).id = id := by
  rcases s.yields_or_refuses 0 (.resize id edge value) with ⟨entries, hyields⟩ | ⟨fault, hrefuses⟩
  · cases hyields with
    | @lower front back a _ b _ _ hsplit => exact ⟨front, a, b, back, hsplit, rfl⟩
    | @upper front back a _ b _ _ hsplit => exact ⟨front, a, b, back, hsplit, rfl⟩
  · have hrefused : s.resize id edge value = _ := edit_of_refuses 0 hrefuses
    cases h.symm.trans hrefused

end

end Grid

/-! ## Where a boundary can be moved -/

/-- An edge of an entry can be moved to a width, given the entry across it. -/
def Entry.Movable (e across : Entry) (value : Nat) : Edge → Prop
  | .minWidth =>
      across.range.minWidth + 2 ≤ value ∧ value ≤ 9998 ∧ ∀ m ∈ e.range.maxWidth, value < m
  | .maxWidth =>
      e.range.minWidth < value ∧ value ≤ 9997 ∧ ∀ m ∈ across.range.maxWidth, value + 1 < m

/-- An edge can be moved to a width exactly when there is room for both neighbours. -/
theorem movable_iff_room {a b : Entry} {edge : Edge} {value : Nat} :
    (edge.owner a b).Movable (edge.across a b) value edge ↔
      Room a b (edge.below value) (edge.above value) := by
  constructor
  · intro h
    cases edge with
    | minWidth => exact ⟨Nat.lt_sub_of_add_lt h.1, h.2.1, h.2.2⟩
    | maxWidth => exact ⟨h.1, Nat.succ_le_succ h.2.1, h.2.2⟩
  · intro h
    cases edge with
    | minWidth => exact ⟨Nat.add_lt_of_lt_sub h.first, h.limit, h.second⟩
    | maxWidth => exact ⟨h.first, Nat.le_of_succ_le_succ h.limit, h.second⟩

namespace Grid

/-- An edge of an entry can be moved to a width exactly when there is an entry across it and
both stay ranges.  The entries are then the same in the same order, and all that has changed
of them are the two bounds at that boundary: the narrower neighbour ends right below it, the
wider one starts right above it. -/
theorem resize_moves_boundary (s : Grid) (id : Id) (edge : Edge) (value : Nat) :
    ((∃ t, s.resize id edge value = .ok t) ↔
      ∃ e n, s.find? id = some e ∧ s.facing? id edge = some n ∧ e.Movable n value edge) ∧
    ∀ t, s.resize id edge value = .ok t →
      ∃ front a b back a' b', s.entries = front ++ a :: b :: back ∧
        (edge.owner a b).id = id ∧ t.entries = front ++ a' :: b' :: back ∧
        Shares a b (edge.below value) (edge.above value) a' b' := by
  refine ⟨⟨?_, ?_⟩, ?_⟩
  · rintro ⟨t, ht⟩
    obtain ⟨front, a, b, back, hsplit, rfl⟩ := exists_split_of_resize ht
    obtain ⟨howner, hacross⟩ := facing?_split hsplit edge
    have hroom := (exists_resize_iff hsplit edge value).1 ⟨t, ht⟩
    exact ⟨_, _, howner, hacross, movable_iff_room.2 hroom⟩
  · rintro ⟨e, n, he, hn, hmovable⟩
    obtain ⟨front, a, b, back, hsplit, rfl, rfl⟩ := exists_split_of_facing? he hn
    obtain ⟨-, rfl⟩ := find?_eq_some_iff.1 he
    exact (exists_resize_iff hsplit edge value).2 (movable_iff_room.1 hmovable)
  · intro t ht
    obtain ⟨front, a, b, back, hsplit, rfl⟩ := exists_split_of_resize ht
    obtain ⟨a', b', hshares, hentries⟩ := (resize_eq_ok_iff hsplit).1 ht
    exact ⟨front, a, b, back, a', b', hsplit, rfl, hentries, hshares⟩

theorem exists_resize_default : ∃ t, (reset 1).1.resize 2 .minWidth 800 = .ok t :=
  exists_ok_of_isOk (by decide)

/-- Moved up to 800, the boundary below the second default breakpoint has changed the two
bounds at it. -/
theorem resize_moves_boundary_default :
    ∃ t, (reset 1).1.resize 2 .minWidth 800 = .ok t ∧
      ∃ front a b back a' b', (reset 1).1.entries = front ++ a :: b :: back ∧
        (Edge.minWidth.owner a b).id = 2 ∧ t.entries = front ++ a' :: b' :: back ∧
        Shares a b (Edge.minWidth.below 800) (Edge.minWidth.above 800) a' b' := by
  obtain ⟨t, ht⟩ := exists_resize_default
  exact ⟨t, ht, (resize_moves_boundary (reset 1).1 2 .minWidth 800).2 t ht⟩

/-- A boundary can be addressed from either side: for the wider neighbour it is where it
starts, for the narrower one where it ends, one width below.  The two moves are accepted alike,
exactly where there is room for both neighbours, and make the same system. -/
theorem resize_either_side {s : Grid} {front back : List Entry} {a b : Entry}
    (h : s.entries = front ++ a :: b :: back) {value : Nat} (hvalue : 1 ≤ value) :
    (∀ t, s.resize b.id .minWidth value = .ok t ↔ s.resize a.id .maxWidth (value - 1) = .ok t) ∧
      ((∃ t, s.resize b.id .minWidth value = .ok t) ↔ Room a b (value - 1) value) := by
  refine ⟨fun t => ?_, exists_resize_iff h .minWidth value⟩
  have hupper : s.resize a.id .maxWidth (value - 1) = .ok t ↔ _ := resize_upper_eq_ok_iff h
  rw [Nat.sub_add_cancel hvalue] at hupper
  exact (resize_lower_eq_ok_iff h).trans hupper.symm

/-- The boundary between the first two default breakpoints can be addressed as the start of the
second and as the end of the first. -/
theorem resize_either_side_default :
    ∃ a b back, (reset 1).1.entries = [] ++ a :: b :: back ∧ a.id = 1 ∧ b.id = 2 ∧ 1 ≤ 800 ∧
      ∀ t, (reset 1).1.resize b.id .minWidth 800 = .ok t ↔
        (reset 1).1.resize a.id .maxWidth 799 = .ok t := by
  have hids : (reset 1).1.entries.map Entry.id = [1, 2, 3, 4, 5] := by decide
  obtain ⟨a, rest, hsplit, ha, hrest⟩ := List.map_eq_cons_iff.1 hids
  obtain ⟨b, back, rfl, hb, -⟩ := List.map_eq_cons_iff.1 hrest
  have hvalue : 1 ≤ 800 := by decide
  obtain ⟨hsame, -⟩ := @resize_either_side _ [] back a b hsplit 800 hvalue
  exact ⟨a, b, back, hsplit, ha, hb, hvalue, hsame⟩

/-! ## Moving a boundary again -/

section

variable {s t : Grid} {front back : List Entry} {a b : Entry} {edge : Edge} {value : Nat}

/-- A move reads of two neighbours where the first one starts and where the second one ends,
and which entries they are; a boundary that lies elsewhere changes none of this. -/
theorem resize_congr {a' b' : Entry} (hs : s.entries = front ++ a :: b :: back)
    (ht : t.entries = front ++ a' :: b' :: back) (ha : a.Resized a')
    (hmin : a'.range.minWidth = a.range.minWidth) (hb : b.Resized b')
    (hmax : b'.range.maxWidth = b.range.maxWidth) :
    t.resize (edge.owner a' b').id edge value = s.resize (edge.owner a b).id edge value := by
  have hfirst : ∀ m, a'.patch (.maxWidth m) = a.patch (.maxWidth m) := fun m =>
    ha.patch_eq (congrArg (fun least => WidthRange.of? least m) hmin)
  have hsecond : ∀ m, b'.patch (.minWidth m) = b.patch (.minWidth m) := fun m =>
    hb.patch_eq (congrArg (WidthRange.of? m) hmax)
  cases edge with
  | minWidth =>
    show t.resize b'.id .minWidth value = s.resize b.id .minWidth value
    rcases Nat.eq_zero_or_pos value with rfl | hvalue
    · exact (edit_of_refuses 0 (.underflow ht)).trans (edit_of_refuses 0 (.underflow hs)).symm
    · rw [resize_lower_eq ht hvalue, resize_lower_eq hs hvalue, hsecond, hfirst]
  | maxWidth =>
    show t.resize a'.id .maxWidth value = s.resize a.id .maxWidth value
    rcases Nat.lt_or_ge value largest32 with hvalue | hvalue
    · rw [resize_upper_eq ht hvalue, resize_upper_eq hs hvalue, hfirst, hsecond]
    · exact (edit_of_refuses 0 (.overflow ht hvalue)).trans
        (edit_of_refuses 0 (.overflow hs hvalue)).symm

theorem boundary?_resize {id : Id} (h : s.resize id edge value = .ok t) :
    t.boundary? id edge = some value := by
  obtain ⟨front, a, b, back, hsplit, rfl⟩ := exists_split_of_resize h
  obtain ⟨a', b', hshares, hentries⟩ := (resize_eq_ok_iff hsplit).1 h
  have hmeets := (tiles_of_split hentries).meets
  rw [← hshares.owner_id edge, boundary?_split hentries, edge?_owner_eq_some_iff hmeets]
  exact ⟨hshares.firstEnds.2, hshares.secondEnds.1⟩

/-- A move after a move of the same edge does what it would have done at first. -/
theorem resize_resize {id : Id} (h : s.resize id edge value = .ok t) (other : Nat) :
    t.resize id edge other = s.resize id edge other := by
  obtain ⟨front, a, b, back, hsplit, rfl⟩ := exists_split_of_resize h
  obtain ⟨a', b', hshares, hentries⟩ := (resize_eq_ok_iff hsplit).1 h
  rw [← resize_congr hsplit hentries hshares.first hshares.firstEnds.1 hshares.second
    hshares.secondEnds.2, hshares.owner_id]

theorem resize_boundary? {id : Id} (h : s.boundary? id edge = some value) :
    s.resize id edge value = .ok s := by
  obtain ⟨front, a, b, back, hsplit, rfl⟩ := exists_split_of_boundary? h
  have hmeets := (tiles_of_split hsplit).meets
  rw [boundary?_split hsplit, edge?_owner_eq_some_iff hmeets] at h
  exact (resize_eq_ok_iff hsplit).2 ⟨a, b, ⟨.refl a, ⟨rfl, h.1⟩, .refl b, ⟨h.2, rfl⟩⟩, hsplit⟩

theorem exists_boundary?_of_resize {id : Id} (h : s.resize id edge value = .ok t) :
    ∃ before, s.boundary? id edge = some before := by
  obtain ⟨front, a, b, back, hsplit, rfl⟩ := exists_split_of_resize h
  obtain ⟨m, hmax, hmin⟩ := WidthRange.meets_iff.1 (tiles_of_split hsplit).meets
  rw [boundary?_split hsplit]
  cases edge with
  | minWidth => exact ⟨b.range.minWidth, rfl⟩
  | maxWidth => exact ⟨m, hmax⟩

end

/-- Where a boundary lies and where it is moved to go together.  After a move it lies where it
has been moved to, and a further move does what it would have done without the first one, or
is refused as it would have been.  A move to where it lies changes nothing.  So every move is
undone by moving the boundary back to where it lay. -/
theorem resize_overwrites (s : Grid) (id : Id) (edge : Edge) :
    (∀ value t, s.resize id edge value = .ok t →
      t.boundary? id edge = some value ∧
        ∀ other, t.resize id edge other = s.resize id edge other) ∧
    (∀ value, s.boundary? id edge = some value → s.resize id edge value = .ok s) ∧
    ∀ value t, s.resize id edge value = .ok t →
      ∃ before, s.boundary? id edge = some before ∧ t.resize id edge before = .ok s := by
  refine ⟨fun value t ht => ⟨boundary?_resize ht, resize_resize ht⟩,
    fun value h => resize_boundary? h, fun value t ht => ?_⟩
  obtain ⟨before, hbefore⟩ := exists_boundary?_of_resize ht
  exact ⟨before, hbefore, (resize_resize ht before).trans (resize_boundary? hbefore)⟩

/-- The boundary below the second default breakpoint is moved up and back again. -/
theorem resize_overwrites_default :
    ∃ t, (reset 1).1.resize 2 .minWidth 800 = .ok t ∧ t.boundary? 2 .minWidth = some 800 ∧
      (∀ other, t.resize 2 .minWidth other = (reset 1).1.resize 2 .minWidth other) ∧
      (reset 1).1.boundary? 2 .minWidth = some 720 ∧
      (reset 1).1.resize 2 .minWidth 720 = .ok (reset 1).1 := by
  obtain ⟨t, ht⟩ := exists_resize_default
  obtain ⟨hmoved, hkept, -⟩ := resize_overwrites (reset 1).1 2 .minWidth
  have hboundary : (reset 1).1.boundary? 2 .minWidth = some 720 := by decide
  exact ⟨t, ht, (hmoved 800 t ht).1, (hmoved 800 t ht).2, hboundary, hkept 720 hboundary⟩

/-- The system after an edge has been moved a number of times; a move that is refused leaves it
as it is. -/
def drag (s : Grid) (id : Id) (edge : Edge) : List Nat → Grid
  | [] => s
  | value :: rest =>
      match s.resize id edge value with
      | .ok t => t.drag id edge rest
      | .error _ => s.drag id edge rest

/-- However often an edge has been moved, a further move does what it would have done at
first. -/
theorem resize_drag (s : Grid) (id : Id) (edge : Edge) (values : List Nat) (other : Nat) :
    (s.drag id edge values).resize id edge other = s.resize id edge other := by
  induction values generalizing s with
  | nil => rfl
  | cons value rest ih =>
    unfold drag
    cases h : s.resize id edge value with
    | error fault => exact ih s
    | ok t => exact (ih t).trans (resize_resize h other)

/-- However often a boundary has been moved, moving it back to where it lay restores the
system. -/
theorem resize_drag_boundary? {s : Grid} {id : Id} {edge : Edge} {value : Nat}
    (h : s.boundary? id edge = some value) (values : List Nat) :
    (s.drag id edge values).resize id edge value = .ok s :=
  (s.resize_drag id edge values value).trans (resize_boundary? h)

end Grid

end ResponsiveGrid
