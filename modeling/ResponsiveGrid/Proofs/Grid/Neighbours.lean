import Mathlib.Data.List.Nodup
import ResponsiveGrid.Proofs.Grid.Splice
set_option autoImplicit false

/-!
# Grid: lookups around an entry

What is found for an identity and for a width, in terms of the entries around the one that is
found.  An identity is looked up by position and a width by range; `find?_split`,
`narrower?_split` and `wider?_split` put the first kind of lookup into the form
`front ++ e :: back`, and `matchFor_eq_some_iff` says that for the second kind positions do not
matter at all.  Both kinds meet at a boundary: the neighbour of an entry is what is looked up
for the width next to its own (`neighbours_flank`).  `Entry.Resized` is the relation between an
entry and what an edit of ranges leaves of it.
-/

namespace ResponsiveGrid

/-! ## Entries on other widths -/

/-- The second entry is the first one on widths that may be others. -/
structure Entry.Resized (e e' : Entry) : Prop where
  id : e'.id = e.id
  settings : e'.settings = { e.settings with range := e'.range }

namespace Entry

theorem eq_of_settings {d e : Entry} (hid : d.id = e.id) (hsettings : d.settings = e.settings) :
    d = e := by
  cases d
  cases e
  cases hid
  cases hsettings
  rfl

theorem Resized.refl (e : Entry) : e.Resized e := ⟨rfl, rfl⟩

theorem Resized.symm {e e' : Entry} (h : e.Resized e') : e'.Resized e where
  id := h.id.symm
  settings := by
    rw [h.settings]
    rfl

/-- An accepted change of an end of the range leaves the entry on the range with that end. -/
theorem patch_eq_ok_iff_resized {e e' : Entry} {p : RangePatch} :
    e.patch p = .ok e' ↔ e.Resized e' ∧ e.range.patch p = .ok e'.range := by
  rw [patch_eq_ok_iff]
  constructor
  · rintro ⟨range, hrange, rfl⟩
    exact ⟨⟨rfl, rfl⟩, hrange⟩
  · rintro ⟨hresized, hrange⟩
    exact ⟨e'.range, hrange, eq_of_settings hresized.id hresized.settings⟩

theorem Resized.patch_eq {e e' : Entry} {p : RangePatch} (h : e.Resized e')
    (hp : e'.range.patch p = e.range.patch p) : e'.patch p = e.patch p := by
  have hrange : ∀ range, e'.onRange range = e.onRange range := fun range =>
    eq_of_settings h.id (congrArg (fun settings => { settings with range := range }) h.settings)
  unfold patch
  rw [hp]
  cases e.range.patch p with
  | error v => rfl
  | ok range => simp only [hrange]

theorem patch_minWidth_eq_ok_iff {e e' : Entry} {value : Nat} :
    e.patch (.minWidth value) = .ok e' ↔
      e.Resized e' ∧ e'.range.minWidth = value ∧ e'.range.maxWidth = e.range.maxWidth :=
  patch_eq_ok_iff_resized.trans (and_congr_right fun _ => WidthRange.of?_eq_ok_iff)

theorem patch_maxWidth_eq_ok_iff {e e' : Entry} {value : Option Nat} :
    e.patch (.maxWidth value) = .ok e' ↔
      e.Resized e' ∧ e'.range.minWidth = e.range.minWidth ∧ e'.range.maxWidth = value :=
  patch_eq_ok_iff_resized.trans (and_congr_right fun _ => WidthRange.of?_eq_ok_iff)

end Entry

namespace Grid

variable {s : Grid} {front back : List Entry} {e : Entry}

/-! ## Lookups by identity -/

theorem eq_of_id {d : Entry} (hd : d ∈ s.entries) (he : e ∈ s.entries) (hid : d.id = e.id) :
    d = e :=
  List.inj_on_of_nodup_map s.nodup_ids hd he hid

theorem find?_eq_some_iff {id : Id} : s.find? id = some e ↔ e ∈ s.entries ∧ e.id = id := by
  unfold find?
  constructor
  · intro h
    exact ⟨List.mem_of_find?_eq_some h, by simpa using List.find?_some h⟩
  · rintro ⟨hmem, rfl⟩
    have hsome : (s.entries.find? fun d => d.id == e.id).isSome = true :=
      List.find?_isSome.2 ⟨e, hmem, beq_self_eq_true e.id⟩
    obtain ⟨d, hd⟩ := Option.isSome_iff_exists.1 hsome
    have hid : d.id = e.id := by simpa using List.find?_some hd
    rw [hd, eq_of_id (List.mem_of_find?_eq_some hd) hmem hid]

theorem find?_split (h : s.entries = front ++ e :: back) : s.find? e.id = some e :=
  find?_eq_some_iff.2 ⟨mem_of_split h, rfl⟩

theorem narrower?_split (h : s.entries = front ++ e :: back) :
    s.narrower? e.id = front.getLast? := by
  unfold narrower?
  rw [indexOf?_of_split h, h]
  rcases List.eq_nil_or_concat' front with rfl | ⟨front, a, rfl⟩
  · rfl
  · rw [List.length_append, List.length_singleton, List.getLast?_concat]
    simp only
    rw [← append_second, getElem?_split]

theorem wider?_split (h : s.entries = front ++ e :: back) : s.wider? e.id = back.head? := by
  unfold wider?
  rw [indexOf?_of_split h, h]
  simp only
  rw [List.getElem?_append_right (Nat.le_add_right _ 1), Nat.add_sub_cancel_left,
    List.getElem?_cons_succ, List.head?_eq_getElem?]

theorem neighbours_split {a b : Entry} (h : s.entries = front ++ a :: b :: back) :
    s.wider? a.id = some b ∧ s.narrower? b.id = some a := by
  refine ⟨wider?_split h, ?_⟩
  rw [narrower?_split (h.trans (append_second front a b back)), List.getLast?_concat]

/-! ## Lookups by width -/

/-- What is looked up for a width is the entry whose range it lies in. -/
theorem matchFor_eq_some_iff {width : Nat} :
    s.matchFor width = some e ↔ e ∈ s.entries ∧ e.range.Mem width := by
  constructor
  · intro h
    exact ⟨List.mem_of_find?_eq_some h, by simpa using List.find?_some h⟩
  · rintro ⟨hmem, hwidth⟩
    obtain ⟨d, honly, hmatch, -⟩ := s.matchFor_unique (List.ne_nil_of_mem hmem) width
    have he : e ∈ s.entries.filter fun e => e.range.matches? width :=
      List.mem_filter.2 ⟨hmem, (WidthRange.matches?_iff _ _).2 hwidth⟩
    rw [honly, List.mem_singleton] at he
    rw [hmatch, he]

theorem exists_matchFor (h : s.entries ≠ []) (width : Nat) :
    ∃ e, s.matchFor width = some e ∧ e ∈ s.entries ∧ e.range.Mem width := by
  obtain ⟨e, -, hmatch, -⟩ := s.matchFor_unique h width
  exact ⟨e, hmatch, matchFor_eq_some_iff.1 hmatch⟩

theorem matchFor_eq_none_iff {width : Nat} : s.matchFor width = none ↔ s.entries = [] := by
  constructor
  · intro h
    by_contra hentries
    obtain ⟨e, hmatch, -⟩ := exists_matchFor hentries width
    rw [h] at hmatch
    cases hmatch
  · intro h
    unfold matchFor
    rw [h, List.find?_nil]

/-! ## Neighbours by width -/

/-- Of two neighbours, the first is looked up for the last width below the boundary between
them and the second for the first width above it. -/
theorem matchFor_boundary {a b : Entry} (h : s.entries = front ++ a :: b :: back) :
    ∃ m, a.range.maxWidth = some m ∧ b.range.minWidth = m + 1 ∧
      s.matchFor m = some a ∧ s.matchFor (m + 1) = some b := by
  obtain ⟨m, hmax, hmin⟩ := WidthRange.meets_iff.1 (tiles_of_split h).meets
  have ha : a.range.Mem m := by
    refine ⟨(a.range.maxWidth_bounds m hmax).1.le, fun k hk => ?_⟩
    rw [hmax, Option.mem_some_iff] at hk
    exact hk.le
  have hb : b.range.Mem (m + 1) :=
    ⟨hmin.ge, fun k hk => hmin.le.trans (b.range.maxWidth_bounds k hk).1.le⟩
  refine ⟨m, hmax, hmin.symm, ?_, ?_⟩
  · exact matchFor_eq_some_iff.2 ⟨mem_of_split h, ha⟩
  · exact matchFor_eq_some_iff.2 ⟨mem_of_split (h.trans (append_second front a b back)), hb⟩

/-- An entry stands between the entries for the widths next to its own. -/
structure Flanked (s : Grid) (e : Entry) : Prop where
  narrower : s.narrower? e.id =
    if 0 < e.range.minWidth then s.matchFor (e.range.minWidth - 1) else none
  wider : s.wider? e.id = e.range.maxWidth.bind fun m => s.matchFor (m + 1)
  /-- nothing is narrower exactly where the axis starts -/
  narrowest_iff : s.narrower? e.id = none ↔ e.range.minWidth = 0
  /-- nothing is wider exactly where the axis goes on for ever -/
  widest_iff : s.wider? e.id = none ↔ e.range.maxWidth = none
  wider_narrower : ∀ n, s.narrower? e.id = some n → s.wider? n.id = some e
  narrower_wider : ∀ n, s.wider? e.id = some n → s.narrower? n.id = some e

theorem narrower?_matchFor (h : s.entries = front ++ e :: back) :
    s.narrower? e.id = if 0 < e.range.minWidth then s.matchFor (e.range.minWidth - 1) else none := by
  rw [narrower?_split h]
  rcases List.eq_nil_or_concat' front with rfl | ⟨front, a, rfl⟩
  · have hmin : e.range.minWidth = 0 := (tiles_of_split h).minWidth_eq
    rw [if_neg (by omega), List.getLast?_nil]
  · obtain ⟨m, -, hmin, ha, -⟩ := matchFor_boundary (h.trans (append_second front a e back).symm)
    rw [if_pos (by omega), hmin, Nat.add_sub_cancel, ha, List.getLast?_concat]

theorem wider?_matchFor (h : s.entries = front ++ e :: back) :
    s.wider? e.id = e.range.maxWidth.bind fun m => s.matchFor (m + 1) := by
  rw [wider?_split h]
  cases back with
  | nil => rw [(tiles_of_split h).maxWidth_last, List.head?_nil, Option.bind_none]
  | cons b back =>
    obtain ⟨m, hmax, -, -, hb⟩ := matchFor_boundary h
    rw [hmax, Option.bind_some, hb, List.head?_cons]

theorem wider?_of_narrower? {n : Entry} (h : s.entries = front ++ e :: back)
    (hn : s.narrower? e.id = some n) : s.wider? n.id = some e := by
  rw [narrower?_split h] at hn
  obtain ⟨front, rfl⟩ := List.getLast?_eq_some_iff.1 hn
  exact (neighbours_split (h.trans (append_second front n e back).symm)).1

theorem narrower?_of_wider? {n : Entry} (h : s.entries = front ++ e :: back)
    (hn : s.wider? e.id = some n) : s.narrower? n.id = some e := by
  rw [wider?_split h] at hn
  obtain ⟨back, rfl⟩ := List.head?_eq_some_iff.1 hn
  exact (neighbours_split h).2

/-- A lookup by position agrees with a lookup by width: each entry of a system stands between
the entries for the widths next to its own, and an identity of no entry has no neighbours. -/
theorem neighbours_flank (s : Grid) :
    (∀ e ∈ s.entries, s.Flanked e) ∧
      ∀ id, id ∉ s.ids → s.narrower? id = none ∧ s.wider? id = none := by
  constructor
  · intro e he
    obtain ⟨front, back, h⟩ := List.append_of_mem he
    have hentries : s.entries ≠ [] := List.ne_nil_of_mem he
    have hnarrower := narrower?_matchFor h
    have hwider := wider?_matchFor h
    exact {
      narrower := hnarrower
      wider := hwider
      narrowest_iff := by
        rw [hnarrower]
        split
        · next hmin =>
          rw [matchFor_eq_none_iff]
          exact iff_of_false hentries (by omega)
        · next hmin => exact iff_of_true rfl (by omega)
      widest_iff := by
        rw [hwider]
        cases e.range.maxWidth with
        | none => exact iff_of_true rfl rfl
        | some m =>
          rw [Option.bind_some, matchFor_eq_none_iff]
          exact iff_of_false hentries (Option.some_ne_none m)
      wider_narrower := fun _ => wider?_of_narrower? h
      narrower_wider := fun _ => narrower?_of_wider? h }
  · intro id hid
    have hindex := indexOf?_eq_none hid
    unfold narrower? wider?
    rw [hindex]
    exact ⟨rfl, rfl⟩

/-- The third of the default breakpoints stands between its neighbours, and what is not there
has none. -/
theorem neighbours_flank_default :
    ∃ e ∈ (reset 1).1.entries, e.id = 3 ∧ (reset 1).1.Flanked e ∧ 6 ∉ (reset 1).1.ids ∧
      (reset 1).1.narrower? 6 = none ∧ (reset 1).1.wider? 6 = none := by
  have hthird : 3 ∈ (reset 1).1.ids := by decide
  have hsixth : 6 ∉ (reset 1).1.ids := by decide
  obtain ⟨e, he, hid⟩ := List.mem_map.1 hthird
  obtain ⟨hflanked, habsent⟩ := neighbours_flank (reset 1).1
  exact ⟨e, he, hid, hflanked e he, hsixth, habsent 6 hsixth⟩

end Grid

end ResponsiveGrid
