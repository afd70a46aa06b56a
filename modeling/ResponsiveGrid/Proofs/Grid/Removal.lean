import Mathlib.Data.List.Forall2
import ResponsiveGrid.Proofs.Grid.Neighbours
import ResponsiveGrid.Proofs.Grid.Outcome
set_option autoImplicit false

/-!
# Grid: removing an entry

An entry can always be removed: the widths that it leaves lie next to those of a neighbour, the
heir, and two ranges that meet are together the range from the start of the first to the end of
the second (`WidthRange.Meets.mem_join_iff`).  Since positions do not matter for a lookup by
width, this alone says what is looked up after a removal (`Grid.without_of_join`), whichever of
the two neighbours the heir is.
-/

namespace ResponsiveGrid

/-- Two ranges that meet are together the range from the start of the first to the end of the
second. -/
theorem WidthRange.Meets.mem_join_iff {r q u : WidthRange} (h : r.Meets q)
    (hmin : u.minWidth = r.minWidth) (hmax : u.maxWidth = q.maxWidth) (width : Nat) :
    u.Mem width ↔ r.Mem width ∨ q.Mem width := by
  obtain ⟨m, hend, hnext⟩ := WidthRange.meets_iff.1 h
  have hlonger := (r.maxWidth_bounds m hend).1
  unfold Mem
  rw [hmin, hmax, hend]
  constructor
  · rintro ⟨hstart, hstop⟩
    by_cases hm : width ≤ m
    · exact .inl ⟨hstart, by simpa using hm⟩
    · exact .inr ⟨by omega, hstop⟩
  · rintro (⟨hstart, hstop⟩ | ⟨hstart, hstop⟩)
    · have hm : width ≤ m := hstop m rfl
      refine ⟨hstart, fun k hk => ?_⟩
      have hbehind := (q.maxWidth_bounds k hk).1
      omega
    · exact ⟨by omega, hstop⟩

namespace Grid

/-- The entry that takes over the widths of another one when that is removed: the wider
neighbour, or the narrower one where nothing is wider. -/
def heir? (s : Grid) (id : Id) : Option Entry := (s.wider? id).or (s.narrower? id)

/-- A system is what another one is without one of its entries. -/
structure Without (s : Grid) (e : Entry) (t : Grid) : Prop where
  /-- the other entries are left in order, and at most their ranges have changed -/
  others : List.Forall₂ Entry.Resized (s.entries.filter fun f => f.id ≠ e.id) t.entries
  /-- any other width has the entry that it had before -/
  elsewhere : ∀ width, ¬ e.range.Mem width →
    Option.Rel Entry.Resized (s.matchFor width) (t.matchFor width)
  /-- the widths of the entry go to its heir -/
  inherited : ∀ width, e.range.Mem width →
    Option.Rel Entry.Resized (s.heir? e.id) (t.matchFor width)
  /-- nothing is left without an heir -/
  empty : s.heir? e.id = none → t = .empty

section

variable {s t : Grid} {front back : List Entry} {e n n' : Entry}

theorem others_split (h : s.entries = front ++ e :: back) :
    (s.entries.filter fun f => f.id ≠ e.id) = front ++ back := by
  have hother : ∀ f ∈ front ++ back, decide (f.id ≠ e.id) = true :=
    fun f hf => decide_eq_true (ne_of_split h f hf)
  rw [h, List.filter_append, List.filter_cons_of_neg (by simp), ← List.filter_append,
    List.filter_eq_self.2 hother]

theorem heir?_wider (h : s.entries = front ++ e :: n :: back) : s.heir? e.id = some n := by
  unfold heir?
  rw [(neighbours_split h).1, Option.some_or]

theorem heir?_narrower (h : s.entries = front ++ [n, e]) : s.heir? e.id = some n := by
  unfold heir?
  rw [wider?_split (h.trans (append_second front n e [])), List.head?_nil, Option.none_or,
    (neighbours_split h).2]

theorem rel_matchFor {R : Entry → Entry → Prop} {f f' : Entry} {width : Nat}
    (hmem : f' ∈ t.entries) (h : R f f') (hwidth : f'.range.Mem width) :
    Option.Rel R (some f) (t.matchFor width) := by
  rw [matchFor_eq_some_iff.2 ⟨hmem, hwidth⟩]
  exact .some h

/-- When the heir has taken over the widths of an entry, the system is what it was without that
entry. -/
theorem without_of_join (he : e ∈ s.entries)
    (hothers : (s.entries.filter fun f => f.id ≠ e.id) = front ++ n :: back)
    (hentries : t.entries = front ++ n' :: back) (hheir : s.heir? e.id = some n)
    (hn : n.Resized n')
    (hjoin : ∀ width, n'.range.Mem width ↔ e.range.Mem width ∨ n.range.Mem width) :
    s.Without e t where
  others := by
    have hsame : ∀ entries : List Entry, List.Forall₂ Entry.Resized entries entries :=
      fun entries => List.forall₂_same.2 fun f _ => .refl f
    rw [hothers, hentries]
    exact List.rel_append (hsame front) (.cons hn (hsame back))
  elsewhere := by
    intro width hout
    obtain ⟨f, hf, hmem, hwidth⟩ := exists_matchFor (List.ne_nil_of_mem he) width
    have hne : f.id ≠ e.id := fun hid => hout (eq_of_id hmem he hid ▸ hwidth)
    have hother : f ∈ front ++ n :: back := by
      rw [← hothers]
      exact List.mem_filter.2 ⟨hmem, decide_eq_true hne⟩
    rw [hf]
    rcases List.mem_append.1 hother with hfront | hother
    · have hkept : f ∈ t.entries := hentries ▸ List.mem_append_left _ hfront
      exact rel_matchFor hkept (.refl f) hwidth
    · rcases List.mem_cons.1 hother with rfl | hback
      · exact rel_matchFor (mem_of_split hentries) hn ((hjoin width).2 (.inr hwidth))
      · have hkept : f ∈ t.entries :=
          hentries ▸ List.mem_append_right _ (List.mem_cons_of_mem _ hback)
        exact rel_matchFor hkept (.refl f) hwidth
  inherited := by
    intro width hwidth
    rw [hheir]
    exact rel_matchFor (mem_of_split hentries) hn ((hjoin width).2 (.inl hwidth))
  empty := by
    rw [hheir]
    intro hnone
    cases hnone

theorem exists_remove_wider (h : s.entries = front ++ e :: n :: back) :
    ∃ t, s.remove e.id = .ok t ∧ s.Without e t := by
  obtain ⟨n', hn⟩ := exists_patch_start h
  obtain ⟨hresized, hmin, hmax⟩ := Entry.patch_minWidth_eq_ok_iff.1 hn
  obtain ⟨t, ht, hentries⟩ := exists_lift_of_join h hmin hmax (.inr hresized.id)
  refine ⟨t, (remove_wider_eq h hn).trans ht, ?_⟩
  exact without_of_join (mem_of_split h) (others_split h) hentries (heir?_wider h) hresized
    ((tiles_of_split h).meets.mem_join_iff hmin hmax)

theorem exists_remove_narrower (h : s.entries = front ++ [n, e]) :
    ∃ t, s.remove e.id = .ok t ∧ s.Without e t := by
  have htail := h.trans (append_second front n e [])
  obtain ⟨n', hn⟩ := exists_patch_end h
  obtain ⟨hresized, hmin, hmax⟩ := Entry.patch_maxWidth_eq_ok_iff.1 hn
  obtain ⟨t, ht, hentries⟩ := exists_lift_of_join h hmin hmax (.inl hresized.id)
  have hothers : (s.entries.filter fun f => f.id ≠ e.id) = front ++ [n] := by
    rw [others_split htail, List.append_nil]
  refine ⟨t, (remove_narrower_eq h hn).trans ht, ?_⟩
  exact without_of_join (mem_of_split htail) hothers hentries (heir?_narrower h) hresized fun width =>
    ((tiles_of_split h).meets.mem_join_iff hmin hmax width).trans or_comm

theorem exists_remove_only (h : s.entries = [e]) :
    ∃ t, s.remove e.id = .ok t ∧ s.Without e t := by
  have hheir : s.heir? e.id = none := by
    unfold heir?
    rw [@wider?_split s [] [] e h, @narrower?_split s [] [] e h]
    rfl
  have hentries : s.entries ≠ [] := by
    rw [h]
    exact List.cons_ne_nil e []
  refine ⟨.empty, remove_only_eq h, ?_⟩
  exact {
    others := by
      rw [@others_split s [] [] e h]
      exact .nil
    elsewhere := by
      -- there is no such width: each one has an entry, and there is only this one
      intro width hout
      obtain ⟨f, -, hmem, hwidth⟩ := exists_matchFor hentries width
      rw [h, List.mem_singleton] at hmem
      exact absurd (hmem ▸ hwidth) hout
    inherited := by
      intro width _
      rw [hheir, matchFor_eq_none_iff.2 rfl]
      exact .none
    empty := fun _ => rfl }

end

/-- An entry can always be removed, and its removal is local: the other entries stay in order
with all they hold but their ranges, any width outside of the removed range has the entry that
it had before, and the widths inside go to the wider neighbour, without one to the narrower
neighbour, and without either the system is empty. -/
theorem remove_local (s : Grid) {e : Entry} (he : e ∈ s.entries) :
    ∃ t, s.remove e.id = .ok t ∧ s.Without e t := by
  obtain ⟨front, back, h⟩ := List.append_of_mem he
  cases back with
  | cons n back => exact exists_remove_wider h
  | nil =>
    rcases List.eq_nil_or_concat' front with rfl | ⟨front, n, rfl⟩
    · exact exists_remove_only h
    · exact exists_remove_narrower (h.trans (append_second front n e []).symm)

/-- The third of the default breakpoints can be removed. -/
theorem remove_local_default :
    ∃ e ∈ (reset 1).1.entries, e.id = 3 ∧
      ∃ t, (reset 1).1.remove e.id = .ok t ∧ (reset 1).1.Without e t := by
  have hid : 3 ∈ (reset 1).1.ids := by decide
  obtain ⟨e, he, hid⟩ := List.mem_map.1 hid
  exact ⟨e, he, hid, remove_local (reset 1).1 he⟩

end Grid

end ResponsiveGrid
