import Mathlib.Data.List.Forall2
import Mathlib.Logic.Relation
import ResponsiveGrid.Proofs.Grid.Boundary
import ResponsiveGrid.Proofs.Grid.Update
set_option autoImplicit false

/-!
# Grid: adjustments

The move of a boundary and the update of an entry leave all identities in their places.  Such an
adjustment is a change for each entry, chosen by identity (`Grid.changes?`), and it is accepted
exactly when every entry takes the change that is meant for it (`Grid.adjust_iff`).  Which
changes these are is seen at the identities alone, so that two adjustments in a row are two
changes of each entry (`Grid.adjustAll_pair_iff`).
-/

namespace ResponsiveGrid

/-! ## Lists that are related entry by entry -/

section

variable {α β γ : Type} {R : α → β → Prop} {S : β → γ → Prop}

theorem forall₂_append_left_iff {front back : List α} {others : List β} :
    List.Forall₂ R (front ++ back) others ↔
      ∃ first second, List.Forall₂ R front first ∧ List.Forall₂ R back second ∧
        others = first ++ second := by
  constructor
  · intro h
    have hfirst := List.forall₂_take front.length h
    have hsecond := List.forall₂_drop front.length h
    rw [List.take_left] at hfirst
    rw [List.drop_left] at hsecond
    exact ⟨_, _, hfirst, hsecond, (List.take_append_drop _ others).symm⟩
  · rintro ⟨first, second, hfirst, hsecond, rfl⟩
    exact List.rel_append hfirst hsecond

theorem forall₂_comp_iff {entries : List α} {others : List γ} :
    List.Forall₂ (Relation.Comp R S) entries others ↔
      ∃ between, List.Forall₂ R entries between ∧ List.Forall₂ S between others := by
  constructor
  · intro h
    induction h with
    | nil => exact ⟨[], .nil, .nil⟩
    | cons hcomp _ ih =>
      obtain ⟨b, hfirst, hsecond⟩ := hcomp
      obtain ⟨between, hfirsts, hseconds⟩ := ih
      exact ⟨b :: between, .cons hfirst hfirsts, .cons hsecond hseconds⟩
  · rintro ⟨between, hfirsts, hseconds⟩
    induction hfirsts generalizing others with
    | nil =>
      cases hseconds
      exact .nil
    | cons hfirst _ ih =>
      cases hseconds with
      | cons hsecond hseconds => exact .cons ⟨_, hfirst, hsecond⟩ (ih hseconds)

end

/-! ## Adjustments -/

/-- An edit that leaves all identities in their places. -/
inductive Adjustment where
  | resize (id : Id) (edge : Edge) (value : Nat)
  | update (id : Id) (u : Update)
  deriving DecidableEq, Repr

/-! ## Changes of one entry -/

/-- What an adjustment does to one entry. -/
inductive Change where
  | keep
  | patch (p : RangePatch)
  | update (u : Update)

namespace Change

/-- The changed entry, or the first thing wrong with it. -/
def apply : Change → Entry → Except Violation Entry
  | .keep, e => .ok e
  | .patch p, e => e.patch p
  | .update u, e => u.apply e

theorem id_of_apply {c : Change} {e e' : Entry} (h : c.apply e = .ok e') : e'.id = e.id := by
  cases c with
  | keep => cases h; rfl
  | patch p => exact Entry.id_of_patch h
  | update u => exact (Update.apply_eq_ok_iff.1 h).1

end Change

namespace Grid

/-- The identities of the two neighbours at the boundary that an edge of an entry lies on, the
narrower one first. -/
def sides? (s : Grid) (id : Id) : Edge → Option (Id × Id)
  | .minWidth => (s.narrower? id).map fun n => (n.id, id)
  | .maxWidth => (s.wider? id).map fun n => (id, n.id)

/-- The outcome of an adjustment. -/
def adjust (s : Grid) : Adjustment → Except EditFault Grid
  | .resize id edge value => s.resize id edge value
  | .update id u => s.update id u

/-- The outcome of adjustments one after the other, or the first fault. -/
def adjustAll (s : Grid) : List Adjustment → Except EditFault Grid
  | [] => .ok s
  | d :: rest =>
      match s.adjust d with
      | .ok t => t.adjustAll rest
      | .error fault => .error fault

/-! ## The change of each entry -/

/-- What an update does to the entry of each identity. -/
def updateAt (id : Id) (u : Update) (who : Id) : Change :=
  if who = id then .update u else .keep

/-- What the move of a boundary does to the entry of each identity, given those at it. -/
def patchAround (sides : Id × Id) (edge : Edge) (value : Nat) (who : Id) : Change :=
  if who = sides.1 then .patch (.maxWidth (some (edge.below value)))
  else if who = sides.2 then .patch (.minWidth (edge.above value))
  else .keep

/-- What an adjustment does to the entry of each identity; there is no saying where the entry or
the boundary is missing. -/
def changes? (s : Grid) : Adjustment → Option (Id → Change)
  | .resize id edge value => (s.sides? id edge).map fun sides => patchAround sides edge value
  | .update id u => if id ∈ s.ids then some (updateAt id u) else none

/-- An entry takes the change that is meant for it. -/
def Takes (f : Id → Change) (e e' : Entry) : Prop := (f e.id).apply e = .ok e'

section

variable {s t : Grid} {front back : List Entry} {a b e : Entry} {f g : Id → Change}

theorem sides?_split (h : s.entries = front ++ a :: b :: back) (edge : Edge) :
    s.sides? (edge.owner a b).id edge = some (a.id, b.id) := by
  obtain ⟨hwider, hnarrower⟩ := neighbours_split h
  cases edge with
  | minWidth =>
    show (s.narrower? b.id).map (fun n => (n.id, b.id)) = some (a.id, b.id)
    rw [hnarrower, Option.map_some]
  | maxWidth =>
    show (s.wider? a.id).map (fun n => (a.id, n.id)) = some (a.id, b.id)
    rw [hwider, Option.map_some]

theorem mem_ids_of_sides? {id : Id} {edge : Edge} {sides : Id × Id}
    (h : s.sides? id edge = some sides) : id ∈ s.ids := by
  by_contra hid
  have hindex := indexOf?_eq_none hid
  cases edge with
  | minWidth => simp [sides?, narrower?, hindex] at h
  | maxWidth => simp [sides?, wider?, hindex] at h

theorem exists_split_of_sides? {id : Id} {edge : Edge} {sides : Id × Id}
    (h : s.sides? id edge = some sides) :
    ∃ front a b back, s.entries = front ++ a :: b :: back ∧ (edge.owner a b).id = id ∧
      sides = (a.id, b.id) := by
  obtain ⟨_, e, _, hsplit, rfl⟩ := exists_split (mem_ids_of_sides? h)
  have hfind := find?_split hsplit
  cases edge with
  | minWidth =>
    obtain ⟨n, hn, rfl⟩ := Option.map_eq_some_iff.1 h
    have hfacing : s.facing? e.id .minWidth = some n := hn
    obtain ⟨front, a, b, back, hpair, rfl, rfl⟩ := exists_split_of_facing? hfind hfacing
    exact ⟨front, a, b, back, hpair, rfl, rfl⟩
  | maxWidth =>
    obtain ⟨n, hn, rfl⟩ := Option.map_eq_some_iff.1 h
    have hfacing : s.facing? e.id .maxWidth = some n := hn
    obtain ⟨front, a, b, back, hpair, rfl, rfl⟩ := exists_split_of_facing? hfind hfacing
    exact ⟨front, a, b, back, hpair, rfl, rfl⟩

theorem takes_keep_iff {e' : Entry} (h : f e.id = .keep) : Takes f e e' ↔ e' = e := by
  unfold Takes
  rw [h]
  show Except.ok e = Except.ok e' ↔ e' = e
  rw [Except.ok.injEq, eq_comm]

theorem forall₂_takes_keep {entries others : List Entry} (h : ∀ d ∈ entries, f d.id = .keep) :
    List.Forall₂ (Takes f) entries others ↔ others = entries := by
  induction entries generalizing others with
  | nil => exact List.forall₂_nil_left_iff
  | cons d rest ih =>
    rw [List.forall_mem_cons] at h
    rw [List.forall₂_cons_left_iff]
    simp only [takes_keep_iff h.1, ih h.2]
    constructor
    · rintro ⟨_, _, rfl, rfl, rfl⟩
      rfl
    · rintro rfl
      exact ⟨d, rest, rfl, rfl, rfl⟩

/-- Entries take their changes by themselves when those in front and behind are left alone. -/
theorem forall₂_takes_around (mid : List Entry) {entries : List Entry}
    (hfront : ∀ d ∈ front, f d.id = .keep) (hback : ∀ d ∈ back, f d.id = .keep) :
    List.Forall₂ (Takes f) (front ++ (mid ++ back)) entries ↔
      ∃ mid', List.Forall₂ (Takes f) mid mid' ∧ entries = front ++ (mid' ++ back) := by
  simp only [forall₂_append_left_iff, forall₂_takes_keep hfront, forall₂_takes_keep hback]
  constructor
  · rintro ⟨front', rest', rfl, ⟨mid', back', hmid, rfl, rfl⟩, rfl⟩
    exact ⟨mid', hmid, rfl⟩
  · rintro ⟨mid', hmid, rfl⟩
    exact ⟨front, _, rfl, ⟨mid', back, hmid, rfl, rfl⟩, rfl⟩

theorem forall₂_takes_updateAt {entries : List Entry} {u : Update}
    (h : s.entries = front ++ e :: back) :
    List.Forall₂ (Takes (updateAt e.id u)) s.entries entries ↔
      ∃ e', u.apply e = .ok e' ∧ entries = front ++ e' :: back := by
  have hkeep : ∀ d ∈ front ++ back, updateAt e.id u d.id = .keep :=
    fun d hd => if_neg (ne_of_split h d hd)
  obtain ⟨hfront, hback⟩ := List.forall_mem_append.1 hkeep
  have htakes : ∀ e', Takes (updateAt e.id u) e e' ↔ u.apply e = .ok e' := by
    intro e'
    unfold Takes updateAt
    rw [if_pos rfl]
    rfl
  rw [h]
  refine (forall₂_takes_around [e] hfront hback).trans ?_
  simp only [List.forall₂_cons_left_iff, List.forall₂_nil_left_iff, htakes]
  constructor
  · rintro ⟨_, ⟨e', _, he, rfl, rfl⟩, rfl⟩
    exact ⟨e', he, rfl⟩
  · rintro ⟨e', he, rfl⟩
    exact ⟨[e'], ⟨e', [], he, rfl, rfl⟩, rfl⟩

theorem forall₂_takes_patchAround {entries : List Entry} {edge : Edge} {value : Nat}
    (h : s.entries = front ++ a :: b :: back) :
    List.Forall₂ (Takes (patchAround (a.id, b.id) edge value)) s.entries entries ↔
      ∃ a' b', Shares a b (edge.below value) (edge.above value) a' b' ∧
        entries = front ++ a' :: b' :: back := by
  have hfirst := ne_of_split h
  have hsecond := ne_of_split (h.trans (append_second front a b back))
  have hkeep : ∀ d ∈ front ++ back, patchAround (a.id, b.id) edge value d.id = .keep := by
    intro d hd
    have hda : d.id ≠ a.id := hfirst d (by rcases List.mem_append.1 hd with hd | hd <;> simp [hd])
    have hdb : d.id ≠ b.id := hsecond d (by rcases List.mem_append.1 hd with hd | hd <;> simp [hd])
    unfold patchAround
    rw [if_neg hda, if_neg hdb]
  obtain ⟨hfront, hback⟩ := List.forall_mem_append.1 hkeep
  have htakesFirst : ∀ a', Takes (patchAround (a.id, b.id) edge value) a a' ↔
      a.patch (.maxWidth (some (edge.below value))) = .ok a' := by
    intro a'
    unfold Takes patchAround
    rw [if_pos rfl]
    rfl
  have htakesSecond : ∀ b', Takes (patchAround (a.id, b.id) edge value) b b' ↔
      b.patch (.minWidth (edge.above value)) = .ok b' := by
    intro b'
    have hba : b.id ≠ a.id := hfirst b (by simp)
    unfold Takes patchAround
    rw [if_neg hba, if_pos rfl]
    rfl
  rw [h]
  refine (forall₂_takes_around [a, b] hfront hback).trans ?_
  simp only [List.forall₂_cons_left_iff, List.forall₂_nil_left_iff, htakesFirst, htakesSecond,
    shares_iff]
  constructor
  · rintro ⟨_, ⟨a', _, ha, ⟨b', _, hb, rfl, rfl⟩, rfl⟩, rfl⟩
    exact ⟨a', b', ⟨ha, hb⟩, rfl⟩
  · rintro ⟨a', b', ⟨ha, hb⟩, rfl⟩
    exact ⟨[a', b'], ⟨a', [b'], ha, ⟨b', [], hb, rfl, rfl⟩, rfl⟩, rfl⟩

/-! ## When an adjustment is accepted -/

/-- An update makes a system exactly when there is an entry of the identity and it takes the
update. -/
theorem update_iff_takes {id : Id} {u : Update} {entries : List Entry} :
    (∃ t, s.update id u = .ok t ∧ t.entries = entries) ↔
      id ∈ s.ids ∧ List.Forall₂ (Takes (updateAt id u)) s.entries entries := by
  constructor
  · rintro ⟨t, ht, rfl⟩
    obtain ⟨front, e, back, hsplit, rfl⟩ := exists_split_of_update ht
    exact ⟨List.mem_map_of_mem (mem_of_split hsplit),
      (forall₂_takes_updateAt hsplit).2 ((update_eq_ok_iff hsplit).1 ht)⟩
  · rintro ⟨hid, htakes⟩
    obtain ⟨front, e, back, hsplit, rfl⟩ := exists_split hid
    obtain ⟨e', he, rfl⟩ := (forall₂_takes_updateAt hsplit).1 htakes
    exact exists_update_eq hsplit he

/-- The move of a boundary makes a system exactly when there is the boundary and both of its
neighbours take their new ends. -/
theorem resize_iff_takes {id : Id} {edge : Edge} {value : Nat} {entries : List Entry} :
    (∃ t, s.resize id edge value = .ok t ∧ t.entries = entries) ↔
      ∃ sides, s.sides? id edge = some sides ∧
        List.Forall₂ (Takes (patchAround sides edge value)) s.entries entries := by
  constructor
  · rintro ⟨t, ht, rfl⟩
    obtain ⟨front, a, b, back, hsplit, rfl⟩ := exists_split_of_resize ht
    exact ⟨_, sides?_split hsplit edge,
      (forall₂_takes_patchAround hsplit).2 ((resize_eq_ok_iff hsplit).1 ht)⟩
  · rintro ⟨sides, hsides, htakes⟩
    obtain ⟨front, a, b, back, hsplit, rfl, rfl⟩ := exists_split_of_sides? hsides
    obtain ⟨a', b', hshares, rfl⟩ := (forall₂_takes_patchAround hsplit).1 htakes
    exact exists_resize_eq hsplit hshares

/-- An adjustment makes a system exactly when each entry takes the change that is meant for
it. -/
theorem adjust_iff {d : Adjustment} {entries : List Entry} :
    (∃ t, s.adjust d = .ok t ∧ t.entries = entries) ↔
      ∃ f, s.changes? d = some f ∧ List.Forall₂ (Takes f) s.entries entries := by
  cases d with
  | resize id edge value =>
    refine resize_iff_takes.trans ?_
    simp only [changes?, Option.map_eq_some_iff]
    constructor
    · rintro ⟨sides, hsides, htakes⟩
      exact ⟨_, ⟨sides, hsides, rfl⟩, htakes⟩
    · rintro ⟨_, ⟨sides, hsides, rfl⟩, htakes⟩
      exact ⟨sides, hsides, htakes⟩
  | update id u =>
    refine update_iff_takes.trans ?_
    simp only [changes?, Option.ite_none_right_eq_some, Option.some.injEq]
    constructor
    · rintro ⟨hid, htakes⟩
      exact ⟨_, ⟨hid, rfl⟩, htakes⟩
    · rintro ⟨_, ⟨hid, rfl⟩, htakes⟩
      exact ⟨hid, htakes⟩

theorem map_id_of_takes {entries others : List Entry} (h : List.Forall₂ (Takes f) entries others) :
    others.map Entry.id = entries.map Entry.id := by
  induction h with
  | nil => rfl
  | cons htakes _ ih => rw [List.map_cons, List.map_cons, Change.id_of_apply htakes, ih]

theorem ids_adjust {d : Adjustment} (h : s.adjust d = .ok t) : t.ids = s.ids := by
  obtain ⟨f, -, htakes⟩ := adjust_iff.1 ⟨t, h, rfl⟩
  exact map_id_of_takes htakes

theorem sides?_of_ids {id : Id} {edge : Edge} {sides : Id × Id} (h : t.ids = s.ids)
    (hsides : s.sides? id edge = some sides) : t.sides? id edge = some sides := by
  obtain ⟨front, a, b, back, hsplit, rfl, rfl⟩ := exists_split_of_sides? hsides
  unfold ids at h
  rw [hsplit, List.map_append] at h
  obtain ⟨front', rest', ht, -, hrest⟩ := List.map_eq_append_iff.1 h
  obtain ⟨a', rest', rfl, ha, hrest⟩ := List.map_eq_cons_iff.1 hrest
  obtain ⟨b', back', rfl, hb, -⟩ := List.map_eq_cons_iff.1 hrest
  have howner : (edge.owner a' b').id = (edge.owner a b).id := by
    cases edge with
    | minWidth => exact hb
    | maxWidth => exact ha
  rw [← howner, ← ha, ← hb]
  exact sides?_split ht edge

/-- Where boundaries lie is seen at the identities. -/
theorem sides?_congr (h : t.ids = s.ids) (id : Id) (edge : Edge) :
    t.sides? id edge = s.sides? id edge :=
  Option.ext fun _ => ⟨sides?_of_ids h.symm, sides?_of_ids h⟩

/-- What an adjustment does to which entry is seen at the identities. -/
theorem changes?_congr (h : t.ids = s.ids) (d : Adjustment) : t.changes? d = s.changes? d := by
  cases d with
  | resize id edge value =>
    simp only [changes?, sides?_congr h]
  | update id u => simp only [changes?, h]

theorem adjustAll_cons_iff {d : Adjustment} {rest : List Adjustment} :
    s.adjustAll (d :: rest) = .ok t ↔ ∃ m, s.adjust d = .ok m ∧ m.adjustAll rest = .ok t := by
  rw [adjustAll]
  cases s.adjust d with
  | error fault => simp
  | ok m => simp

/-- What the move of a boundary does to which entry depends on the neighbours at it. -/
theorem eq_patchAround {id : Id} {edge : Edge} {value : Nat} {f : Id → Change}
    (h : s.changes? (.resize id edge value) = some f) :
    ∃ sides, s.sides? id edge = some sides ∧ f = patchAround sides edge value := by
  obtain ⟨sides, hsides, rfl⟩ := Option.map_eq_some_iff.1 h
  exact ⟨sides, hsides, rfl⟩

theorem eq_updateAt {id : Id} {u : Update} {f : Id → Change}
    (h : s.changes? (.update id u) = some f) : f = updateAt id u := by
  simp only [changes?, Option.ite_none_right_eq_some, Option.some.injEq] at h
  exact h.2.symm

theorem adjustAll_append_iff {ds es : List Adjustment} :
    s.adjustAll (ds ++ es) = .ok t ↔ ∃ m, s.adjustAll ds = .ok m ∧ m.adjustAll es = .ok t := by
  induction ds generalizing s with
  | nil =>
    constructor
    · intro h
      exact ⟨s, rfl, h⟩
    · rintro ⟨m, hnone, h⟩
      cases hnone
      exact h
  | cons d rest ih =>
    simp only [List.cons_append, adjustAll_cons_iff, ih]
    constructor
    · rintro ⟨m, hm, u, hu, h⟩
      exact ⟨u, ⟨m, hm, hu⟩, h⟩
    · rintro ⟨u, ⟨m, hm, hu⟩, h⟩
      exact ⟨m, hm, u, hu, h⟩

/-- Two adjustments in a row make a system exactly when each entry takes both of its changes. -/
theorem adjustAll_pair_iff {d e : Adjustment} :
    s.adjustAll [d, e] = .ok t ↔
      ∃ f g, s.changes? d = some f ∧ s.changes? e = some g ∧
        List.Forall₂ (Relation.Comp (Takes f) (Takes g)) s.entries t.entries := by
  simp only [adjustAll_cons_iff, forall₂_comp_iff]
  constructor
  · rintro ⟨m, hm, u, hu, hlast⟩
    cases hlast
    obtain ⟨f, hf, hfirst⟩ := adjust_iff.1 ⟨m, hm, rfl⟩
    obtain ⟨g, hg, hsecond⟩ := adjust_iff.1 ⟨t, hu, rfl⟩
    rw [changes?_congr (ids_adjust hm)] at hg
    exact ⟨f, g, hf, hg, m.entries, hfirst, hsecond⟩
  · rintro ⟨f, g, hf, hg, between, hfirst, hsecond⟩
    obtain ⟨m, hm, rfl⟩ := adjust_iff.2 ⟨f, hf, hfirst⟩
    rw [← changes?_congr (ids_adjust hm)] at hg
    obtain ⟨u, hu, hentries⟩ := adjust_iff.2 ⟨g, hg, hsecond⟩
    cases eq_of_entries hentries
    exact ⟨m, hm, t, hu, rfl⟩

end

end Grid

end ResponsiveGrid
