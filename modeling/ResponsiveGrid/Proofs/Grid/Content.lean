import ResponsiveGrid.Proofs.Grid.Outcome
set_option autoImplicit false

/-!
# Grid: systems with the same content

Two systems with the same content may have different identities.  An edit of an entry in one of
them and of its counterpart in the other, the entry at the same position, come out alike: what
one of them yields or is refused with, the other one is, with counterparts in place of
identities.  The two simulations, `Grid.Yields.mirror` and `Grid.Refuses.mirror`, have one case
for each way in which an edit can come out.
-/

namespace ResponsiveGrid

/-! ## Entries with the same settings -/

namespace Entry

theorem range_eq {d e : Entry} (h : d.settings = e.settings) : d.range = e.range :=
  congrArg Settings.range h

/-- The settings of an entry can stand under any identity. -/
theorem exists_renamed (e : Entry) (id : Id) :
    ∃ e' : Entry, e'.id = id ∧ e'.settings = e.settings :=
  ⟨⟨id, e.settings, e.valid⟩, rfl, rfl⟩

theorem exists_of? {id : Id} {settings : Settings} {e : Entry} (h : of? id settings = .ok e)
    (other : Id) : ∃ e', of? other settings = .ok e' ∧ e'.settings = e.settings := by
  obtain ⟨-, hsettings⟩ := of?_eq_ok_iff.1 h
  obtain ⟨e', hid, he'⟩ := e.exists_renamed other
  exact ⟨e', of?_eq_ok_iff.2 ⟨hid, he'.trans hsettings⟩, he'⟩

/-- Entries with the same settings can be patched alike. -/
theorem patch_congr {d d' e : Entry} {p : RangePatch} (h : e.settings = d.settings)
    (hd : d.patch p = .ok d') : ∃ e', e.patch p = .ok e' ∧ e'.settings = d'.settings := by
  obtain ⟨range, hrange, rfl⟩ := patch_eq_ok_iff.1 hd
  rw [← range_eq h] at hrange
  refine ⟨e.onRange range, patch_eq_ok_iff.2 ⟨range, hrange, rfl⟩, ?_⟩
  exact congrArg (fun settings => { settings with range := range }) h

theorem setField_congr {d d' e : Entry} {value : FieldValue} (h : e.settings = d.settings)
    (hd : d.setField value = .ok d') :
    ∃ e', e.setField value = .ok e' ∧ e'.settings = d'.settings := by
  unfold setField at hd ⊢
  rw [h]
  exact exists_of? hd e.id

theorem place_congr {d d' e : Entry} {element : Element} {side : Side} {value : Nat}
    (h : e.settings = d.settings) (hd : d.place element side value = .ok d') :
    ∃ e', e.place element side value = .ok e' ∧ e'.settings = d'.settings := by
  unfold place at hd ⊢
  rw [h]
  exact exists_of? hd e.id

end Entry

/-! ## Identities at the same positions -/

/-- A violation with other identities. -/
def Violation.mapId (f : Id → Id) : Violation → Violation
  | .duplicateId id => .duplicateId (f id)
  | .fixedBoundary id edge => .fixedBoundary (f id) edge
  | v => v

/-- A refusal with other identities. -/
def Refusal.mapId (f : Id → Id) : Refusal → Refusal
  | .unknownId id => .unknownId (f id)
  | r => r

/-- A fault with other identities. -/
def EditFault.mapId (f : Id → Id) : EditFault → EditFault
  | .violation v => .violation (v.mapId f)
  | .refusal r => .refusal (r.mapId f)

theorem Violation.OfRange.mapId {v : Violation} (h : v.OfRange) (f : Id → Id) :
    v.mapId f = v := by
  cases v <;> first | rfl | cases h

theorem Violation.OfField.mapId {v : Violation} (h : v.OfField) (f : Id → Id) :
    v.mapId f = v := by
  cases v <;> first | rfl | cases h

namespace Grid

/-- An edit that addresses entries otherwise. -/
def Edit.map {α β : Type} (f : α → β) : Edit α → Edit β
  | .add => .add
  | .remove who => .remove (f who)
  | .resize who edge value => .resize (f who) edge value
  | .setField who value => .setField (f who) value
  | .place who element side value => .place (f who) element side value

/-- The identity that stands in another system where an identity stands in this one. -/
def counterpart (s t : Grid) (id : Id) : Id :=
  (((s.indexOf? id).bind t.get?).map Entry.id).getD id

section

variable {s t : Grid} {front back : List Entry} {a b e : Entry}

theorem counterpart_of_split {front' back' : List Entry} {e' : Entry}
    (hs : s.entries = front ++ e :: back) (ht : t.entries = front' ++ e' :: back')
    (hlength : front'.length = front.length) : s.counterpart t e.id = e'.id := by
  unfold counterpart get?
  rw [indexOf?_of_split hs, Option.bind_some, ← hlength, ht, getElem?_split]
  rfl

theorem length_eq_of_map_eq {entries others : List Entry}
    (h : others.map Entry.settings = entries.map Entry.settings) :
    others.length = entries.length := by
  rw [← List.length_map, h, List.length_map]

/-- An entry cuts a system with the same content in the same way. -/
theorem exists_split_of_snapshot_eq (hst : s.snapshot = t.snapshot)
    (h : s.entries = front ++ e :: back) :
    ∃ front' e' back', t.entries = front' ++ e' :: back' ∧
      front'.map Entry.settings = front.map Entry.settings ∧ e'.settings = e.settings ∧
      back'.map Entry.settings = back.map Entry.settings ∧ s.counterpart t e.id = e'.id := by
  have hmap : t.entries.map Entry.settings =
      front.map Entry.settings ++ e.settings :: back.map Entry.settings := by
    rw [← List.map_cons, ← List.map_append, ← h]
    exact congrArg Snapshot.breakpoints hst.symm
  obtain ⟨front', rest, ht, hfront, hrest⟩ := List.map_eq_append_iff.1 hmap
  obtain ⟨e', back', rfl, he, hback⟩ := List.map_eq_cons_iff.1 hrest
  exact ⟨front', e', back', ht, hfront, he, hback,
    counterpart_of_split h ht (length_eq_of_map_eq hfront)⟩

theorem exists_last_of_snapshot_eq (hst : s.snapshot = t.snapshot) (h : s.entries = front ++ [e]) :
    ∃ front' e', t.entries = front' ++ [e'] ∧
      front'.map Entry.settings = front.map Entry.settings ∧ e'.settings = e.settings ∧
      s.counterpart t e.id = e'.id := by
  obtain ⟨front', e', back', ht, hfront, he, hback, hid⟩ := exists_split_of_snapshot_eq hst h
  rw [List.map_nil, List.map_eq_nil_iff] at hback
  subst hback
  exact ⟨front', e', ht, hfront, he, hid⟩

theorem exists_pair_of_snapshot_eq (hst : s.snapshot = t.snapshot)
    (h : s.entries = front ++ a :: b :: back) :
    ∃ front' a' b' back', t.entries = front' ++ a' :: b' :: back' ∧
      front'.map Entry.settings = front.map Entry.settings ∧ a'.settings = a.settings ∧
      b'.settings = b.settings ∧ back'.map Entry.settings = back.map Entry.settings ∧
      s.counterpart t a.id = a'.id ∧ s.counterpart t b.id = b'.id := by
  obtain ⟨front', a', rest, ht, hfront, ha, hrest, haid⟩ := exists_split_of_snapshot_eq hst h
  obtain ⟨b', back', rfl, hb, hback⟩ := List.map_eq_cons_iff.1 hrest
  refine ⟨front', a', b', back', ht, hfront, ha, hb, hback, haid, ?_⟩
  refine counterpart_of_split (h.trans (append_second front a b back))
    (ht.trans (append_second front' a' b' back')) ?_
  rw [List.length_append, List.length_append, length_eq_of_map_eq hfront]
  rfl

/-! ## One edit -/

/-- What an edit yields in one system, it yields in another one with the same content. -/
theorem Yields.mirror {next : Id} {edit : Edit Id} {entries : List Entry}
    (hst : s.snapshot = t.snapshot) (h : s.Yields next edit entries) (other : Id) :
    ∃ others, t.Yields other (edit.map (s.counterpart t)) others ∧
      others.map Entry.settings = entries.map Entry.settings := by
  unfold Edit.map
  cases h with
  | @seed e h hid hseed =>
    have ht : t.entries.map Entry.settings = s.entries.map Entry.settings :=
      congrArg Snapshot.breakpoints hst.symm
    rw [h, List.map_nil, List.map_eq_nil_iff] at ht
    obtain ⟨e', hid', he'⟩ := e.exists_renamed other
    refine ⟨_, .seed ht hid' (he'.trans hseed), ?_⟩
    rw [List.map_singleton, List.map_singleton, he']
  | @tail front e kept added range h hkept hrange hid hadded =>
    obtain ⟨front', e', ht, hfront, he, -⟩ := exists_last_of_snapshot_eq hst h
    obtain ⟨kept', hkept', hsettings⟩ := Entry.patch_congr he hkept
    rw [← Entry.range_eq he] at hkept' hrange
    rw [← he] at hadded
    -- the added entry has no counterpart: its identity is the next one of either session
    obtain ⟨added', hid', hadded'⟩ := added.exists_renamed other
    refine ⟨_, .tail ht hkept' hrange hid' (hadded'.trans hadded), ?_⟩
    simp [hfront, hsettings, hadded']
  | @wider front back e b b' h hb =>
    obtain ⟨front', e', c, back', ht, hfront, he, hc, hback, hid, -⟩ :=
      exists_pair_of_snapshot_eq hst h
    obtain ⟨c', hc', hsettings⟩ := Entry.patch_congr hc hb
    rw [← Entry.range_eq he] at hc'
    simp only [hid]
    refine ⟨_, .wider ht hc', ?_⟩
    simp [hfront, hsettings, hback]
  | @narrower front a a' e h ha =>
    obtain ⟨front', c, e', back', ht, hfront, hc, he, hback, -, hid⟩ :=
      exists_pair_of_snapshot_eq hst h
    rw [List.map_nil, List.map_eq_nil_iff] at hback
    subst hback
    obtain ⟨c', hc', hsettings⟩ := Entry.patch_congr hc ha
    rw [← Entry.range_eq he] at hc'
    simp only [hid]
    refine ⟨_, .narrower ht hc', ?_⟩
    simp [hfront, hsettings]
  | @only e h =>
    obtain ⟨front', e', ht, hfront, -, hid⟩ := @exists_last_of_snapshot_eq s t [] e hst h
    rw [List.map_nil, List.map_eq_nil_iff] at hfront
    subst hfront
    simp only [hid]
    exact ⟨_, .only ht, rfl⟩
  | @lower front back a a' b b' value h hvalue hb ha =>
    obtain ⟨front', c, d, back', ht, hfront, hc, hd, hback, -, hid⟩ :=
      exists_pair_of_snapshot_eq hst h
    obtain ⟨d', hd', hdsettings⟩ := Entry.patch_congr hd hb
    obtain ⟨c', hc', hcsettings⟩ := Entry.patch_congr hc ha
    simp only [hid]
    refine ⟨_, .lower ht hvalue hd' hc', ?_⟩
    simp [hfront, hcsettings, hdsettings, hback]
  | @upper front back a a' b b' value h hvalue ha hb =>
    obtain ⟨front', c, d, back', ht, hfront, hc, hd, hback, hid, -⟩ :=
      exists_pair_of_snapshot_eq hst h
    obtain ⟨c', hc', hcsettings⟩ := Entry.patch_congr hc ha
    obtain ⟨d', hd', hdsettings⟩ := Entry.patch_congr hd hb
    simp only [hid]
    refine ⟨_, .upper ht hvalue hc' hd', ?_⟩
    simp [hfront, hcsettings, hdsettings, hback]
  | @setField front back e e' value h he =>
    obtain ⟨front', d, back', ht, hfront, hd, hback, hid⟩ := exists_split_of_snapshot_eq hst h
    obtain ⟨d', hd', hsettings⟩ := Entry.setField_congr hd he
    simp only [hid]
    refine ⟨_, .setField ht hd', ?_⟩
    simp [hfront, hsettings, hback]
  | @place front back e e' element side value h he =>
    obtain ⟨front', d, back', ht, hfront, hd, hback, hid⟩ := exists_split_of_snapshot_eq hst h
    obtain ⟨d', hd', hsettings⟩ := Entry.place_congr hd he
    simp only [hid]
    refine ⟨_, .place ht hd', ?_⟩
    simp [hfront, hsettings, hback]

/-- What an edit of an entry is refused with in one system, it is refused with in another one
with the same content. -/
theorem Refuses.mirror {edit : Edit Id} {fault : EditFault} (hst : s.snapshot = t.snapshot)
    (h : s.Refuses edit fault) (hwho : ∀ id ∈ edit.who?, id ∈ s.ids) :
    t.Refuses (edit.map (s.counterpart t)) (fault.mapId (s.counterpart t)) := by
  unfold EditFault.mapId
  cases h with
  -- an identity that is unknown here might be known there, hence the hypothesis
  | unknownId hid hmem => exact absurd (hwho _ hid) hmem
  | @tailEnd front e h hend =>
    obtain ⟨front', e', ht, -, he, -⟩ := exists_last_of_snapshot_eq hst h
    rw [← Entry.range_eq he] at hend ⊢
    exact .tailEnd ht hend
  | @tailStart front e h hend hstart =>
    obtain ⟨front', e', ht, -, he, -⟩ := exists_last_of_snapshot_eq hst h
    rw [← Entry.range_eq he] at hend hstart ⊢
    exact .tailStart ht hend hstart
  | @axisStart e back value h =>
    obtain ⟨front', e', back', ht, hfront, -, -, hid⟩ :=
      @exists_split_of_snapshot_eq s t [] back e hst h
    rw [List.map_nil, List.map_eq_nil_iff] at hfront
    subst hfront
    simp only [Edit.map, Violation.mapId, hid]
    exact .axisStart ht
  | @axisEnd front e value h =>
    obtain ⟨front', e', ht, -, -, hid⟩ := exists_last_of_snapshot_eq hst h
    simp only [Edit.map, Violation.mapId, hid]
    exact .axisEnd ht
  | @underflow front back a b h =>
    obtain ⟨front', c, d, back', ht, -, -, -, -, -, hid⟩ := exists_pair_of_snapshot_eq hst h
    simp only [Edit.map, hid]
    exact .underflow ht
  | @overflow front back a b value h hvalue =>
    obtain ⟨front', c, d, back', ht, -, -, -, -, hid, -⟩ := exists_pair_of_snapshot_eq hst h
    simp only [Edit.map, hid]
    exact .overflow ht hvalue
  | @lowerOwn front back a b value v h hvalue hb =>
    obtain ⟨front', c, d, back', ht, -, -, hd, -, -, hid⟩ := exists_pair_of_snapshot_eq hst h
    simp only [Edit.map, hid, hb.ofRange.mapId]
    rw [← Entry.range_eq hd] at hb
    exact .lowerOwn ht hvalue hb
  | @lowerFacing front back a b b' value v h hvalue hb ha =>
    obtain ⟨front', c, d, back', ht, -, hc, hd, -, -, hid⟩ := exists_pair_of_snapshot_eq hst h
    obtain ⟨d', hd', -⟩ := Entry.patch_congr hd hb
    simp only [Edit.map, hid, ha.ofRange.mapId]
    rw [← Entry.range_eq hc] at ha
    exact .lowerFacing ht hvalue hd' ha
  | @upperOwn front back a b value v h hvalue ha =>
    obtain ⟨front', c, d, back', ht, -, hc, -, -, hid, -⟩ := exists_pair_of_snapshot_eq hst h
    simp only [Edit.map, hid, ha.ofRange.mapId]
    rw [← Entry.range_eq hc] at ha
    exact .upperOwn ht hvalue ha
  | @upperFacing front back a a' b value v h hvalue ha hb =>
    obtain ⟨front', c, d, back', ht, -, hc, hd, -, hid, -⟩ := exists_pair_of_snapshot_eq hst h
    obtain ⟨c', hc', -⟩ := Entry.patch_congr hc ha
    simp only [Edit.map, hid, hb.ofRange.mapId]
    rw [← Entry.range_eq hd] at hb
    exact .upperFacing ht hvalue hc' hb
  | @setField front back e value v h he hfield =>
    obtain ⟨front', d, back', ht, -, hd, -, hid⟩ := exists_split_of_snapshot_eq hst h
    simp only [Edit.map, hid, hfield.mapId]
    refine .setField ht ?_ hfield
    rw [Entry.setField, Entry.of?_eq_error_iff, hd]
    exact Entry.of?_eq_error_iff.1 he
  | @place front back e element side value v h he hfield =>
    obtain ⟨front', d, back', ht, -, hd, -, hid⟩ := exists_split_of_snapshot_eq hst h
    simp only [Edit.map, hid, hfield.mapId]
    refine .place ht ?_ hfield
    rw [Entry.place, Entry.of?_eq_error_iff, hd]
    exact Entry.of?_eq_error_iff.1 he

end

end Grid

end ResponsiveGrid
