import ResponsiveGrid.Proofs.Grid.Adjustment
set_option autoImplicit false

/-!
# Grid: adjustments whose order does not matter

Two adjustments can be made in either order when the changes that they mean for each entry
commute (`Grid.adjustAll_comm_of_commute`).  So everything is a question about single entries: a
change of one end of the range commutes with an update, since no field is held against the range,
and two updates commute when neither is held against what the other one writes.
-/

namespace ResponsiveGrid

/-! ## Changes of one entry -/

namespace Change

/-- An entry takes one change and then another one. -/
def Both (c d : Change) (e e' : Entry) : Prop := ∃ m, c.apply e = .ok m ∧ d.apply m = .ok e'

/-- Two changes are taken in either order, and with the same result. -/
def Commute (c d : Change) : Prop := ∀ e e', c.Both d e e' ↔ d.Both c e e'

theorem Commute.symm {c d : Change} (h : c.Commute d) : d.Commute c :=
  fun e e' => (h e e').symm

theorem commute_keep (c : Change) : Change.keep.Commute c := by
  intro e e'
  constructor
  · rintro ⟨m, hkeep, hchange⟩
    cases hkeep
    exact ⟨e', hchange, rfl⟩
  · rintro ⟨m, hchange, hkeep⟩
    cases hkeep
    exact ⟨e, rfl, hchange⟩

/-- An entry on another range takes an update as on its own, and the other way around. -/
theorem commute_patch_update (p : RangePatch) (u : Update) :
    (Change.patch p).Commute (.update u) := by
  intro e e'
  constructor
  · rintro ⟨m, hpatch, hupdate⟩
    obtain ⟨range, hrange, rfl⟩ := Entry.patch_eq_ok_iff.1 hpatch
    obtain ⟨hid, hsettings⟩ := Update.apply_eq_ok_iff.1 hupdate
    have hback : (e'.onRange e.range).settings = e.settings.write u := by
      show { e'.settings with range := e.range } = e.settings.write u
      rw [hsettings, ← Settings.write_onRange]
      rfl
    have hrestored : (e'.onRange e.range).onRange range = e' := by
      refine Entry.eq_of_settings rfl ?_
      show { e'.settings with range := range } = e'.settings
      rw [hsettings, ← Settings.write_onRange]
      rfl
    -- the entry in between is the last one on the range of the first one
    exact ⟨e'.onRange e.range, Update.apply_eq_ok_iff.2 ⟨hid, hback⟩,
      Entry.patch_eq_ok_iff.2 ⟨range, hrange, hrestored.symm⟩⟩
  · rintro ⟨m, hupdate, hpatch⟩
    obtain ⟨hid, hsettings⟩ := Update.apply_eq_ok_iff.1 hupdate
    obtain ⟨range, hrange, rfl⟩ := Entry.patch_eq_ok_iff.1 hpatch
    have hsame : m.range = e.range :=
      (congrArg Settings.range hsettings).trans (e.settings.range_write u)
    have hwritten : (m.onRange range).settings = (e.onRange range).settings.write u := by
      show { m.settings with range := range } = { e.settings with range := range }.write u
      rw [hsettings]
      exact (Settings.write_onRange _ _ _).symm
    exact ⟨e.onRange range, Entry.patch_eq_ok_iff.2 ⟨range, hsame ▸ hrange, rfl⟩,
      Update.apply_eq_ok_iff.2 ⟨hid, hwritten⟩⟩

end Change

/-- Neither of two updates writes what the other one writes or is held against. -/
structure Update.Apart (u v : Update) : Prop where
  slots : u.slot ≠ v.slot
  first : ¬ u.Reads v.slot
  second : ¬ v.Reads u.slot

theorem Update.Apart.symm {u v : Update} (h : u.Apart v) : v.Apart u :=
  ⟨h.slots.symm, h.second, h.first⟩

/-- Two different fields are apart: only demo elements matter to any of them. -/
theorem apart_fields {a b : FieldValue} (h : a.slot ≠ b.slot) :
    (Update.field a).Apart (.field b) := by
  have hreads : ∀ a b : FieldValue, ¬ (Update.field a).Reads b.slot := by
    intro a b hreads
    cases a <;> cases b <;> exact hreads
  exact ⟨h, hreads a b, hreads b a⟩

theorem apart_elements {element other : Element} (h : element ≠ other) (side face : Side)
    (value width : Nat) :
    (Update.place element side value).Apart (.place other face width) :=
  ⟨fun hslot => h (Slot.side.inj hslot).1, fun hreads => h hreads.symm, fun hreads => h hreads⟩

theorem apart_elementField (element : Element) (side : Side) (value : Nat) {a : FieldValue}
    (h : a.slot ≠ .columns) : (Update.place element side value).Apart (.field a) := by
  cases a with
  | columns _ => exact absurd rfl h
  | _ => exact ⟨nofun, id, id⟩

namespace Change

theorem both_of_apart {u v : Update} (h : u.Apart v) {e e' : Entry}
    (hboth : (Change.update u).Both (.update v) e e') :
    (Change.update v).Both (.update u) e e' := by
  obtain ⟨m, hfirst, hsecond⟩ := hboth
  obtain ⟨hmid, hmsettings⟩ := Update.apply_eq_ok_iff.1 hfirst
  obtain ⟨hid, hsettings⟩ := Update.apply_eq_ok_iff.1 hsecond
  have hsame : ∀ slot, v.Reads slot → m.settings.get slot = e.settings.get slot := by
    intro slot hreads
    rw [hmsettings, Settings.get_write_ne]
    rintro rfl
    exact h.second hreads
  -- the second update keeps its bounds in the first entry already, which makes a new middle
  have hfits : v.Fits e.settings :=
    (Update.fits_congr hsame).1 (Update.exists_apply_iff.1 ⟨e', hsecond⟩)
  obtain ⟨d, hd⟩ := Update.exists_apply_iff.2 hfits
  obtain ⟨hdid, hdsettings⟩ := Update.apply_eq_ok_iff.1 hd
  refine ⟨d, hd, Update.apply_eq_ok_iff.2 ⟨?_, ?_⟩⟩
  · rw [hid, hmid, hdid]
  · rw [hsettings, hmsettings, hdsettings, Settings.write_comm _ h.slots]

/-- Two updates of one entry commute when neither is held against what the other one writes. -/
theorem commute_update_update {u v : Update} (h : u.Apart v) :
    (Change.update u).Commute (.update v) :=
  fun _ _ => ⟨both_of_apart h, both_of_apart h.symm⟩

end Change

/-! ## Independent adjustments -/

namespace Grid

/-- Adjustments of a system that do not get in each other's way. -/
inductive Independent (s : Grid) : Adjustment → Adjustment → Prop where
  | boundaryUpdate (id : Id) (edge : Edge) (value : Nat) (who : Id) (u : Update) :
      Independent s (.resize id edge value) (.update who u)
  | entries {id who : Id} (h : id ≠ who) (u v : Update) :
      Independent s (.update id u) (.update who v)
  | fields (id : Id) {a b : FieldValue} (h : a.slot ≠ b.slot) :
      Independent s (.update id (.field a)) (.update id (.field b))
  | elements (id : Id) {element other : Element} (h : element ≠ other) (side face : Side)
      (value width : Nat) :
      Independent s (.update id (.place element side value)) (.update id (.place other face width))
  | elementField (id : Id) (element : Element) (side : Side) (value : Nat) {a : FieldValue}
      (h : a.slot ≠ .columns) :
      Independent s (.update id (.place element side value)) (.update id (.field a))
  /-- no entry is at both of the two boundaries -/
  | boundaries {id who : Id} {edge other : Edge} (value width : Nat)
      (h : ∀ a b c d, s.sides? id edge = some (a, b) → s.sides? who other = some (c, d) →
        (a ≠ c ∧ a ≠ d) ∧ b ≠ c ∧ b ≠ d) :
      Independent s (.resize id edge value) (.resize who other width)
  | symm {d e : Adjustment} (h : Independent s d e) : Independent s e d

section

variable {s t : Grid} {d e : Adjustment}

theorem comp_takes_iff {f g : Id → Change} {e e' : Entry} :
    Relation.Comp (Takes f) (Takes g) e e' ↔ (f e.id).Both (g e.id) e e' := by
  constructor
  · rintro ⟨m, hfirst, hsecond⟩
    rw [Takes, Change.id_of_apply hfirst] at hsecond
    exact ⟨m, hfirst, hsecond⟩
  · rintro ⟨m, hfirst, hsecond⟩
    rw [← Change.id_of_apply hfirst] at hsecond
    exact ⟨m, hfirst, hsecond⟩

/-- Two adjustments whose changes commute for each identity can be made in either order. -/
theorem adjustAll_comm_of_commute
    (h : ∀ f g, s.changes? d = some f → s.changes? e = some g → ∀ id, (f id).Commute (g id)) :
    s.adjustAll [d, e] = .ok t ↔ s.adjustAll [e, d] = .ok t := by
  have hcomp : ∀ {f g : Id → Change}, (∀ id, (f id).Commute (g id)) →
      List.Forall₂ (Relation.Comp (Takes f) (Takes g)) s.entries t.entries →
        List.Forall₂ (Relation.Comp (Takes g) (Takes f)) s.entries t.entries :=
    fun hcommute => List.Forall₂.imp fun a b htakes =>
      comp_takes_iff.2 ((hcommute a.id a b).1 (comp_takes_iff.1 htakes))
  rw [adjustAll_pair_iff, adjustAll_pair_iff]
  constructor
  · rintro ⟨f, g, hf, hg, htakes⟩
    exact ⟨g, f, hg, hf, hcomp (h f g hf hg) htakes⟩
  · rintro ⟨g, f, hg, hf, htakes⟩
    exact ⟨f, g, hf, hg, hcomp (fun id => (h f g hf hg id).symm) htakes⟩

/-- Updates of different entries commute, and so do updates of one entry that are apart. -/
theorem commute_updateAt {id who : Id} {u v : Update} (h : id = who → u.Apart v) (other : Id) :
    (updateAt id u other).Commute (updateAt who v other) := by
  unfold updateAt
  split
  · next hid =>
    split
    · next hwho => exact Change.commute_update_update (h (hid.symm.trans hwho))
    · exact (Change.commute_keep _).symm
  · exact Change.commute_keep _

theorem commute_patchAround_updateAt (sides : Id × Id) (edge : Edge) (value : Nat) (id : Id)
    (u : Update) (other : Id) :
    (patchAround sides edge value other).Commute (updateAt id u other) := by
  unfold updateAt
  split
  · unfold patchAround
    split
    · exact Change.commute_patch_update _ u
    · split
      · exact Change.commute_patch_update _ u
      · exact Change.commute_keep _
  · exact (Change.commute_keep _).symm

theorem commute_patchAround {sides others : Id × Id}
    (h : (sides.1 ≠ others.1 ∧ sides.1 ≠ others.2) ∧ sides.2 ≠ others.1 ∧ sides.2 ≠ others.2)
    (edge other : Edge) (value width : Nat) (id : Id) :
    (patchAround sides edge value id).Commute (patchAround others other width id) := by
  by_cases hid : id = sides.1 ∨ id = sides.2
  · have hkeep : patchAround others other width id = .keep := by
      unfold patchAround
      rcases hid with rfl | rfl
      · rw [if_neg h.1.1, if_neg h.1.2]
      · rw [if_neg h.2.1, if_neg h.2.2]
    rw [hkeep]
    exact (Change.commute_keep _).symm
  · have hkeep : patchAround sides edge value id = .keep := by
      unfold patchAround
      rw [if_neg fun h => hid (.inl h), if_neg fun h => hid (.inr h)]
    rw [hkeep]
    exact Change.commute_keep _

/-- Independent adjustments change each entry in ways that commute. -/
theorem Independent.commute (h : s.Independent d e) {f g : Id → Change}
    (hf : s.changes? d = some f) (hg : s.changes? e = some g) (id : Id) :
    (f id).Commute (g id) := by
  induction h generalizing f g with
  | boundaryUpdate id edge value who u =>
    obtain ⟨sides, -, rfl⟩ := eq_patchAround hf
    cases eq_updateAt hg
    exact commute_patchAround_updateAt sides edge value who u _
  | entries hne u v =>
    cases eq_updateAt hf
    cases eq_updateAt hg
    exact commute_updateAt (fun heq => absurd heq hne) _
  | fields id hslot =>
    cases eq_updateAt hf
    cases eq_updateAt hg
    exact commute_updateAt (fun _ => apart_fields hslot) _
  | elements id hne side face value width =>
    cases eq_updateAt hf
    cases eq_updateAt hg
    exact commute_updateAt (fun _ => apart_elements hne side face value width) _
  | elementField id element side value hslot =>
    cases eq_updateAt hf
    cases eq_updateAt hg
    exact commute_updateAt (fun _ => apart_elementField element side value hslot) _
  | boundaries value width hsides =>
    obtain ⟨⟨a, b⟩, hfirst, rfl⟩ := eq_patchAround hf
    obtain ⟨⟨c, d⟩, hsecond, rfl⟩ := eq_patchAround hg
    exact commute_patchAround (hsides a b c d hfirst hsecond) _ _ value width _
  | symm _ ih => exact (ih hg hf).symm

theorem adjustAll_pair_comm (h : s.Independent d e) :
    s.adjustAll [d, e] = .ok t ↔ s.adjustAll [e, d] = .ok t :=
  adjustAll_comm_of_commute fun _ _ hf hg => h.commute hf hg

end

/-- Two independent adjustments are both accepted or not whichever is made first: either both
orders make the same system, or both are refused. -/
theorem independent_commute (s : Grid) {d e : Adjustment} (h : s.Independent d e) :
    (∃ t, s.adjustAll [d, e] = .ok t ∧ s.adjustAll [e, d] = .ok t) ∨
      (∃ fault, s.adjustAll [d, e] = .error fault) ∧
        ∃ fault, s.adjustAll [e, d] = .error fault := by
  cases hde : s.adjustAll [d, e] with
  | ok t => exact .inl ⟨t, rfl, (adjustAll_pair_comm h).1 hde⟩
  | error fault =>
    cases hed : s.adjustAll [e, d] with
    | ok t => cases hde.symm.trans ((adjustAll_pair_comm h).2 hed)
    | error other => exact .inr ⟨⟨fault, rfl⟩, ⟨other, rfl⟩⟩

/-- The boundaries below the second and the fourth default breakpoint have no entry in common,
so they can be moved in either order. -/
theorem independent_commute_default :
    ∃ t, (reset 1).1.adjustAll [.resize 2 .minWidth 800, .resize 4 .minWidth 1500] = .ok t ∧
      (reset 1).1.adjustAll [.resize 4 .minWidth 1500, .resize 2 .minWidth 800] = .ok t := by
  have hsides : (reset 1).1.sides? 2 .minWidth = some (1, 2) ∧
      (reset 1).1.sides? 4 .minWidth = some (3, 4) := by decide
  have hindependent :
      (reset 1).1.Independent (.resize 2 .minWidth 800) (.resize 4 .minWidth 1500) := by
    refine .boundaries 800 1500 fun a b c d hfirst hsecond => ?_
    cases hsides.1.symm.trans hfirst
    cases hsides.2.symm.trans hsecond
    decide
  have haccepted : ∃ t, (reset 1).1.adjustAll
      [.resize 2 .minWidth 800, .resize 4 .minWidth 1500] = .ok t := exists_ok_of_isOk (by decide)
  obtain ⟨t, ht⟩ := haccepted
  rcases independent_commute (reset 1).1 hindependent with hsame | ⟨⟨fault, hrefused⟩, -⟩
  · exact hsame
  · cases ht.symm.trans hrefused

/-- Neighbouring boundaries do get in each other's way: the lower one has no room before the
upper one has been moved. -/
example :
    ((reset 1).1.adjustAll
      [.resize 3 .minWidth 1200, .resize 2 .minWidth 1100]).isOk = true ∧
    ((reset 1).1.adjustAll
      [.resize 2 .minWidth 1100, .resize 3 .minWidth 1200]).isOk = false := by
  decide

/-- So do columns and a demo element. -/
example :
    ((reset 1).1.adjustAll
      [.update 2 (.field (.columns 12)), .update 2 (.place .heading1 .stop 13)]).isOk = true ∧
    ((reset 1).1.adjustAll
      [.update 2 (.place .heading1 .stop 13), .update 2 (.field (.columns 12))]).isOk = false := by
  decide

/-! ## Any number of adjustments -/

section

variable {s t : Grid} {d e : Adjustment}

theorem Independent.congr (h : s.Independent d e) (hids : t.ids = s.ids) : t.Independent d e := by
  induction h with
  | boundaryUpdate id edge value who u => exact .boundaryUpdate id edge value who u
  | entries hne u v => exact .entries hne u v
  | fields id hslot => exact .fields id hslot
  | elements id hne side face value width => exact .elements id hne side face value width
  | elementField id element side value hslot => exact .elementField id element side value hslot
  | boundaries value width hsides =>
    simp only [← sides?_congr hids] at hsides
    exact .boundaries value width hsides
  | symm _ ih => exact .symm ih

/-- Any number of adjustments that are independent of each other make the same system in
whichever order they are made. -/
theorem adjustAll_perm {ds es : List Adjustment} (hperm : ds.Perm es)
    (h : ds.Pairwise s.Independent) : s.adjustAll ds = .ok t ↔ s.adjustAll es = .ok t := by
  induction hperm generalizing s with
  | nil => rfl
  | cons d _ ih =>
    rw [adjustAll_cons_iff, adjustAll_cons_iff]
    refine exists_congr fun m => and_congr_right fun hm => ih ?_
    exact (List.pairwise_cons.1 h).2.imp fun hpair => hpair.congr (ids_adjust hm)
  | swap d e rest =>
    have hpair : s.Independent e d := (List.pairwise_cons.1 h).1 d List.mem_cons_self
    have hsplit : ∀ a b, s.adjustAll (a :: b :: rest) = .ok t ↔
        ∃ m, s.adjustAll [a, b] = .ok m ∧ m.adjustAll rest = .ok t :=
      fun a b => @adjustAll_append_iff s t [a, b] rest
    rw [hsplit, hsplit]
    exact exists_congr fun m => and_congr_left fun _ => adjustAll_pair_comm hpair
  | trans hfirst _ ihfirst ihsecond =>
    have hsymm : ∀ {d e : Adjustment}, s.Independent d e → s.Independent e d := .symm
    exact (ihfirst h).trans (ihsecond ((hfirst.pairwise_iff hsymm).1 h))

end

end Grid

end ResponsiveGrid
