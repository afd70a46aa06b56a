import ResponsiveGrid.Proofs.Grid.Acceptance
import ResponsiveGrid.Proofs.Grid.Edit
set_option autoImplicit false

/-!
# Grid: systems from content

Content becomes a system in two passes.  The first one takes an identity for each breakpoint and
checks its fields, and stops at the first breakpoint that is out of bounds, which has taken its
identity, too (`Grid.mintAll_of_invalid`).  The second one looks at the ranges.  So what is wrong
with a field is reported whatever the ranges are like, and the identities that are left tell how
far the first pass has come (`Grid.Loads`).
-/

namespace ResponsiveGrid

/-! ## Ranges that share out all widths -/

/-- Ranges in ascending order, with every width in exactly one of them. -/
structure Partition (ranges : List WidthRange) : Prop where
  ascending : ranges.Pairwise fun r q => r.minWidth < q.minWidth
  once : ∀ width ≤ largest32, (ranges.countP fun r => r.matches? width) = 1

theorem partition_iff_tiles (entries : List Entry) :
    Partition (entries.map Entry.range) ↔ Tiles 0 entries := by
  rw [tiles_zero_iff]
  unfold Ascending CoversOnce
  constructor
  · intro h
    have hascending := h.ascending
    have honce := h.once
    rw [List.pairwise_map] at hascending
    simp only [List.countP_map] at honce
    exact ⟨List.pairwise_map.2 hascending, honce⟩
  · rintro ⟨hascending, honce⟩
    refine ⟨List.pairwise_map.2 (List.pairwise_map.1 hascending), fun width hwidth => ?_⟩
    rw [List.countP_map]
    exact honce width hwidth

namespace Grid

/-! ## The first pass -/

theorem mintAll_entries {next : Id} {entries : List Entry}
    (h : entries.map Entry.id = List.range' next entries.length) :
    mintAll next (entries.map Entry.settings) = (.ok entries, next + entries.length) := by
  induction entries generalizing next with
  | nil => rfl
  | cons e rest ih =>
    rw [List.map_cons, List.length_cons, List.range'_succ] at h
    obtain ⟨hid, hrest⟩ := List.cons.inj h
    have hfirst : Entry.of? next e.settings = .ok e := Entry.of?_eq_ok_iff.2 ⟨hid.symm ▸ rfl, rfl⟩
    rw [List.map_cons, mintAll, hfirst]
    simp only [ih hrest, List.length_cons, Nat.add_assoc, Nat.add_comm 1]

/-- The first settings that are out of bounds refuse all of them, once an identity has been taken
for each of those in front and for them. -/
theorem mintAll_of_invalid {front back : List Settings} {b : Settings} {v : Violation}
    (hfront : ∀ a ∈ front, a.Valid) (hb : b.check = .error v) (next : Id) :
    mintAll next (front ++ b :: back) = (.error v, next + (front.length + 1)) := by
  induction front generalizing next with
  | nil =>
    have hfirst : Entry.of? next b = .error v := Entry.of?_eq_error_iff.2 hb
    rw [List.nil_append, mintAll, hfirst]
    rfl
  | cons a front ih =>
    obtain ⟨ha, hfront⟩ := List.forall_mem_cons.1 hfront
    have hfirst : Entry.of? next a = .ok ⟨next, a, ha⟩ := Entry.of?_eq_ok_iff.2 ⟨rfl, rfl⟩
    rw [List.cons_append, mintAll, hfirst]
    simp only [ih hfront, List.length_cons, Nat.add_assoc, Nat.add_comm 1]

theorem valid_or_exists_invalid (settings : List Settings) :
    (∀ b ∈ settings, b.Valid) ∨ ∃ front b back v, settings = front ++ b :: back ∧
      (∀ a ∈ front, a.Valid) ∧ b.check = .error v := by
  induction settings with
  | nil => exact .inl fun _ hb => absurd hb List.not_mem_nil
  | cons first rest ih =>
    cases hcheck : first.check with
    | error v =>
      exact .inr ⟨[], first, rest, v, rfl, fun _ ha => absurd ha List.not_mem_nil, hcheck⟩
    | ok _ =>
      have hfirst := Settings.valid_of_check hcheck
      rcases ih with hrest | ⟨front, b, back, v, rfl, hfront, hb⟩
      · exact .inl (List.forall_mem_cons.2 ⟨hfirst, hrest⟩)
      · exact .inr ⟨first :: front, b, back, v, rfl, List.forall_mem_cons.2 ⟨hfirst, hfront⟩, hb⟩

/-! ## Both passes -/

/-- What becomes of content, and the next identity then. -/
inductive Loads (next : Id) (content : Snapshot) : Except Violation Grid × Id → Prop where
  /-- a system of this content under the next identities, in order -/
  | loaded {g : Grid} (hcontent : g.snapshot = content)
      (hids : g.ids = List.range' next content.breakpoints.length) :
      Loads next content (.ok g, next + content.breakpoints.length)
  /-- the first breakpoint that is out of bounds has taken an identity, and none behind it -/
  | outOfBounds {front back : List Settings} {b : Settings} {v : Violation}
      (h : content.breakpoints = front ++ b :: back) (hfront : ∀ a ∈ front, a.Valid)
      (hb : b.check = .error v) : Loads next content (.error v, next + (front.length + 1))
  /-- all breakpoints are within bounds, and have taken an identity, but they are no partition -/
  | misfit {entries : List Entry} {v : Violation}
      (hcontent : entries.map Entry.settings = content.breakpoints)
      (hids : entries.map Entry.id = List.range' next content.breakpoints.length)
      (hfault : FirstFault entries v) :
      Loads next content (.error v, next + content.breakpoints.length)

section

variable {next : Id} {content : Snapshot} {entries : List Entry}
  {outcome : Except Violation Grid × Id}

theorem exists_minted (h : ∀ b ∈ content.breakpoints, b.Valid) (next : Id) :
    ∃ entries : List Entry, entries.map Entry.settings = content.breakpoints ∧
      entries.map Entry.id = List.range' next content.breakpoints.length := by
  obtain ⟨entries, after, hmint⟩ := exists_mintAll h next
  obtain ⟨hids, hsettings, -⟩ := mintAll_eq_ok hmint
  exact ⟨entries, hsettings, hids⟩

/-- Once entries are made from all breakpoints, only their ranges are left to look at. -/
theorem ofSnapshot?_of_minted (hcontent : entries.map Entry.settings = content.breakpoints)
    (hids : entries.map Entry.id = List.range' next content.breakpoints.length) :
    ofSnapshot? next content = (ofEntries? entries, next + content.breakpoints.length) := by
  have hlength : entries.length = content.breakpoints.length := by
    rw [← hcontent, List.length_map]
  rw [← hlength] at hids ⊢
  unfold ofSnapshot?
  rw [← hcontent, mintAll_entries hids]

theorem ofSnapshot?_of_invalid {front back : List Settings} {b : Settings} {v : Violation}
    (h : content.breakpoints = front ++ b :: back) (hfront : ∀ a ∈ front, a.Valid)
    (hb : b.check = .error v) (next : Id) :
    ofSnapshot? next content = (.error v, next + (front.length + 1)) := by
  unfold ofSnapshot?
  rw [h, mintAll_of_invalid hfront hb]

theorem ofSnapshot?_eq_iff : ofSnapshot? next content = outcome ↔ Loads next content outcome := by
  constructor
  · rintro rfl
    rcases valid_or_exists_invalid content.breakpoints with
      hvalid | ⟨front, b, back, v, h, hfront, hb⟩
    · obtain ⟨entries, hcontent, hids⟩ := exists_minted hvalid next
      rw [ofSnapshot?_of_minted hcontent hids]
      cases hgrid : ofEntries? entries with
      | ok g =>
        obtain rfl := ofEntries?_eq_ok_iff.1 hgrid
        exact .loaded (congrArg Snapshot.mk hcontent) hids
      | error v =>
        have hfault := partitionFault?_eq_some_iff.1 (ofEntries?_eq_error_iff.1 hgrid)
        exact .misfit hcontent hids hfault
    · rw [ofSnapshot?_of_invalid h hfront hb]
      exact .outOfBounds h hfront hb
  · intro h
    cases h with
    | @loaded g hcontent hids =>
      have hsettings : g.entries.map Entry.settings = content.breakpoints :=
        congrArg Snapshot.breakpoints hcontent
      rw [ofSnapshot?_of_minted hsettings hids, ofEntries?_eq_ok_iff.2 rfl]
    | outOfBounds h hfront hb => exact ofSnapshot?_of_invalid h hfront hb next
    | misfit hcontent hids hfault =>
      rw [ofSnapshot?_of_minted hcontent hids,
        ofEntries?_eq_error_iff.2 (partitionFault?_eq_some_iff.2 hfault)]

/-- Nothing is wrong with entries that are made from breakpoints exactly when there are none or
their ranges share out all widths. -/
theorem partitionFault?_of_minted (hcontent : entries.map Entry.settings = content.breakpoints)
    (hids : entries.map Entry.id = List.range' next content.breakpoints.length) :
    partitionFault? entries = none ↔
      content.breakpoints = [] ∨ Partition (content.breakpoints.map Settings.range) := by
  have hranges : content.breakpoints.map Settings.range = entries.map Entry.range := by
    rw [← hcontent, List.map_map]
    rfl
  have hnodup : (entries.map Entry.id).Nodup := hids ▸ List.nodup_range'
  rw [partitionFault?_eq_none_iff, hranges, partition_iff_tiles, ← hcontent, List.map_eq_nil_iff]
  exact or_congr_right (and_iff_left hnodup)

theorem exists_ofSnapshot?_iff :
    (∃ g after, ofSnapshot? next content = (.ok g, after)) ↔
      (∀ b ∈ content.breakpoints, b.Valid) ∧
        (content.breakpoints = [] ∨ Partition (content.breakpoints.map Settings.range)) := by
  constructor
  · rintro ⟨g, after, h⟩
    obtain ⟨hids, rfl, -⟩ := ofSnapshot?_eq_ok h
    refine ⟨fun b hb => ?_, (partitionFault?_of_minted rfl hids).1 g.partitioned⟩
    obtain ⟨e, -, rfl⟩ := List.mem_map.1 hb
    exact e.valid
  · rintro ⟨hvalid, hpartition⟩
    obtain ⟨entries, hcontent, hids⟩ := exists_minted hvalid next
    have hfault := (partitionFault?_of_minted hcontent hids).2 hpartition
    have hgrid : ofEntries? entries = .ok ⟨entries, hfault⟩ := ofEntries?_eq_ok_iff.2 rfl
    rw [ofSnapshot?_of_minted hcontent hids, hgrid]
    exact ⟨_, _, rfl⟩

theorem gap?_congr {entries others : List Entry}
    (h : entries.map Entry.range = others.map Entry.range) (index : Nat) :
    gap? index entries = gap? index others := by
  induction entries generalizing others index with
  | nil =>
    rw [List.map_nil, eq_comm, List.map_eq_nil_iff] at h
    rw [h]
  | cons a rest ih =>
    obtain ⟨a', rest', rfl, ha, hrest⟩ := List.map_eq_cons_iff.1 h.symm
    cases rest with
    | nil =>
      rw [List.map_nil, List.map_eq_nil_iff] at hrest
      rw [hrest]
      rfl
    | cons b rest =>
      obtain ⟨b', rest'', rfl, hb, -⟩ := List.map_eq_cons_iff.1 hrest
      rw [gap?, gap?, ha, hb, ih hrest.symm]

/-- Of entries under identities that are all different, only the ranges are looked at. -/
theorem partitionFault?_congr {entries others : List Entry}
    (h : entries.map Entry.range = others.map Entry.range)
    (hentries : (entries.map Entry.id).Nodup) (hothers : (others.map Entry.id).Nodup) :
    partitionFault? entries = partitionFault? others := by
  have hnone : ∀ {entries : List Entry}, (entries.map Entry.id).Nodup →
      repeated? [] entries = none :=
    fun hnodup => (repeated?_eq_none_iff [] _).2 ⟨hnodup, fun _ _ => List.not_mem_nil⟩
  cases entries with
  | nil =>
    rw [List.map_nil, eq_comm, List.map_eq_nil_iff] at h
    rw [h]
  | cons a rest =>
    obtain ⟨a', rest', rfl, ha, -⟩ := List.map_eq_cons_iff.1 h.symm
    have hlast : ((a :: rest).getLast (List.cons_ne_nil a rest)).range =
        ((a' :: rest').getLast (List.cons_ne_nil a' rest')).range := by
      have hlast? := congrArg List.getLast? h
      rw [List.getLast?_map, List.getLast?_map,
        List.getLast?_eq_some_getLast (List.cons_ne_nil a rest),
        List.getLast?_eq_some_getLast (List.cons_ne_nil a' rest')] at hlast?
      exact Option.some.inj hlast?
    rw [partitionFault?, partitionFault?, ha, hlast, gap?_congr h, hnone hentries, hnone hothers]

/-- What becomes of content does not depend on the identities it gets. -/
theorem ofSnapshot?_content (content : Snapshot) (next other : Id) :
    (ofSnapshot? next content).1.map snapshot = (ofSnapshot? other content).1.map snapshot := by
  rcases valid_or_exists_invalid content.breakpoints with
    hvalid | ⟨front, b, back, v, h, hfront, hb⟩
  · obtain ⟨entries, hcontent, hids⟩ := exists_minted hvalid next
    obtain ⟨others, hcontent', hids'⟩ := exists_minted hvalid other
    rw [ofSnapshot?_of_minted hcontent hids, ofSnapshot?_of_minted hcontent' hids']
    have hsettings := hcontent.trans hcontent'.symm
    have hranges : entries.map Entry.range = others.map Entry.range := by
      have hmap := congrArg (List.map Settings.range) hsettings
      rwa [List.map_map, List.map_map] at hmap
    have hfaults := partitionFault?_congr hranges (hids ▸ List.nodup_range')
      (hids' ▸ List.nodup_range')
    cases hgrid : ofEntries? entries with
    | ok g =>
      obtain rfl := ofEntries?_eq_ok_iff.1 hgrid
      have hother : ofEntries? others = .ok ⟨others, hfaults ▸ g.partitioned⟩ :=
        ofEntries?_eq_ok_iff.2 rfl
      rw [hother]
      exact congrArg (fun settings => Except.ok (Snapshot.mk settings)) hsettings
    | error v =>
      have hfault := ofEntries?_eq_error_iff.1 hgrid
      have hother : ofEntries? others = .error v :=
        ofEntries?_eq_error_iff.2 (hfaults ▸ hfault)
      rw [hother]
  · rw [ofSnapshot?_of_invalid h hfront hb, ofSnapshot?_of_invalid h hfront hb]

theorem not_mem_take_of_nodup {ids : List Id} (h : ids.Nodup) {index : Nat} {id : Id}
    (hid : ids[index]? = some id) : id ∉ ids.take index := by
  rw [← List.take_append_drop index ids, List.nodup_append] at h
  have hbehind : id ∈ ids.drop index := by
    refine List.mem_of_getElem? (i := 0) ?_
    rw [List.getElem?_drop]
    exact hid
  exact fun htaken => h.2.2 id htaken id hbehind rfl

/-- No identity is found twice in content that has just got its identities. -/
theorem Loads.ne_duplicateId (h : Loads next content outcome) (id : Id) :
    outcome.1 ≠ .error (.duplicateId id) := by
  intro hfault
  cases h with
  | loaded => cases hfault
  | outOfBounds _ _ hb =>
    cases hfault
    exact Settings.ofField_of_check hb
  | @misfit entries v _ hids hfirst =>
    cases hfault
    cases hfirst with
    | @duplicateId index e _ _ _ he hold _ =>
      have hnodup : (entries.map Entry.id).Nodup := hids ▸ List.nodup_range'
      have hid : (entries.map Entry.id)[index]? = some e.id := by
        rw [List.getElem?_map, he, Option.map_some]
      rw [List.map_take] at hold
      exact not_mem_take_of_nodup hnodup hid hold

end

/-- Content makes a system exactly when each breakpoint is within bounds and the ranges share
out all widths in order, or there are none.  The system has this content, and the next
identities in order.  If a breakpoint is out of bounds, the first one that is refuses all,
whatever the ranges are like, with its own violation and when as many identities have been taken
as it takes to come there.  If only the ranges do not fit, the first fault of the list is
reported, when each breakpoint has taken its identity.  No identity is ever found twice. -/
theorem load_exact (next : Id) (content : Snapshot) :
    ((∃ g after, ofSnapshot? next content = (.ok g, after)) ↔
      (∀ b ∈ content.breakpoints, b.Valid) ∧
        (content.breakpoints = [] ∨ Partition (content.breakpoints.map Settings.range))) ∧
    (∀ outcome, ofSnapshot? next content = outcome ↔ Loads next content outcome) ∧
    ∀ id, (ofSnapshot? next content).1 ≠ .error (.duplicateId id) := by
  have hloads : Loads next content (ofSnapshot? next content) := ofSnapshot?_eq_iff.1 rfl
  exact ⟨exists_ofSnapshot?_iff, fun _ => ofSnapshot?_eq_iff, hloads.ne_duplicateId⟩

/-- Three breakpoints that are each for all widths, the second of them without columns: it is the
columns that are reported, when two identities have been taken. -/
example : ofSnapshot? 7 ⟨[.seed, { Settings.seed with columns := 0 }, .seed]⟩ =
    (.error (.columnsOutOfRange 0), 9) :=
  rfl

end Grid

end ResponsiveGrid
