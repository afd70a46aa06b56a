import ResponsiveGrid.Proofs.Grid.Loading
import ResponsiveGrid.Proofs.Grid.Session
import ResponsiveGrid.Proofs.Wire
set_option autoImplicit false

/-!
# Grid: systems that are stored and loaded again

Whatever has been done in a session, the stored text of its system can be read, and what is
read makes a system again, under identities that the session has not taken yet.  Everything
but the scales comes back as it was; a scale does exactly when it is read back from its
digits (`Decimal.ReadsBack`), and some scales with sixteen places are not.
-/

namespace ResponsiveGrid

namespace Grid

/-! ## Systems from content with the same ranges -/

theorem exists_ofSnapshot? (g : Grid) {content : Snapshot}
    (hvalid : ∀ b ∈ content.breakpoints, b.Valid)
    (hranges : content.breakpoints.map Settings.range = g.entries.map Entry.range) (next : Id) :
    ∃ g' after, ofSnapshot? next content = (.ok g', after) := by
  refine exists_ofSnapshot?_iff.2 ⟨hvalid, ?_⟩
  rw [hranges]
  by_cases hentries : g.entries = []
  · rw [hentries, List.map_nil, List.map_eq_nil_iff] at hranges
    exact .inl hranges
  · exact .inr ((partition_iff_tiles g.entries).2 (g.tiles hentries))

/-! ## Content that is read back -/

theorem storable (g : Grid) : ∀ b ∈ g.snapshot.breakpoints, b.Storable := by
  intro b hb
  obtain ⟨e, -, rfl⟩ := List.mem_map.1 hb
  exact e.valid.storable

theorem valid_reread {b : Settings} (h : b.Valid) : b.reread.Valid where
  contentMaxWidth := h.contentMaxWidth
  columns := h.columns
  gutter := h.gutter
  margin := h.margin
  scale := Decimal.reread_between h.scale.1 h.scale.2
  placements := h.placements

/-- What is read of the content of a system makes a system. -/
theorem exists_ofSnapshot?_reread (g : Grid) (next : Id) :
    ∃ g', ofSnapshot? next g.snapshot.reread = (.ok g', next + g.size) ∧
      g'.snapshot = g.snapshot.reread ∧ g'.ids = List.range' next g.size := by
  have hvalid : ∀ b ∈ g.snapshot.reread.breakpoints, b.Valid := by
    intro b hb
    obtain ⟨a, ha, rfl⟩ := List.mem_map.1 hb
    obtain ⟨e, -, rfl⟩ := List.mem_map.1 ha
    exact valid_reread e.valid
  have hranges : g.snapshot.reread.breakpoints.map Settings.range =
      g.entries.map Entry.range := by
    unfold snapshot Snapshot.reread
    rw [List.map_map, List.map_map]
    rfl
  obtain ⟨g', after, hload⟩ := g.exists_ofSnapshot? hvalid hranges next
  obtain ⟨hids, hcontent, hafter⟩ := ofSnapshot?_eq_ok hload
  have hsize : g.snapshot.reread.breakpoints.length = g.size := by
    unfold snapshot Snapshot.reread size
    rw [List.length_map, List.length_map]
  rw [hsize] at hids hafter
  exact ⟨g', hafter ▸ hload, hcontent, hids⟩

/-- The content is read back as it was exactly when every scale is. -/
theorem snapshot_reread_eq_iff (g : Grid) :
    g.snapshot.reread = g.snapshot ↔ ∀ e ∈ g.entries, Decimal.ReadsBack e.settings.scale := by
  have hsettings : ∀ e : Entry,
      e.settings.reread = e.settings ↔ Decimal.ReadsBack e.settings.scale := by
    intro e
    rw [← Decimal.reread_eq_iff e.valid.scale.1 e.valid.scale.2]
    constructor
    · intro h
      exact congrArg Settings.scale h
    · intro h
      unfold Settings.reread
      rw [h]
  have hlist : g.snapshot.reread = g.snapshot ↔
      (g.entries.map Entry.settings).map Settings.reread = g.entries.map Entry.settings :=
    ⟨fun h => congrArg Snapshot.breakpoints h, fun h => congrArg Snapshot.mk h⟩
  rw [hlist, List.map_map, List.map_inj_left]
  exact forall₂_congr fun e _ => hsettings e

end Grid

namespace Session

/-- What comes of storing the system of a session and loading it again. -/
structure Reloads (s : Session) : Prop where
  /-- the stored text can be read, and only scales may come back changed -/
  parse : Snapshot.parse s.grid.snapshot.text = .ok s.grid.snapshot.reread
  /-- what is read makes a system under identities that are new -/
  load : ∃ g, Grid.ofSnapshot? s.next s.grid.snapshot.reread = (.ok g, s.next + s.grid.size) ∧
    g.snapshot = s.grid.snapshot.reread ∧ g.ids = List.range' s.next s.grid.size ∧
    ∀ id ∈ g.ids, id ∉ s.grid.ids
  /-- nothing is lost exactly when every scale is read back from its digits -/
  exact_iff : Snapshot.parse s.grid.snapshot.text = .ok s.grid.snapshot ↔
    ∀ e ∈ s.grid.entries, Decimal.ReadsBack e.settings.scale

/-- The system of every session can be stored and loaded again, and it keeps its content
exactly when every scale is read back from its digits. -/
theorem reloads_run (steps : List Step) : (start.run steps).Reloads where
  parse := Snapshot.parse_text (start.run steps).grid.storable
  load := by
    obtain ⟨g, hload, hcontent, hids⟩ :=
      (start.run steps).grid.exists_ofSnapshot?_reread (start.run steps).next
    refine ⟨g, hload, hcontent, hids, ?_⟩
    intro id hid hold
    rw [hids, List.mem_range'_1] at hid
    have hlt := lt_next_of_taken steps id (taken_run steps id hold)
    exact absurd hid.1 (Nat.not_le.2 hlt)
  exact_iff := by
    rw [Snapshot.parse_text (start.run steps).grid.storable, ← Grid.snapshot_reread_eq_iff]
    exact ⟨fun h => Except.ok.inj h, fun h => congrArg Except.ok h⟩

/-- The steps to a system with one entry, whose scale has sixteen places. -/
def toSixteenPlaces : List Step := [.add, .setField 1 (.scale 1.0000000000000007)]

/-- A scale of `1.0000000000000007` comes back as `1.0000000000000009`. -/
theorem parse_toSixteenPlaces :
    Snapshot.parse (start.run toSixteenPlaces).grid.snapshot.text =
        .ok ⟨[{ Settings.seed with scale := 1.0000000000000009 }]⟩ ∧
      Snapshot.parse (start.run toSixteenPlaces).grid.snapshot.text ≠
        .ok (start.run toSixteenPlaces).grid.snapshot := by
  have hread : (start.run toSixteenPlaces).grid.snapshot.reread =
      ⟨[{ Settings.seed with scale := 1.0000000000000009 }]⟩ := by
    decide +kernel
  have hstored : (start.run toSixteenPlaces).grid.snapshot =
      ⟨[{ Settings.seed with scale := 1.0000000000000007 }]⟩ := by
    decide +kernel
  have hchanged : (⟨[{ Settings.seed with scale := 1.0000000000000009 }]⟩ : Snapshot) ≠
      ⟨[{ Settings.seed with scale := 1.0000000000000007 }]⟩ := by
    decide +kernel
  have hparse := Snapshot.parse_text (start.run toSixteenPlaces).grid.storable
  rw [hread] at hparse
  refine ⟨hparse, fun h => hchanged ?_⟩
  rw [hparse, hstored] at h
  exact Except.ok.inj h

end Session

end ResponsiveGrid
