import Mathlib.Data.List.Infix
import ResponsiveGrid.Proofs.Stylesheet.Cascade
import ResponsiveGrid.Proofs.Stylesheet.Values
set_option autoImplicit false

/-!
# Stylesheet: markers and runs are exact and minimal

Where a field turns from one value to another is said here about neighbouring entries
alone (`TurnsAt`), without stretches or numbers.  Markers and runs are then compared with
it: a marker stands wherever some field turns and nowhere else, a field has a run under
the root and under the markers at which it turns and under no other key, and the last run
that has started at a width has the value of the entry that the width belongs to.

`Compressed` lists these promises and `compressed_collect` is that every system keeps
them.  Both passes are read off the stretches; `mem_bends_iff` and `mem_changes_iff` join
the stretches to neighbouring entries.
-/

namespace ResponsiveGrid.Stylesheet

/-! ## What is promised -/

/-- A field turns to another value at a width: an entry starts there, and the entry
before it has a different value. -/
def TurnsAt (s : Grid) (track : Track) (width : Nat) : Prop :=
  ∃ a b, [a, b] <:+: s.entries ∧ b.range.minWidth = width ∧
    track.valueIn a.settings ≠ track.valueIn b.settings

/-- The width from which on a key applies: that of its marker, or zero for the root. -/
def startOf (markers : List Marker) (key : Key) : Nat :=
  match markers.find? fun m => m.key == key with
  | some m => m.minWidth
  | none => 0

/-- A variable is the one of a field that counts at a width: it has the last key among
those that apply there. -/
structure Counts (markers : List Marker) (v : Variables) (track : Track) (width : Nat)
    (key : Key) (w : Variable) : Prop where
  found : v.get? track key = some w
  applies : startOf markers key ≤ width
  last : ∀ other, (v.get? track other).isSome → startOf markers other ≤ width →
    other = key ∨ other.Before key

/-- Markers and variables say what a system says, each thing once. -/
structure Compressed (s : Grid) (markers : List Marker) (v : Variables) : Prop where
  /-- the markers have the numbers one, two, three, and so on -/
  numbered : markers.map Marker.key = (List.range' 1 markers.length).map Key.marker
  /-- the markers are in ascending order of their widths -/
  ascending : markers.Pairwise fun m n => m.minWidth < n.minWidth
  /-- the markers stand exactly where at least one field turns -/
  placed : ∀ width, (∃ m ∈ markers, m.minWidth = width) ↔ ∃ track, TurnsAt s track width
  /-- the runs of a field are in the order of their keys, no two under one key -/
  ordered : ∀ track, (v.runs track).Pairwise fun r t => r.1.Before t.1
  /-- the runs of a field are under the root, unless the system is empty, and under the
  markers at which the field turns -/
  keyed : ∀ track key, (∃ w, (key, w) ∈ v.runs track) ↔
    key = .root ∧ s.entries ≠ [] ∨ ∃ m ∈ markers, m.key = key ∧ TurnsAt s track m.minWidth
  /-- no run of a field has the value of the run before it -/
  alternating : ∀ track, (v.runs track).IsChain fun r t => r.2.value ≠ t.2.value
  /-- every marker has a run -/
  used : ∀ m ∈ markers, ∃ track w, (m.key, w) ∈ v.runs track
  /-- at every width the variable of a field that counts has the value of the entry that
  is looked up for the width -/
  faithful : s.entries ≠ [] → ∀ width, ∃ e, s.matchFor width = some e ∧
    ∀ track, ∃ key w, Counts markers v track width key w ∧
      w.value = (track.valueIn e.settings).expression

/-! ## Neighbouring entries -/

theorem differs_iff {a b : Settings} :
    differs a b = true ↔ ∃ track : Track, track.valueIn a ≠ track.valueIn b := by
  have hlook := differs_eq_false_iff (a := a) (b := b)
  rw [← Bool.not_eq_false, hlook, ← not_iff_not, not_not, not_exists]
  constructor
  · intro h track
    exact not_not.2 (congrFun h track)
  · intro h
    funext track
    exact not_not.1 (h track)

theorem pair_infix_cons_cons {α : Type} {x y a b : α} {rest : List α} :
    [x, y] <:+: a :: b :: rest ↔ x = a ∧ y = b ∨ [x, y] <:+: b :: rest := by
  rw [List.infix_cons_iff, List.cons_prefix_cons, List.cons_prefix_cons]
  simp

theorem not_pair_infix_singleton {α : Type} {x y a : α} : ¬ [x, y] <:+: [a] := by
  intro h
  have hlength := h.length_le
  simp at hlength

/-- A later stretch starts at the second of two neighbours that look different, and has
its look. -/
theorem mem_bends_iff {entries : List Entry} {c : Stretch} :
    c ∈ bends entries ↔ ∃ a b, [a, b] <:+: entries ∧ differs a.settings b.settings = true ∧
      c = ⟨b.range.minWidth, look b.settings⟩ := by
  induction entries with
  | nil => simp [bends]
  | cons a rest ih =>
    cases rest with
    | nil => simp [bends, not_pair_infix_singleton]
    | cons b rest =>
      have hstep : c ∈ bends (a :: b :: rest) ↔
          differs a.settings b.settings = true ∧ c = ⟨b.range.minWidth, look b.settings⟩ ∨
            c ∈ bends (b :: rest) := by
        rw [bends_cons_cons]
        split
        · next hdiffers => simp [hdiffers]
        · next hdiffers => simp [hdiffers]
      rw [hstep, ih]
      constructor
      · rintro (⟨hdiffers, hc⟩ | ⟨x, y, hpair, hxy⟩)
        · exact ⟨a, b, pair_infix_cons_cons.2 (.inl ⟨rfl, rfl⟩), hdiffers, hc⟩
        · exact ⟨x, y, pair_infix_cons_cons.2 (.inr hpair), hxy⟩
      · rintro ⟨x, y, hpair, hxy⟩
        rcases pair_infix_cons_cons.1 hpair with ⟨rfl, rfl⟩ | hpair
        · exact .inl hxy
        · exact .inr ⟨x, y, hpair, hxy⟩

/-- A field turns at a later stretch exactly when the stretch starts at the second of two
neighbours that differ in it.  The number of the first stretch does not matter. -/
theorem mem_changes_iff (track : Track) (a : Entry) (rest : List Entry) (count width : Nat) :
    (∃ b ∈ changes track (track.valueIn a.settings) ((bends (a :: rest)).zipIdx count),
        b.1.start = width) ↔
      ∃ x y, [x, y] <:+: a :: rest ∧ y.range.minWidth = width ∧
        track.valueIn x.settings ≠ track.valueIn y.settings := by
  induction rest generalizing a count with
  | nil => simp [bends, changes, not_pair_infix_singleton]
  | cons b rest ih =>
    -- the pair in front counts exactly when its two values differ
    have hfront : (∃ x y, [x, y] <:+: a :: b :: rest ∧ y.range.minWidth = width ∧
          track.valueIn x.settings ≠ track.valueIn y.settings) ↔
        b.range.minWidth = width ∧ track.valueIn a.settings ≠ track.valueIn b.settings ∨
          ∃ x y, [x, y] <:+: b :: rest ∧ y.range.minWidth = width ∧
            track.valueIn x.settings ≠ track.valueIn y.settings := by
      constructor
      · rintro ⟨x, y, hpair, hxy⟩
        rcases pair_infix_cons_cons.1 hpair with ⟨rfl, rfl⟩ | hpair
        · exact .inl hxy
        · exact .inr ⟨x, y, hpair, hxy⟩
      · rintro (hxy | ⟨x, y, hpair, hxy⟩)
        · exact ⟨a, b, pair_infix_cons_cons.2 (.inl ⟨rfl, rfl⟩), hxy⟩
        · exact ⟨x, y, pair_infix_cons_cons.2 (.inr hpair), hxy⟩
    rw [hfront, bends_cons_cons]
    split
    · rw [List.zipIdx_cons]
      by_cases hvalue : track.valueIn b.settings = track.valueIn a.settings
      · rw [changes_cons_of_eq hvalue, ← hvalue, ih b (count + 1)]
        simp
      · have hvalue' := Ne.symm hvalue
        rw [changes_cons_of_ne hvalue, ← ih b (count + 1)]
        simp only [List.mem_cons, exists_eq_or_imp, ne_eq, hvalue', not_false_eq_true, and_true]
        rfl
    · next hdiffers =>
      have hlook := differs_eq_false_iff.1 (Bool.eq_false_iff.2 hdiffers)
      have hvalue : track.valueIn a.settings = track.valueIn b.settings := congrFun hlook track
      rw [hvalue, ih b count]
      simp

/-! ## Stretches of a system -/

theorem outline_tail {s : Grid} {e : Entry} {rest : List Entry} (h : s.entries = e :: rest) :
    (outline s).tail = (bends (e :: rest)).zipIdx 1 := by
  unfold outline
  rw [h, stretches, List.zipIdx_cons, List.tail_cons]

theorem eq_of_start_eq {s : Grid} {b c : Stretch × Nat} (hb : b ∈ outline s) (hc : c ∈ outline s)
    (h : b.1.start = c.1.start) : b = c := by
  have hnodup : ((outline s).map fun b => b.1.start).Nodup :=
    List.pairwise_map.2 ((pairwise_start_outline s).imp Nat.ne_of_lt)
  exact List.inj_on_of_nodup_map hnodup hb hc h

theorem eq_of_number_eq {s : Grid} {b c : Stretch × Nat} (hb : b ∈ outline s)
    (hc : c ∈ outline s) (h : b.2 = c.2) : b = c := by
  have hnodup : ((outline s).map Prod.snd).Nodup :=
    List.pairwise_map.2 ((pairwise_number_outline s).imp Nat.ne_of_lt)
  exact List.inj_on_of_nodup_map hnodup hb hc h

theorem number_eq_of_numbered_eq {m n : Nat} (h : Key.numbered m = Key.numbered n) : m = n := by
  rcases Nat.lt_trichotomy m n with hlt | heq | hgt
  · exact absurd (congrArg Key.rank h) (Nat.ne_of_lt (Key.numbered_before hlt))
  · exact heq
  · exact absurd (congrArg Key.rank h).symm (Nat.ne_of_lt (Key.numbered_before hgt))

theorem exists_look_of_mem_outline {s : Grid} {b : Stretch × Nat} (h : b ∈ outline s) :
    ∃ e ∈ s.entries, b.1.look = look e.settings := by
  have hmem : b.1 ∈ stretches s.entries := List.fst_mem_of_mem_zipIdx h
  cases hentries : s.entries with
  | nil => rw [hentries] at hmem; cases hmem
  | cons e rest =>
    rw [hentries] at hmem
    rcases List.mem_cons.1 hmem with hfirst | hlater
    · exact ⟨e, List.mem_cons_self, by rw [hfirst]⟩
    · obtain ⟨x, y, hpair, -, hb⟩ := mem_bends_iff.1 hlater
      exact ⟨y, hpair.subset (by simp), by rw [hb]⟩

/-- The key of a stretch applies from the start of the stretch on. -/
theorem startOf_numbered {s : Grid} {b : Stretch × Nat} (h : b ∈ outline s) :
    startOf (markers s) (Key.numbered b.2) = b.1.start := by
  have hmarker : ∀ m ∈ markers s, m.key = Key.numbered b.2 → m = markerOf b ∧ b.2 ≠ 0 := by
    intro m hm hkey
    rw [markers_eq] at hm
    obtain ⟨c, hc, rfl⟩ := List.mem_map.1 hm
    have hnumber : c.2 = b.2 := number_eq_of_numbered_eq hkey
    have hsame := eq_of_number_eq (List.mem_of_mem_tail hc) h hnumber
    have hnumbered := numbered_of_mem_tail hc
    refine ⟨by rw [hsame], fun hzero => ?_⟩
    rw [hnumber, hzero] at hnumbered
    cases hnumbered
  unfold startOf
  cases hfind : (markers s).find? fun m => m.key == Key.numbered b.2 with
  | some m =>
    have hkey := List.find?_some hfind
    obtain ⟨rfl, -⟩ := hmarker m (List.mem_of_find?_eq_some hfind) (eq_of_beq hkey)
    rfl
  | none =>
    rcases outline_eq_cons h with ⟨-, hstart⟩ | htail
    · exact hstart.symm
    · have hnot := List.find?_eq_none.1 hfind (markerOf b) (markerOf_mem htail)
      exact absurd (beq_self_eq_true _) hnot

/-- A field turns at the start of a later stretch exactly when the stretch is among those
at which its runs start. -/
theorem turnsAt_start_iff {s : Grid} {b : Stretch × Nat} (h : b ∈ (outline s).tail)
    (track : Track) : TurnsAt s track b.1.start ↔ b ∈ turns track (outline s) := by
  have hmem := List.mem_of_mem_tail h
  cases hentries : s.entries with
  | nil =>
    unfold outline at h
    rw [hentries] at h
    cases h
  | cons e rest =>
    have htail := outline_tail hentries
    have houtline : outline s = (⟨e.range.minWidth, look e.settings⟩, 0) :: (outline s).tail := by
      unfold outline
      rw [hentries, stretches, List.zipIdx_cons, List.tail_cons]
    have hchanges := mem_changes_iff track e rest 1 b.1.start
    have hfirst : b ≠ (⟨e.range.minWidth, look e.settings⟩, 0) := by
      rintro rfl
      have hnumbered := numbered_of_mem_tail h
      cases hnumbered
    unfold TurnsAt
    rw [hentries, ← hchanges, houtline, turns, htail, List.mem_cons]
    constructor
    · rintro ⟨c, hc, hstart⟩
      have hcmem : c ∈ outline s := by
        apply List.mem_of_mem_tail
        rw [htail]
        exact (changes_sublist track _ _).mem hc
      rw [eq_of_start_eq hmem hcmem hstart.symm]
      exact .inr hc
    · rintro (hb | hb)
      · exact absurd hb hfirst
      · exact ⟨b, hb, rfl⟩

/-! ## Markers -/

theorem map_key_markers (s : Grid) :
    (markers s).map Marker.key = (List.range' 1 (markers s).length).map Key.marker := by
  have hkeys : (markers s).map Marker.key =
      ((outline s).tail.map Prod.snd).map Key.numbered := by
    rw [markers_eq, List.map_map, List.map_map]
    rfl
  have hnumbers : (outline s).tail.map Prod.snd = List.range' 1 (markers s).length := by
    rw [markers_eq, List.length_map]
    cases hentries : s.entries with
    | nil => simp [outline, stretches, hentries]
    | cons e rest => rw [outline_tail hentries, List.zipIdx_map_snd, List.length_zipIdx]
  rw [hkeys, hnumbers]
  apply List.map_congr_left
  intro n hn
  obtain ⟨hpos, -⟩ := List.mem_range'_1.1 hn
  cases n with
  | zero => omega
  | succ n => rfl

theorem pairwise_minWidth_markers (s : Grid) :
    (markers s).Pairwise fun m n => m.minWidth < n.minWidth := by
  rw [markers_eq, List.pairwise_map]
  exact (pairwise_start_outline s).sublist (List.tail_sublist _)

/-- A marker stands at a width exactly when at least one field turns there. -/
theorem exists_marker_iff (s : Grid) (width : Nat) :
    (∃ m ∈ markers s, m.minWidth = width) ↔ ∃ track, TurnsAt s track width := by
  have hmarkers : (∃ m ∈ markers s, m.minWidth = width) ↔
      ∃ c ∈ bends s.entries, c.start = width := by
    unfold markers
    rw [markersFrom_eq]
    constructor
    · rintro ⟨m, hm, hwidth⟩
      obtain ⟨b, hb, rfl⟩ := List.mem_map.1 hm
      exact ⟨b.1, List.fst_mem_of_mem_zipIdx hb, hwidth⟩
    · rintro ⟨c, hc, hwidth⟩
      rw [← List.zipIdx_map_fst 1 (bends s.entries)] at hc
      obtain ⟨b, hb, rfl⟩ := List.mem_map.1 hc
      exact ⟨markerOf b, List.mem_map_of_mem hb, hwidth⟩
  rw [hmarkers]
  constructor
  · rintro ⟨c, hc, rfl⟩
    obtain ⟨a, b, hpair, hdiffers, rfl⟩ := mem_bends_iff.1 hc
    obtain ⟨track, hvalue⟩ := differs_iff.1 hdiffers
    exact ⟨track, a, b, hpair, rfl, hvalue⟩
  · rintro ⟨track, a, b, hpair, hwidth, hvalue⟩
    exact ⟨_, mem_bends_iff.2 ⟨a, b, hpair, differs_iff.2 ⟨track, hvalue⟩, rfl⟩, hwidth⟩

/-! ## Runs -/

/-- A field has a run under a key exactly when the key is that of a stretch at which the
field turns. -/
theorem exists_run_iff (s : Grid) (track : Track) (key : Key) :
    (∃ w, (key, w) ∈ (Variables.collect s (markers s)).runs track) ↔
      ∃ b ∈ turns track (outline s), Key.numbered b.2 = key := by
  rw [runs_eq]
  constructor
  · rintro ⟨w, hw⟩
    obtain ⟨b, hb, hrun⟩ := List.mem_map.1 hw
    exact ⟨b, hb, congrArg Prod.fst hrun⟩
  · rintro ⟨b, hb, rfl⟩
    exact ⟨_, List.mem_map_of_mem hb⟩

theorem exists_first_turn {s : Grid} (h : s.entries ≠ []) (track : Track) :
    ∃ b ∈ turns track (outline s), b.2 = 0 := by
  unfold outline
  cases hentries : s.entries with
  | nil => exact absurd hentries h
  | cons e rest =>
    rw [stretches, List.zipIdx_cons, turns]
    exact ⟨_, List.mem_cons_self, rfl⟩

theorem exists_run_iff_turnsAt (s : Grid) (track : Track) (key : Key) :
    (∃ w, (key, w) ∈ (Variables.collect s (markers s)).runs track) ↔
      key = .root ∧ s.entries ≠ [] ∨
        ∃ m ∈ markers s, m.key = key ∧ TurnsAt s track m.minWidth := by
  rw [exists_run_iff]
  constructor
  · rintro ⟨b, hb, rfl⟩
    have hmem := (turns_sublist track _).mem hb
    obtain ⟨e, he, -⟩ := exists_look_of_mem_outline hmem
    rcases outline_eq_cons hmem with ⟨hzero, -⟩ | htail
    · exact .inl ⟨by rw [hzero]; rfl, List.ne_nil_of_mem he⟩
    · exact .inr ⟨markerOf b, markerOf_mem htail, rfl, (turnsAt_start_iff htail track).2 hb⟩
  · rintro (⟨rfl, hentries⟩ | ⟨m, hm, rfl, hturns⟩)
    · obtain ⟨b, hb, hzero⟩ := exists_first_turn hentries track
      exact ⟨b, hb, by rw [hzero]; rfl⟩
    · rw [markers_eq] at hm
      obtain ⟨b, hb, rfl⟩ := List.mem_map.1 hm
      exact ⟨b, (turnsAt_start_iff hb track).1 hturns, rfl⟩

/-- What a field turns to is never what it was. -/
theorem isChain_turns (track : Track) (bs : List (Stretch × Nat)) :
    (turns track bs).IsChain fun b c => b.1.look track ≠ c.1.look track := by
  cases bs with
  | nil => exact .nil
  | cons first rest =>
    rw [turns]
    induction rest generalizing first with
    | nil => exact .singleton _
    | cons b rest ih =>
      by_cases hvalue : b.1.look track = first.1.look track
      · rw [changes_cons_of_eq hvalue]
        exact ih first
      · rw [changes_cons_of_ne hvalue, List.isChain_cons_cons]
        exact ⟨Ne.symm hvalue, ih b⟩

/-- No run of a field has the text of the run before it. -/
theorem isChain_runs (s : Grid) (track : Track) :
    ((Variables.collect s (markers s)).runs track).IsChain
      fun r t => r.2.value ≠ t.2.value := by
  rw [runs_eq, List.isChain_map]
  refine (isChain_turns track (outline s)).imp_of_mem_imp ?_
  intro b c hb hc hvalue htext
  obtain ⟨d, -, hd⟩ := exists_look_of_mem_outline ((turns_sublist track _).mem hb)
  obtain ⟨e, -, he⟩ := exists_look_of_mem_outline ((turns_sublist track _).mem hc)
  have htext : (b.1.look track).expression = (c.1.look track).expression := htext
  rw [hd, he] at htext hvalue
  exact hvalue (expression_inj d.valid e.valid htext)

theorem eq_or_of_getLast? {α : Type} {R : α → α → Prop} {l : List α} (h : l.Pairwise R) {b x : α}
    (hlast : l.getLast? = some b) (hx : x ∈ l) : x = b ∨ R x b := by
  obtain ⟨front, rfl⟩ := List.getLast?_eq_some_iff.1 hlast
  rcases List.mem_append.1 hx with hfront | hback
  · exact .inr ((List.pairwise_append.1 h).2.2 x hfront b (List.mem_singleton_self b))
  · exact .inl (List.mem_singleton.1 hback)

/-- The variable of a field that counts at a width has the value of the entry that is
looked up for the width. -/
theorem exists_counts {s : Grid} {width : Nat} {e : Entry} (h : s.matchFor width = some e)
    (track : Track) :
    ∃ key w, Counts (markers s) (Variables.collect s (markers s)) track width key w ∧
      w.value = (track.valueIn e.settings).expression := by
  obtain ⟨b, hlast, hvalue⟩ := last_turn h track
  have hfiltered := List.mem_of_getLast? hlast
  obtain ⟨hturn, hreached⟩ := List.mem_filter.1 hfiltered
  have hmem := (turns_sublist track _).mem hturn
  have hrun : runOf track b ∈ (Variables.collect s (markers s)).runs track := by
    rw [runs_eq]
    exact List.mem_map_of_mem hturn
  refine ⟨Key.numbered b.2, variableFor track (Key.numbered b.2) (b.1.look track),
    ⟨?_, ?_, ?_⟩, congrArg TrackValue.expression hvalue⟩
  · exact Variables.get?_of_mem (ascending_collect s) hrun
  · rw [startOf_numbered hmem]
    exact of_decide_eq_true hreached
  · intro other hsome hstart
    obtain ⟨w, hw⟩ := Option.isSome_iff_exists.1 hsome
    obtain ⟨c, hc, rfl⟩ :=
      (exists_run_iff s track other).1 ⟨w, Variables.mem_of_get? hw⟩
    rw [startOf_numbered ((turns_sublist track _).mem hc)] at hstart
    have hcreached : c ∈ (turns track (outline s)).filter (reached width) :=
      List.mem_filter.2 ⟨hc, decide_eq_true hstart⟩
    have hordered := ((pairwise_number_outline s).sublist (turns_sublist track _)).sublist
      (List.filter_sublist (p := reached width))
    rcases eq_or_of_getLast? hordered hlast hcreached with rfl | hlt
    · exact .inl rfl
    · exact .inr (Key.numbered_before hlt)

/-! ## Systems -/

/-- The markers and the variables of every system are exact and minimal. -/
theorem compressed_collect (s : Grid) :
    Compressed s (markers s) (Variables.collect s (markers s)) where
  numbered := map_key_markers s
  ascending := pairwise_minWidth_markers s
  placed := exists_marker_iff s
  ordered := ascending_collect s
  keyed := exists_run_iff_turnsAt s
  alternating := isChain_runs s
  used := by
    intro m hm
    obtain ⟨track, hturns⟩ := (exists_marker_iff s m.minWidth).1 ⟨m, hm, rfl⟩
    obtain ⟨w, hw⟩ := (exists_run_iff_turnsAt s track m.key).2 (.inr ⟨m, hm, rfl, hturns⟩)
    exact ⟨track, w, hw⟩
  faithful := by
    intro hentries width
    obtain ⟨e, -, hmatch, -⟩ := s.matchFor_unique hentries width
    exact ⟨e, hmatch, exists_counts hmatch⟩

end ResponsiveGrid.Stylesheet
