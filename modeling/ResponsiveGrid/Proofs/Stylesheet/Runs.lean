import Mathlib.Data.List.Chain
import ResponsiveGrid.Proofs.Grid.Partition
import ResponsiveGrid.Stylesheet.Track
set_option autoImplicit false

/-!
# Stylesheet: stretches of equal looks

Markers and runs are computed from the entries in two passes that share nothing but the
widths at which markers stand.  Both are read off one list here: `stretches` cuts the
widths wherever a tracked field changes, and its positions are the numbers of the keys.
`markers_eq` and `runs_eq` say that the markers are its cuts and that the runs of a field
are those of its stretches at which this field turns to another value.

`last_turn` closes the circle to single widths: the last run that starts at or below a
width has the value of the entry that is looked up for the width.
-/

namespace ResponsiveGrid.Stylesheet

/-! ## Looks -/

/-- What the tracked fields are set to. -/
abbrev Look : Type := Track → TrackValue

/-- What the tracked fields of settings are set to. -/
def look (s : Settings) : Look := fun track => track.valueIn s

theorem differs_eq_false_iff {a b : Settings} : differs a b = false ↔ look a = look b := by
  have hall : ∀ track, track ∈ Track.all := by
    intro track
    cases track <;> decide
  unfold differs
  rw [List.any_eq_false]
  constructor
  · intro h
    funext track
    have hsame : track.valueIn a = track.valueIn b := by simpa using h track (hall track)
    exact hsame
  · intro h track _
    have hsame : track.valueIn a = track.valueIn b := congrFun h track
    simp [hsame]

theorem look_eq_iff {a b : Settings} :
    look a = look b ↔ a.contentMaxWidth = b.contentMaxWidth ∧ a.columns = b.columns ∧
      a.gutter = b.gutter ∧ a.margin = b.margin ∧ a.scale = b.scale := by
  constructor
  · intro h
    refine ⟨?_, ?_, ?_, ?_, ?_⟩
    · exact TrackValue.width.inj (congrFun h .contentMaxWidth)
    · exact TrackValue.count.inj (congrFun h .columns)
    · exact TrackValue.pixels.inj (congrFun h .gutter)
    · exact TrackValue.pixels.inj (congrFun h .margin)
    · exact TrackValue.ratio.inj (congrFun h .scale)
  · rintro ⟨hcap, hcolumns, hgutter, hmargin, hscale⟩
    funext track
    cases track <;> simp [look, Track.valueIn, *]

/-! ## Stretches -/

/-- A width and the look from there on. -/
structure Stretch where
  start : Nat
  look : Look

/-- The stretches behind the first: each starts where an entry looks different from the
one before. -/
def bends : List Entry → List Stretch
  | a :: b :: rest =>
      if differs a.settings b.settings then
        ⟨b.range.minWidth, look b.settings⟩ :: bends (b :: rest)
      else bends (b :: rest)
  | _ => []

/-- The widths cut wherever the look changes. -/
def stretches : List Entry → List Stretch
  | [] => []
  | e :: rest => ⟨e.range.minWidth, look e.settings⟩ :: bends (e :: rest)

/-- The stretches of a system with their numbers, from zero on. -/
def outline (s : Grid) : List (Stretch × Nat) := (stretches s.entries).zipIdx

/-- The key of a stretch: the root for the first one, and then the markers. -/
def Key.numbered : Nat → Key
  | 0 => .root
  | n + 1 => .marker (n + 1)

theorem bends_cons_cons (a b : Entry) (rest : List Entry) :
    bends (a :: b :: rest) =
      if differs a.settings b.settings then
        ⟨b.range.minWidth, look b.settings⟩ :: bends (b :: rest)
      else bends (b :: rest) := rfl

theorem minWidth_of_tiles {start : Nat} {e : Entry} {rest : List Entry}
    (h : Tiles start (e :: rest)) : e.range.minWidth = start :=
  ((tiles_iff e rest start).1 h).1

theorem le_start_of_mem_bends {start : Nat} {a : Entry} {rest : List Entry}
    (h : Tiles start rest) : ∀ b ∈ bends (a :: rest), start ≤ b.start := by
  induction h generalizing a with
  | @last _ e hmin _ =>
    intro b hb
    rw [bends_cons_cons] at hb
    split at hb
    · rcases List.mem_cons.1 hb with rfl | hb
      · exact Nat.le_of_eq hmin.symm
      · cases hb
    · cases hb
  | @cons _ e rest m hmin hmax hrest ih =>
    have hbounds := e.range.maxWidth_bounds m hmax
    intro b hb
    rw [bends_cons_cons] at hb
    split at hb
    · rcases List.mem_cons.1 hb with rfl | hb
      · exact Nat.le_of_eq hmin.symm
      · have := ih b hb
        omega
    · have := ih b hb
      omega

theorem lt_start_of_mem_bends {start : Nat} {entries : List Entry} (h : Tiles start entries) :
    ∀ b ∈ bends entries, start < b.start := by
  cases h with
  | last _ _ => simp [bends]
  | @cons _ e rest m hmin hmax hrest =>
    have hbounds := e.range.maxWidth_bounds m hmax
    intro b hb
    have := le_start_of_mem_bends hrest b hb
    omega

theorem pairwise_start_bends {start : Nat} {entries : List Entry} (h : Tiles start entries) :
    (bends entries).Pairwise fun b c => b.start < c.start := by
  induction h with
  | last _ _ => simp [bends]
  | @cons _ a rest m hmin hmax hrest ih =>
    cases rest with
    | nil => cases hrest
    | cons b rest =>
      rw [bends_cons_cons]
      split
      · refine List.pairwise_cons.2 ⟨fun c hc => ?_, ih⟩
        show b.range.minWidth < c.start
        rw [minWidth_of_tiles hrest]
        exact lt_start_of_mem_bends hrest c hc
      · exact ih

/-- What is last of a list behind a first element, read off by a function, with the first
element's reading in place of a missing one. -/
theorem getLast?_cons_getD {α β : Type} (f : α → β) (a : α) (l : List α) (d : β) :
    ((a :: l).getLast?.map f).getD d = (l.getLast?.map f).getD (f a) := by
  rw [List.getLast?_cons]
  cases l.getLast? <;> rfl

/-- The look at a width: that of the last later stretch that has started, or the first. -/
def lookAt (first : Look) (later : List Stretch) (width : Nat) : Look :=
  ((later.filter fun b => decide (b.start ≤ width)).getLast?.map Stretch.look).getD first

/-- Where a later stretch has started, the look before it does not matter. -/
theorem lookAt_cons {first : Look} {b : Stretch} {later : List Stretch} {width : Nat}
    (h : b.start ≤ width) : lookAt first (b :: later) width = lookAt b.look later width := by
  unfold lookAt
  rw [List.filter_cons_of_pos (by simpa using h), getLast?_cons_getD]

theorem lookAt_of_lt {first : Look} {later : List Stretch} {width : Nat}
    (h : ∀ b ∈ later, width < b.start) : lookAt first later width = first := by
  have hnone : (later.filter fun b => decide (b.start ≤ width)) = [] := by
    simpa using h
  unfold lookAt
  rw [hnone]
  rfl

theorem exists_getLast?_cons {α β : Type} (f : α → β) (a : α) (l : List α) :
    ∃ b, (a :: l).getLast? = some b ∧ f b = (l.getLast?.map f).getD (f a) := by
  rw [List.getLast?_cons]
  refine ⟨_, rfl, ?_⟩
  cases l.getLast? <;> rfl

/-- The last stretch that starts at or below a width looks like the entry whose range the
width lies in. -/
theorem last_bend {start : Nat} {a : Entry} {rest : List Entry} (h : Tiles start (a :: rest))
    {width : Nat} (hw : start ≤ width) :
    ∃ e, (a :: rest).find? (fun e => e.range.matches? width) = some e ∧
      lookAt (look a.settings) (bends (a :: rest)) width = look e.settings := by
  induction rest generalizing a start with
  | nil =>
    cases h with
    | last hmin hmax =>
      have hmem : a.range.Mem width := ⟨by omega, by simp [hmax]⟩
      exact ⟨a, by simp [hmem], rfl⟩
    | cons _ _ hrest => cases hrest
  | cons b rest ih =>
    cases h with
    | @cons _ _ _ m hmin hmax hrest =>
      by_cases hm : width ≤ m
      · have hmem : a.range.Mem width := ⟨by omega, by simp [hmax, hm]⟩
        refine ⟨a, by simp [hmem], lookAt_of_lt ?_⟩
        intro c hc
        exact Nat.lt_of_le_of_lt hm (le_start_of_mem_bends hrest c hc)
      · have hnot : ¬ a.range.Mem width := WidthRange.not_mem_of_lt hmax (by omega)
        obtain ⟨e, hfind, hlast⟩ := ih hrest (by omega)
        refine ⟨e, by rw [List.find?_cons_of_neg (by simpa using hnot)]; exact hfind, ?_⟩
        rw [← hlast, bends_cons_cons]
        split
        · have hb : b.range.minWidth ≤ width := by
            rw [minWidth_of_tiles hrest]
            omega
          rw [lookAt_cons hb]
        · next hdiffers =>
          rw [differs_eq_false_iff.1 (Bool.eq_false_iff.2 hdiffers)]

/-! ## Markers -/

/-- The marker at which a later stretch starts. -/
def markerOf (b : Stretch × Nat) : Marker := ⟨Key.numbered b.2, b.1.start⟩

/-- The markers among entries stand where stretches start. -/
theorem markersFrom_eq (count : Nat) (entries : List Entry) :
    markersFrom count entries = ((bends entries).zipIdx (count + 1)).map markerOf := by
  induction entries generalizing count with
  | nil => rfl
  | cons a rest ih =>
    cases rest with
    | nil => rfl
    | cons b rest =>
      rw [markersFrom, bends_cons_cons]
      split
      · rw [ih, List.zipIdx_cons, List.map_cons]
        rfl
      · exact ih count

/-- The markers of a system are the starts of its stretches, but for the first. -/
theorem markers_eq (s : Grid) : markers s = (outline s).tail.map markerOf := by
  unfold markers outline
  rw [markersFrom_eq]
  cases s.entries with
  | nil => rfl
  | cons e rest => rw [stretches, List.zipIdx_cons, List.tail_cons]

/-! ## Turns -/

/-- The stretches at which a field turns from one value to another. -/
def changes (track : Track) : TrackValue → List (Stretch × Nat) → List (Stretch × Nat)
  | _, [] => []
  | previous, b :: rest =>
      if b.1.look track = previous then changes track previous rest
      else b :: changes track (b.1.look track) rest

/-- The first stretch, and those at which a field turns to another value. -/
def turns (track : Track) : List (Stretch × Nat) → List (Stretch × Nat)
  | [] => []
  | b :: rest => b :: changes track (b.1.look track) rest

/-- The run of a field that starts with a stretch. -/
def runOf (track : Track) (b : Stretch × Nat) : Key × Variable :=
  (Key.numbered b.2, variableFor track (Key.numbered b.2) (b.1.look track))

theorem insert_of_rank_lt {key : Key} {v : Variable} {runs : Runs}
    (h : ∀ r ∈ runs, r.1.rank < key.rank) : runs.insert key v = runs ++ [(key, v)] := by
  induction runs with
  | nil => rfl
  | cons r rest ih =>
    obtain ⟨k, w⟩ := r
    have hk : k.rank < key.rank := h (k, w) List.mem_cons_self
    rw [Runs.insert, if_neg (Nat.not_lt_of_gt hk), if_neg, ih, List.cons_append]
    · intro r hr
      exact h r (List.mem_cons_of_mem _ hr)
    · rintro rfl
      exact Nat.lt_irrefl _ hk

/-- The key of the first marker that stands at a width, behind markers below it. -/
theorem keyAt_append_cons {front back : List Marker} {key : Key} {width : Nat}
    (h : ∀ m ∈ front, m.minWidth < width) :
    keyAt (front ++ ⟨key, width⟩ :: back) width = key := by
  have hfront : front.find? (fun m => m.minWidth == width) = none := by
    rw [List.find?_eq_none]
    intro m hm
    simpa using Nat.ne_of_lt (h m hm)
  unfold keyAt
  rw [List.find?_append, hfront]
  simp

theorem changes_cons_of_eq {track : Track} {previous : TrackValue} {b : Stretch × Nat}
    {rest : List (Stretch × Nat)} (h : b.1.look track = previous) :
    changes track previous (b :: rest) = changes track previous rest := by
  rw [changes, if_pos h]

theorem changes_cons_of_ne {track : Track} {previous : TrackValue} {b : Stretch × Nat}
    {rest : List (Stretch × Nat)} (h : b.1.look track ≠ previous) :
    changes track previous (b :: rest) = b :: changes track (b.1.look track) rest := by
  rw [changes, if_neg h]

theorem collectFrom_cons_of_eq {track : Track} {markers : List Marker} {previous : TrackValue}
    {b : Entry} {rest : List Entry} {runs : Runs} (hmin : 0 < b.range.minWidth)
    (h : track.valueIn b.settings = previous) :
    collectFrom track markers (some previous) (b :: rest) runs =
      collectFrom track markers (some previous) rest runs := by
  have hlater : b.range.isFromStart = false := by
    simpa [WidthRange.isFromStart] using Nat.ne_of_gt hmin
  rw [collectFrom, hlater, h]
  simp

theorem collectFrom_cons_of_ne {track : Track} {markers : List Marker} {previous : TrackValue}
    {b : Entry} {rest : List Entry} {runs : Runs} {key : Key}
    (h : track.valueIn b.settings ≠ previous) (hkey : keyAt markers b.range.minWidth = key)
    (hruns : ∀ r ∈ runs, r.1.rank < key.rank) :
    collectFrom track markers (some previous) (b :: rest) runs =
      collectFrom track markers (some (track.valueIn b.settings)) rest
        (runs ++ [(key, variableFor track key (track.valueIn b.settings))]) := by
  have hother : (previous != track.valueIn b.settings) = true := by
    simpa using fun heq => h heq.symm
  rw [collectFrom, Option.any_some, hother, Bool.or_true, hkey, insert_of_rank_lt hruns]
  rfl

/-- Collecting runs behind an entry adds a run for every later stretch at which the field
turns.  `front` are the markers up to the entry, of which there are `count`. -/
theorem collectFrom_eq (track : Track) {start : Nat} {a : Entry} {rest : List Entry}
    (h : Tiles start (a :: rest)) (count : Nat) (front : List Marker) (runs : Runs)
    (hfront : ∀ m ∈ front, m.minWidth ≤ start) (hruns : ∀ r ∈ runs, r.1.rank ≤ count + 1) :
    collectFrom track (front ++ markersFrom count (a :: rest))
        (some (track.valueIn a.settings)) rest runs =
      runs ++ (changes track (track.valueIn a.settings)
        ((bends (a :: rest)).zipIdx (count + 1))).map (runOf track) := by
  induction rest generalizing start a count front runs with
  | nil => simp [collectFrom, bends, changes]
  | cons b rest ih =>
    cases h with
    | @cons _ _ _ m hmin hmax hrest =>
      have hbounds := a.range.maxWidth_bounds m hmax
      have hb := minWidth_of_tiles hrest
      rw [markersFrom, bends_cons_cons]
      split
      · rw [List.zipIdx_cons]
        let marker : Marker := ⟨.marker (count + 1), b.range.minWidth⟩
        let back := markersFrom (count + 1) (b :: rest)
        have hnext : ∀ m' ∈ front ++ [marker], m'.minWidth ≤ m + 1 := by
          intro m' hm'
          rcases List.mem_append.1 hm' with hm' | hm'
          · have := hfront m' hm'
            omega
          · rw [List.mem_singleton.1 hm']
            exact Nat.le_of_eq hb
        have hjoin : front ++ marker :: back = (front ++ [marker]) ++ back := by simp
        by_cases hvalue : track.valueIn b.settings = track.valueIn a.settings
        · rw [collectFrom_cons_of_eq (by omega) hvalue, changes_cons_of_eq hvalue, ← hvalue]
          exact hjoin ▸ ih hrest (count + 1) _ runs hnext fun r hr => Nat.le_succ_of_le (hruns r hr)
        · have hkey : keyAt (front ++ marker :: back) b.range.minWidth = .marker (count + 1) := by
            apply keyAt_append_cons
            intro m' hm'
            have := hfront m' hm'
            omega
          have hbehind : ∀ r ∈ runs, r.1.rank < (Key.marker (count + 1)).rank :=
            fun r hr => Nat.lt_succ_of_le (hruns r hr)
          rw [collectFrom_cons_of_ne hvalue hkey hbehind, changes_cons_of_ne hvalue, hjoin,
            ih hrest (count + 1) _ _ hnext, List.map_cons, List.append_assoc]
          · rfl
          · intro r hr
            rcases List.mem_append.1 hr with hr | hr
            · exact Nat.le_succ_of_le (hruns r hr)
            · rw [List.mem_singleton.1 hr]
              exact Nat.le_refl _
      · next hdiffers =>
        have hlook := differs_eq_false_iff.1 (Bool.eq_false_iff.2 hdiffers)
        have hvalue : track.valueIn b.settings = track.valueIn a.settings :=
          (congrFun hlook track).symm
        rw [collectFrom_cons_of_eq (by omega) hvalue, ← hvalue]
        refine ih hrest count front runs (fun m' hm' => ?_) hruns
        have := hfront m' hm'
        omega

/-- The runs of a field are those of the stretches at which it turns. -/
theorem runs_eq (s : Grid) (track : Track) :
    (Variables.collect s (markers s)).runs track = (turns track (outline s)).map (runOf track) := by
  unfold Variables.collect outline markers
  cases hentries : s.entries with
  | nil => rfl
  | cons e rest =>
    have htiles : Tiles 0 (e :: rest) := by
      rw [← hentries]
      exact s.tiles (by simp [hentries])
    have hmin := minWidth_of_tiles htiles
    have hfirst : e.range.isFromStart = true := by
      unfold WidthRange.isFromStart
      rw [hmin]
      rfl
    have hkey : keyAt (markersFrom 0 (e :: rest)) e.range.minWidth = .root := by
      have hnone : (markersFrom 0 (e :: rest)).find? (fun m => m.minWidth == e.range.minWidth) =
          none := by
        rw [List.find?_eq_none, markersFrom_eq]
        intro m hm
        obtain ⟨b, hb, rfl⟩ := List.mem_map.1 hm
        have hlt := lt_start_of_mem_bends htiles b.1 (List.fst_mem_of_mem_zipIdx hb)
        simpa [markerOf, hmin] using Nat.ne_of_gt hlt
      unfold keyAt
      rw [hnone]
    have hcollect := collectFrom_eq track htiles 0 []
      [(.root, variableFor track .root (track.valueIn e.settings))] (by simp) (by simp [Key.rank])
    rw [stretches, List.zipIdx_cons, turns, List.map_cons]
    simp only [collectFrom, hfirst, hkey, Bool.true_or, if_true]
    exact hcollect

/-! ## The value at a width -/

/-- Whether a stretch has started at a width. -/
def reached (width : Nat) (b : Stretch × Nat) : Bool := decide (b.1.start ≤ width)

theorem changes_sublist (track : Track) (v : TrackValue) (bs : List (Stretch × Nat)) :
    (changes track v bs).Sublist bs := by
  induction bs generalizing v with
  | nil => exact .slnil
  | cons b rest ih =>
    rw [changes]
    split
    · exact .cons _ (ih v)
    · exact .cons_cons _ (ih _)

theorem turns_sublist (track : Track) (bs : List (Stretch × Nat)) : (turns track bs).Sublist bs := by
  cases bs with
  | nil => exact .slnil
  | cons b rest => exact .cons_cons _ (changes_sublist track _ rest)

theorem filter_reached_eq_nil {width : Nat} {b : Stretch × Nat} {rest : List (Stretch × Nat)}
    (hb : reached width b = false) (h : ∀ c ∈ rest, b.1.start < c.1.start) :
    rest.filter (reached width) = [] := by
  rw [List.filter_eq_nil_iff]
  intro c hc
  have hlt := h c hc
  simp only [reached, decide_eq_false_iff_not, decide_eq_true_eq] at hb ⊢
  omega

/-- Passing over the stretches at which a field keeps its value does not change the last
value that is reached. -/
theorem last_change (track : Track) (v : TrackValue) {bs : List (Stretch × Nat)}
    (h : bs.Pairwise fun b c => b.1.start < c.1.start) (width : Nat) :
    (((changes track v bs).filter (reached width)).getLast?.map fun b => b.1.look track).getD v =
      ((bs.filter (reached width)).getLast?.map fun b => b.1.look track).getD v := by
  induction bs generalizing v with
  | nil => rfl
  | cons b rest ih =>
    obtain ⟨hb, hrest⟩ := List.pairwise_cons.1 h
    by_cases hreached : reached width b = true
    · rw [List.filter_cons_of_pos hreached, getLast?_cons_getD]
      by_cases hvalue : b.1.look track = v
      · rw [changes_cons_of_eq hvalue, hvalue, ih v hrest]
      · rw [changes_cons_of_ne hvalue, List.filter_cons_of_pos hreached, getLast?_cons_getD,
          ih _ hrest]
    · have hnone := filter_reached_eq_nil (Bool.eq_false_iff.2 hreached) hb
      have hsub := (changes_sublist track v (b :: rest)).filter (reached width)
      rw [List.filter_cons_of_neg hreached, hnone] at hsub ⊢
      rw [List.sublist_nil.1 hsub]

theorem pairwise_start_outline (s : Grid) :
    (outline s).Pairwise fun b c => b.1.start < c.1.start := by
  have hstarts : (stretches s.entries).Pairwise fun b c => b.start < c.start := by
    cases hentries : s.entries with
    | nil => exact .nil
    | cons e rest =>
      have htiles := s.tiles (by simp [hentries])
      rw [hentries] at htiles
      refine List.pairwise_cons.2 ⟨?_, pairwise_start_bends htiles⟩
      intro b hb
      show e.range.minWidth < b.start
      rw [minWidth_of_tiles htiles]
      exact lt_start_of_mem_bends htiles b hb
  rw [← List.zipIdx_map_fst 0 (stretches s.entries), List.pairwise_map] at hstarts
  exact hstarts

theorem pairwise_number_outline (s : Grid) : (outline s).Pairwise fun b c => b.2 < c.2 := by
  have hnumbers : ((outline s).map Prod.snd).Pairwise fun m n => m < n := by
    rw [outline, List.zipIdx_map_snd]
    exact List.pairwise_lt_range'
  rw [List.pairwise_map] at hnumbers
  exact hnumbers

/-- The last turn of a field at or below a width is to the value of the entry that is
looked up for the width. -/
theorem last_turn {s : Grid} {width : Nat} {e : Entry} (h : s.matchFor width = some e)
    (track : Track) :
    ∃ b, ((turns track (outline s)).filter (reached width)).getLast? = some b ∧
      b.1.look track = track.valueIn e.settings := by
  have hasc := pairwise_start_outline s
  unfold Grid.matchFor at h
  unfold outline at hasc ⊢
  cases hentries : s.entries with
  | nil => simp [hentries] at h
  | cons a rest =>
    have htiles := s.tiles (by simp [hentries])
    rw [hentries] at h htiles hasc
    have hmin := minWidth_of_tiles htiles
    obtain ⟨d, hfind, hlast⟩ := last_bend htiles (Nat.zero_le width)
    cases hfind.symm.trans h
    rw [stretches, List.zipIdx_cons] at hasc ⊢
    have hfirst : reached width (⟨a.range.minWidth, look a.settings⟩, 0) = true := by
      simp [reached, hmin]
    rw [turns, List.filter_cons_of_pos hfirst]
    obtain ⟨b, hb, hvalue⟩ := exists_getLast?_cons (fun b : Stretch × Nat => b.1.look track)
      (⟨a.range.minWidth, look a.settings⟩, 0)
      ((changes track (look a.settings track) ((bends (a :: rest)).zipIdx 1)).filter
        (reached width))
    refine ⟨b, hb, ?_⟩
    unfold lookAt at hlast
    rw [← List.zipIdx_map_fst 1 (bends (a :: rest)), List.filter_map, List.getLast?_map] at hlast
    rw [hvalue, last_change track _ (List.pairwise_cons.1 hasc).2, ← look, ← hlast]
    have hfilter : (reached width) = (fun b : Stretch => decide (b.start ≤ width)) ∘ Prod.fst := rfl
    rw [hfilter]
    cases (((bends (a :: rest)).zipIdx 1).filter _).getLast? <;> rfl

end ResponsiveGrid.Stylesheet
