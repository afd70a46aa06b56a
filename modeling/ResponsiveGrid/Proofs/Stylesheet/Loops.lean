import Mathlib.Data.List.SplitBy
import ResponsiveGrid.Proofs.Stylesheet.Cascade
set_option autoImplicit false

/-!
# Stylesheet: one loop per run of columns

The entries of a system fall into maximal runs of neighbours with the same number of columns.
A sheet has one loop over fractions for each of these runs, once for spans and once for
offsets.  `loops_build` gives the loops of a sheet as they stand there: the one of the first
run applies everywhere, and each later one stands in the block of the marker at which its
run starts.  The numbers of these markers have gaps, since markers stand for changes of
other fields as well; label, block and bound of a loop still go by the same marker.

The runs here are those that the list of entries has by itself (`columnRuns`).  They are
joined to the variables of the sheet through the stretches at which the columns turn.
-/

namespace ResponsiveGrid.Stylesheet

/-! ## What is promised -/

/-- The maximal runs of neighbouring entries with one number of columns. -/
def columnRuns (s : Grid) : List (List Entry) :=
  s.entries.splitBy fun a b => a.settings.columns == b.settings.columns

/-- A loop over fractions: from where on it applies, and the variable that bounds it. -/
structure Loop where
  key : Key
  bound : String
  deriving DecidableEq, Repr, Inhabited

/-- A loop as it stands in a sheet: over all denominators up to the bound and all numerators
up to the denominator, a class with a declaration, which is in the block of the marker if
the loop goes by one. -/
def Loop.node (kind property : String) (loop : Loop) : Node :=
  let declaration : Node := .declaration property [.text "percentage(", .variable "numerator",
    .text " / ", .variable "denominator", .text ")"]
  let body : Node := .rule [.text (".col.-" ++ loop.key.label ++ kind ++ "#\x7b"),
      .variable "numerator", .text "\x7dof#\x7b", .variable "denominator", .text "\x7d"] <|
    match loop.key with
    | .root => [declaration]
    | .marker n => [.rule [.text "@media #\x7b", .variable (Key.marker n).name, .text "\x7d"]
        [declaration]]
  .rule [.text "@for ", .variable "denominator", .text " from 1 through ", .variable loop.bound]
    [.rule [.text "@for ", .variable "numerator", .text " from 1 through ",
      .variable "denominator"] [body]]

/-- Whether a statement is a loop. -/
def Node.isLoop : Node → Bool
  | .rule header _ => "@for ".toList.isPrefixOf (Phrase.render header)
  | _ => false

/-- The bound of a loop is the variable of the columns under its key, and the sheet declares
it as the number of columns that every entry of the run has. -/
structure BoundedBy (s : Grid) (loop : Loop) (run : List Entry) : Prop where
  name : loop.bound = loop.key.label ++ "grid-columns"
  value : ∀ e ∈ run, Sheet.lookup? (build s) loop.bound = some (toString e.settings.columns)

/-- The marker that a loop goes by stands where a run starts. -/
def StartsAt (s : Grid) (loop : Loop) (run : List Entry) : Prop :=
  ∃ e, run.head? = some e ∧ ⟨loop.key, e.range.minWidth⟩ ∈ markers s

/-- There is one loop per run, in the same order.  The first one applies everywhere, and
the later ones from the markers on at which their runs start. -/
inductive OnePerRun (s : Grid) : List Loop → List (List Entry) → Prop
  | none : OnePerRun s [] []
  | some {loop : Loop} {loops : List Loop} {run : List Entry} {runs : List (List Entry)} :
      loop.key = .root → BoundedBy s loop run →
      List.Forall₂ (fun loop run => StartsAt s loop run ∧ BoundedBy s loop run) loops runs →
      OnePerRun s (loop :: loops) (run :: runs)

/-! ## Runs of entries -/

theorem splitBy_cons_of_rel {α : Type} {r : α → α → Bool} {a b : α} {rest run : List α}
    {runs : List (List α)} (h : r a b = true) (hsplit : (b :: rest).splitBy r = run :: runs) :
    (a :: b :: rest).splitBy r = (a :: run) :: runs := by
  obtain ⟨hflatten, hnil, hruns, hchain⟩ := List.splitBy_eq_iff.1 hsplit
  rw [List.mem_cons, not_or] at hnil
  obtain ⟨c, run, rfl⟩ := List.exists_cons_of_ne_nil (Ne.symm hnil.1)
  obtain rfl : b = c := List.head_eq_of_cons_eq hflatten
  rw [List.splitBy_eq_iff]
  refine ⟨?_, ?_, ?_, ?_⟩
  · rw [hflatten]
    rfl
  · simpa using hnil.2
  · refine List.forall_mem_cons.2 ⟨?_, fun m hm => hruns m (List.mem_cons_of_mem _ hm)⟩
    exact List.isChain_cons_cons.2 ⟨h, hruns _ List.mem_cons_self⟩
  · rw [List.isChain_cons] at hchain ⊢
    refine ⟨fun next hnext => ?_, hchain.2⟩
    obtain ⟨_, hne, hlast⟩ := hchain.1 next hnext
    exact ⟨List.cons_ne_nil _ _, hne, by rwa [List.getLast_cons (List.cons_ne_nil b run)]⟩

/-- A stretch starts where a run does, and has the value that the field has in all of the
run. -/
def StretchOf (track : Track) (b : Stretch × Nat) (run : List Entry) : Prop :=
  (∃ e, run.head? = some e ∧ e.range.minWidth = b.1.start) ∧
    ∀ e ∈ run, track.valueIn e.settings = b.1.look track

/-- The maximal runs behind the first of equal values of a field start at the stretches at
which the field turns. -/
theorem splitBy_changes (track : Track) (a : Entry) (rest : List Entry) (count : Nat) :
    ∃ run runs, ((a :: rest).splitBy fun a b =>
        decide (track.valueIn a.settings = track.valueIn b.settings)) = run :: runs ∧
      run.head? = some a ∧ (∀ e ∈ run, track.valueIn e.settings = track.valueIn a.settings) ∧
      List.Forall₂ (StretchOf track)
        (changes track (track.valueIn a.settings) ((bends (a :: rest)).zipIdx count)) runs := by
  induction rest generalizing a count with
  | nil =>
    refine ⟨[a], [], rfl, rfl, fun e he => ?_, .nil⟩
    rw [List.mem_singleton.1 he]
  | cons b rest ih =>
    -- an entry that keeps the value goes with the run behind it
    have hkeep : ∀ n, track.valueIn a.settings = track.valueIn b.settings →
        ∃ run runs, ((a :: b :: rest).splitBy fun a b =>
            decide (track.valueIn a.settings = track.valueIn b.settings)) = run :: runs ∧
          run.head? = some a ∧ (∀ e ∈ run, track.valueIn e.settings = track.valueIn a.settings) ∧
          List.Forall₂ (StretchOf track)
            (changes track (track.valueIn a.settings) ((bends (b :: rest)).zipIdx n)) runs := by
      intro n hvalue
      obtain ⟨run, runs, hsplit, -, hrun, hruns⟩ := ih b n
      refine ⟨a :: run, runs, splitBy_cons_of_rel (decide_eq_true hvalue) hsplit, rfl, ?_, ?_⟩
      · rw [hvalue]
        exact List.forall_mem_cons.2 ⟨hvalue, hrun⟩
      · rw [hvalue]
        exact hruns
    rw [bends_cons_cons]
    split
    · rw [List.zipIdx_cons]
      by_cases hvalue : track.valueIn b.settings = track.valueIn a.settings
      · rw [changes_cons_of_eq hvalue]
        exact hkeep (count + 1) hvalue.symm
      · rw [changes_cons_of_ne hvalue]
        obtain ⟨run, runs, hsplit, hhead, hrun, hruns⟩ := ih b (count + 1)
        have happend := List.splitBy_append_cons (l := [a]) (a := b)
          (r := fun a b : Entry => decide (track.valueIn a.settings = track.valueIn b.settings))
          rest fun x hx => by
            cases hx
            exact decide_eq_false (Ne.symm hvalue)
        refine ⟨[a], run :: runs, ?_, rfl, ?_, .cons ⟨⟨b, hhead, rfl⟩, hrun⟩ hruns⟩
        · rw [← hsplit]
          exact happend
        · intro e he
          rw [List.mem_singleton.1 he]
    · next hdiffers =>
      have hlook := differs_eq_false_iff.1 (Bool.eq_false_iff.2 hdiffers)
      exact hkeep count (congrFun hlook track)

/-! ## Loops of a sheet -/

/-- The loops of a system, as its runs of columns say. -/
def loopsOf (s : Grid) : List Loop :=
  ((Variables.collect s (markers s)).runs .columns).map fun run => ⟨run.1, run.2.name⟩

theorem Variables.keys_singleton {v : Variables} (h : v.Ascending) (track : Track) :
    v.keys [track] = (v.runs track).map Prod.fst := by
  apply List.Pairwise.eq_of_mem_iff (r := Key.Before)
  · exact v.pairwise_keys [track]
  · exact List.pairwise_map.2 (h track)
  · intro key
    rw [Variables.mem_keys]
    simp

theorem fractionLoop_eq_node (key : Key) (columns : Variable) (kind property : String) :
    fractionLoop key columns kind property = Loop.node kind property ⟨key, columns.name⟩ := by
  cases key <;> rfl

/-- The loops over fractions are those of the runs of columns. -/
theorem fractionLoops_eq (s : Grid) (kind property : String) :
    fractionLoops (Variables.collect s (markers s)) kind property =
      (loopsOf s).map (Loop.node kind property) := by
  have hasc := ascending_collect s
  have hruns : ∀ run ∈ (Variables.collect s (markers s)).runs .columns,
      ((Variables.collect s (markers s)).get? .columns run.1).map
          (fun columns => fractionLoop run.1 columns kind property) =
        some (Loop.node kind property ⟨run.1, run.2.name⟩) := by
    intro run hrun
    rw [Variables.get?_of_mem hasc hrun, Option.map_some, fractionLoop_eq_node]
  unfold fractionLoops loopsOf
  rw [Variables.keys_singleton hasc, List.filterMap_map, List.map_map, ← List.filterMap_eq_map]
  exact List.filterMap_congr hruns

theorem filter_isLoop_build (s : Grid) : (build s).filter Node.isLoop =
    (loopsOf s).map (Loop.node "s" "width") ++ (loopsOf s).map (Loop.node "o" "margin-left") := by
  have hmarkers : ((markers s).map Marker.node).filter Node.isLoop = [] := by
    rw [List.filter_map, List.map_eq_nil_iff, List.filter_eq_nil_iff]
    exact fun m _ => Bool.false_ne_true
  have hvariables : ((Variables.collect s (markers s)).all.map Variable.node).filter Node.isLoop =
      [] := by
    rw [List.filter_map, List.map_eq_nil_iff, List.filter_eq_nil_iff]
    exact fun v _ => Bool.false_ne_true
  have hloops : ∀ kind property, ((loopsOf s).map (Loop.node kind property)).filter Node.isLoop =
      (loopsOf s).map (Loop.node kind property) := by
    intro kind property
    rw [List.filter_eq_self]
    intro node hnode
    obtain ⟨loop, -, rfl⟩ := List.mem_map.1 hnode
    rfl
  have hguard := filterMap_build (Option.guard Node.isLoop) (fun _ => rfl) (fun _ => rfl) rfl s
  simp only [List.filterMap_eq_filter] at hguard
  rw [hguard, hmarkers, hvariables, fractionLoops_eq, fractionLoops_eq, hloops, hloops]
  rfl

/-! ## Loops and runs -/

/-- The loop that starts with a stretch at which the columns turn. -/
def loopAt (b : Stretch × Nat) : Loop where
  key := Key.numbered b.2
  bound := (Key.numbered b.2).label ++ "grid-columns"

theorem loopsOf_eq (s : Grid) : loopsOf s = (turns .columns (outline s)).map loopAt := by
  unfold loopsOf
  rw [runs_eq, List.map_map]
  rfl

theorem boundedBy_loopAt {s : Grid} {run : List Entry} {b : Stretch × Nat}
    (h : b ∈ turns .columns (outline s))
    (hrun : ∀ e ∈ run, Track.columns.valueIn e.settings = b.1.look .columns) :
    BoundedBy s (loopAt b) run := by
  have hmem : (runOf .columns b).2 ∈ (Variables.collect s (markers s)).all := by
    refine List.mem_flatMap.2 ⟨.columns, by decide, List.mem_map_of_mem ?_⟩
    rw [runs_eq]
    exact List.mem_map_of_mem h
  have hlookup : Sheet.lookup? (build s) (loopAt b).bound =
      some (b.1.look .columns).expression := lookup?_variable hmem
  refine ⟨rfl, fun e he => ?_⟩
  rw [hlookup, ← hrun e he]
  rfl

theorem onePerRun_loopsOf (s : Grid) : OnePerRun s (loopsOf s) (columnRuns s) := by
  have hsame : (fun a b : Entry => a.settings.columns == b.settings.columns) = fun a b =>
      decide (Track.columns.valueIn a.settings = Track.columns.valueIn b.settings) := by
    funext a b
    rw [Bool.eq_iff_iff, beq_iff_eq, decide_eq_true_iff]
    exact TrackValue.count.injEq _ _ ▸ Iff.rfl
  rw [loopsOf_eq]
  unfold columnRuns
  rw [hsame]
  cases hentries : s.entries with
  | nil =>
    have houtline : outline s = [] := by
      unfold outline
      rw [hentries]
      rfl
    rw [houtline]
    exact .none
  | cons e rest =>
    have houtline : outline s =
        (⟨e.range.minWidth, look e.settings⟩, 0) :: (bends (e :: rest)).zipIdx 1 := by
      unfold outline
      rw [hentries, stretches, List.zipIdx_cons]
    obtain ⟨run, runs, hsplit, -, hrun, hruns⟩ := splitBy_changes .columns e rest 1
    have hturns : turns .columns (outline s) = (⟨e.range.minWidth, look e.settings⟩, 0) ::
        changes .columns (look e.settings .columns) ((bends (e :: rest)).zipIdx 1) := by
      rw [houtline, turns]
    rw [hsplit, hturns, List.map_cons]
    refine .some rfl (boundedBy_loopAt (by rw [hturns]; exact List.mem_cons_self) hrun) ?_
    -- a later loop is that of a stretch behind the first, which has a marker
    have hlater : ∀ b ∈ changes .columns (look e.settings .columns) ((bends (e :: rest)).zipIdx 1),
        b ∈ turns .columns (outline s) ∧ b ∈ (outline s).tail := by
      intro b hb
      rw [hturns, houtline]
      exact ⟨List.mem_cons_of_mem _ hb, (changes_sublist .columns _ _).mem hb⟩
    rw [List.forall₂_map_left_iff]
    refine List.Forall₂.imp ?_ ((List.forall₂_and_left _ _).2 ⟨hlater, hruns⟩)
    rintro b run ⟨⟨hturn, htail⟩, ⟨d, hhead, hstart⟩, hvalue⟩
    refine ⟨⟨d, hhead, ?_⟩, boundedBy_loopAt hturn hvalue⟩
    rw [hstart]
    exact markerOf_mem htail

/-- The loops of a sheet: one for each maximal run of equal columns, for spans and again for
offsets, and at every width the last one that applies ends at the columns of the entry that
is looked up for the width. -/
theorem loops_build (s : Grid) : ∃ loops : List Loop,
    (build s).filter Node.isLoop =
      loops.map (Loop.node "s" "width") ++ loops.map (Loop.node "o" "margin-left") ∧
    OnePerRun s loops (columnRuns s) ∧
    ∀ width, ((loops.filter fun loop => loop.key.inForce (build s) width).getLast?.map
        fun loop => Sheet.lookup? (build s) loop.bound) =
      (s.matchFor width).map fun e => some (toString e.settings.columns) := by
  refine ⟨loopsOf s, filter_isLoop_build s, onePerRun_loopsOf s, fun width => ?_⟩
  by_cases hentries : s.entries = []
  · have hmatch : s.matchFor width = none := by
      unfold Grid.matchFor
      rw [hentries]
      rfl
    have hloops : loopsOf s = [] := by
      rw [loopsOf_eq]
      unfold outline
      rw [hentries]
      rfl
    rw [hmatch, hloops]
    rfl
  · obtain ⟨e, -, hmatch, -⟩ := s.matchFor_unique hentries width
    obtain ⟨key, hlast⟩ := last_run hmatch .columns
    have hrun := List.mem_of_mem_filter (List.mem_of_getLast? hlast)
    have hmem : variableFor .columns key (Track.columns.valueIn e.settings) ∈
        (Variables.collect s (markers s)).all :=
      List.mem_flatMap.2 ⟨.columns, by decide, List.mem_map_of_mem hrun⟩
    have hlookup := lookup?_variable hmem
    have hfilter : (loopsOf s).filter (fun loop => loop.key.inForce (build s) width) =
        (((Variables.collect s (markers s)).runs .columns).filter fun run =>
          run.1.inForce (build s) width).map fun run => ⟨run.1, run.2.name⟩ := List.filter_map
    rw [hfilter, List.getLast?_map, hlast, hmatch]
    exact congrArg some hlookup

end ResponsiveGrid.Stylesheet
