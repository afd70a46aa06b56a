import Mathlib.Data.List.Sort
import ResponsiveGrid.Proofs.Stylesheet.Runs
set_option autoImplicit false

/-!
# Stylesheet: keys in order

The keys of the variables are linearly ordered, the root first.  The runs of every field
are ascending (`ascending_collect`), and a rule that uses some fields goes through the
ascending union of their keys.  Going through the union and looking up one of the fields
under each key gives back the runs of this field, one for one: `filterMap_get?_keys`.
-/

namespace ResponsiveGrid.Stylesheet

namespace Key

/-- A key comes before another one. -/
def Before (a b : Key) : Prop := a.rank < b.rank

instance : Std.Irrefl Before := ⟨fun a => Nat.lt_irrefl a.rank⟩

instance : Std.Antisymm Before := ⟨fun _ _ h h' => absurd h' (Nat.lt_asymm h)⟩

theorem rank_inj {a b : Key} (h : a.rank = b.rank) : a = b := by
  cases a with
  | root =>
    cases b with
    | root => rfl
    | marker n => cases h
  | marker m =>
    cases b with
    | root => cases h
    | marker n => rw [Nat.succ.inj h]

theorem before_of_not {a b : Key} (hlt : ¬ a.Before b) (hne : a ≠ b) : b.Before a := by
  have hrank : a.rank ≠ b.rank := fun h => hne (rank_inj h)
  unfold Before at *
  omega

theorem not_before_root (a : Key) : ¬ a.Before .root := Nat.not_lt_zero _

theorem numbered_before {m n : Nat} (h : m < n) : (numbered m).Before (numbered n) := by
  cases n with
  | zero => exact absurd h (Nat.not_lt_zero m)
  | succ n =>
    cases m with
    | zero => exact Nat.succ_pos _
    | succ m => exact Nat.succ_lt_succ h

end Key

/-! ## Ascending runs -/

/-- The runs of every field stand in the order of their keys. -/
def Variables.Ascending (v : Variables) : Prop :=
  ∀ track, (v.runs track).Pairwise fun r t => r.1.Before t.1

theorem ascending_collect (s : Grid) : (Variables.collect s (markers s)).Ascending := by
  intro track
  rw [runs_eq, List.pairwise_map]
  refine List.Pairwise.imp ?_ ((pairwise_number_outline s).sublist (turns_sublist track _))
  intro r t h
  exact Key.numbered_before h

namespace Variables

theorem get?_of_mem {v : Variables} (h : v.Ascending) {track : Track} {run : Key × Variable}
    (hrun : run ∈ v.runs track) : v.get? track run.1 = some run.2 := by
  obtain ⟨front, back, hsplit⟩ := List.append_of_mem hrun
  have hasc := h track
  rw [hsplit, List.pairwise_append] at hasc
  have hfront : front.find? (fun r => r.1 == run.1) = none := by
    rw [List.find?_eq_none]
    intro r hr heq
    have hbefore := hasc.2.2 r hr run List.mem_cons_self
    rw [eq_of_beq heq] at hbefore
    exact Nat.lt_irrefl _ hbefore
  unfold get?
  rw [hsplit, List.find?_append, hfront]
  simp

theorem mem_of_get? {v : Variables} {track : Track} {key : Key} {w : Variable}
    (h : v.get? track key = some w) : (key, w) ∈ v.runs track := by
  unfold get? at h
  obtain ⟨run, hrun, hw⟩ := Option.map_eq_some_iff.1 h
  have hkey := List.find?_some hrun
  have hmem := List.mem_of_find?_eq_some hrun
  rw [← eq_of_beq hkey, ← hw]
  exact hmem

/-! ## The union of keys -/

theorem mem_insertKey {key k : Key} {keys : List Key} :
    k ∈ insertKey key keys ↔ k = key ∨ k ∈ keys := by
  induction keys with
  | nil => simp [insertKey]
  | cons first rest ih =>
    rw [insertKey]
    split
    · exact List.mem_cons
    · split
      · next h => simp [h]
      · rw [List.mem_cons, ih, List.mem_cons]
        exact or_left_comm

theorem pairwise_insertKey {keys : List Key} (key : Key) (h : keys.Pairwise Key.Before) :
    (insertKey key keys).Pairwise Key.Before := by
  induction keys with
  | nil => exact List.pairwise_singleton _ _
  | cons first rest ih =>
    obtain ⟨hfirst, hrest⟩ := List.pairwise_cons.1 h
    rw [insertKey]
    split
    · next hlt =>
      refine List.pairwise_cons.2 ⟨fun k hk => ?_, h⟩
      rcases List.mem_cons.1 hk with rfl | hk
      · exact hlt
      · exact Nat.lt_trans hlt (hfirst k hk)
    · next hlt =>
      split
      · exact h
      · next hne =>
        refine List.pairwise_cons.2 ⟨fun k hk => ?_, ih hrest⟩
        rcases mem_insertKey.1 hk with rfl | hk
        · exact Key.before_of_not hlt hne
        · exact hfirst k hk

theorem pairwise_keys (v : Variables) (tracks : List Track) :
    (v.keys tracks).Pairwise Key.Before := by
  unfold keys
  induction tracks.flatMap fun t => (v.runs t).map Prod.fst with
  | nil => exact .nil
  | cons key rest ih => exact pairwise_insertKey key ih

/-- The union of keys holds the key of every run of the fields. -/
theorem mem_keys {v : Variables} {tracks : List Track} {key : Key} :
    key ∈ v.keys tracks ↔ ∃ track ∈ tracks, ∃ w, (key, w) ∈ v.runs track := by
  have hfold : ∀ ks : List Key, key ∈ ks.foldr insertKey [] ↔ key ∈ ks := by
    intro ks
    induction ks with
    | nil => rfl
    | cons k rest ih => rw [List.foldr_cons, mem_insertKey, ih, List.mem_cons]
  unfold keys
  rw [hfold, List.mem_flatMap]
  simp

/-- Going through some keys of the union and looking up a field gives the runs of this
field under these keys. -/
theorem filterMap_get?_keys {v : Variables} (h : v.Ascending) {tracks : List Track}
    {track : Track} (ht : track ∈ tracks) (p : Key → Bool) :
    ((v.keys tracks).filter p).filterMap (v.get? track) =
      ((v.runs track).filter fun run => p run.1).map Prod.snd := by
  let runs := (v.runs track).filter fun run => p run.1
  have hkeys : ((v.keys tracks).filter p).filter (fun key => (v.get? track key).isSome) =
      runs.map Prod.fst := by
    apply List.Pairwise.eq_of_mem_iff (r := Key.Before)
    · exact ((pairwise_keys v tracks).filter p).filter _
    · exact List.pairwise_map.2 ((h track).filter _)
    · intro key
      rw [List.mem_filter, List.mem_filter, mem_keys, List.mem_map]
      constructor
      · rintro ⟨⟨-, hp⟩, hsome⟩
        obtain ⟨w, hw⟩ := Option.isSome_iff_exists.1 hsome
        exact ⟨(key, w), List.mem_filter.2 ⟨mem_of_get? hw, hp⟩, rfl⟩
      · rintro ⟨⟨key, w⟩, hrun, rfl⟩
        obtain ⟨hmem, hp⟩ := List.mem_filter.1 hrun
        exact ⟨⟨⟨track, ht, w, hmem⟩, hp⟩, by simp [get?_of_mem h hmem]⟩
  have hsome : ∀ keys : List Key, keys.filterMap (v.get? track) =
      (keys.filter fun key => (v.get? track key).isSome).filterMap (v.get? track) := by
    intro keys
    rw [List.filterMap_filter]
    apply List.filterMap_congr
    intro key _
    cases v.get? track key <;> rfl
  have hruns : ∀ run ∈ runs, v.get? track run.1 = some run.2 :=
    fun run hrun => get?_of_mem h (List.mem_of_mem_filter hrun)
  rw [hsome, hkeys, List.filterMap_map]
  calc runs.filterMap (v.get? track ∘ Prod.fst)
      = runs.filterMap fun run => some run.2 := List.filterMap_congr hruns
    _ = runs.map Prod.snd := by rw [← List.filterMap_eq_map]; rfl

/-- The root comes first in the union of keys once a field has a run under it. -/
theorem keys_eq_root_cons {v : Variables} {tracks : List Track} (h : .root ∈ v.keys tracks) :
    v.keys tracks = .root :: (v.keys tracks).tail ∧ ∀ key ∈ (v.keys tracks).tail, key ≠ .root := by
  have hasc := pairwise_keys v tracks
  cases hkeys : v.keys tracks with
  | nil => rw [hkeys] at h; cases h
  | cons first later =>
    rw [hkeys] at h hasc
    obtain ⟨hfirst, -⟩ := List.pairwise_cons.1 hasc
    rcases List.mem_cons.1 h with rfl | hlater
    · refine ⟨rfl, ?_⟩
      intro key hkey heq
      exact Key.not_before_root .root (heq ▸ hfirst key hkey)
    · exact absurd (hfirst .root hlater) (Key.not_before_root first)

end Variables

theorem root_mem_keys {s : Grid} (h : s.entries ≠ []) {tracks : List Track} {track : Track}
    (ht : track ∈ tracks) : .root ∈ (Variables.collect s (markers s)).keys tracks := by
  rw [Variables.mem_keys]
  refine ⟨track, ht, ?_⟩
  rw [runs_eq]
  unfold outline
  cases hentries : s.entries with
  | nil => exact absurd hentries h
  | cons e rest =>
    rw [stretches, List.zipIdx_cons, turns, List.map_cons]
    exact ⟨_, List.mem_cons_self⟩

end ResponsiveGrid.Stylesheet
