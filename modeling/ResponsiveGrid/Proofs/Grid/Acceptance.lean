import ResponsiveGrid.Proofs.Grid.Partition
set_option autoImplicit false

/-!
# Grid: which lists of entries are systems

`Grid.ofEntries?` looks at the two ends of a list, at neighbours and at repeated identities.
Its main statement here compares this with what is meant: the entries start at ascending
widths, every width lies in the range of exactly one of them (`CoversOnce`), and no identity
occurs twice.  A list that is refused is refused for the first thing wrong with it, in the
order of `FirstFault`.
-/

namespace ResponsiveGrid

/-! ## What a partition is -/

/-- The entries start at ascending widths. -/
def Ascending (entries : List Entry) : Prop :=
  (entries.map fun e => e.range.minWidth).Pairwise (· < ·)

/-- Every width from one on lies in the range of exactly one entry. -/
def CoversFrom (start : Nat) (entries : List Entry) : Prop :=
  ∀ width, start ≤ width → width ≤ largest32 →
    (entries.countP fun e => e.range.matches? width) = 1

/-- Every width lies in the range of exactly one entry. -/
def CoversOnce (entries : List Entry) : Prop :=
  ∀ width ≤ largest32, (entries.countP fun e => e.range.matches? width) = 1

theorem coversFrom_zero_iff (entries : List Entry) :
    CoversFrom 0 entries ↔ CoversOnce entries := by
  simp [CoversFrom, CoversOnce]

theorem ascending_cons {e : Entry} {rest : List Entry} :
    Ascending (e :: rest) ↔
      (∀ f ∈ rest, e.range.minWidth < f.range.minWidth) ∧ Ascending rest := by
  simp [Ascending]

namespace Tiles

theorem ascending {start : Nat} {entries : List Entry} (h : Tiles start entries) :
    Ascending entries := by
  induction h with
  | last => simp [Ascending]
  | @cons _ e rest m hmin hmax hrest ih =>
    refine ascending_cons.2 ⟨fun f hf => ?_, ih⟩
    have hbounds := e.range.maxWidth_bounds m hmax
    have hstart := hrest.start_le f hf
    omega

theorem coversFrom {start : Nat} {entries : List Entry} (h : Tiles start entries) :
    CoversFrom start entries := by
  intro width hstart _
  obtain ⟨before, e, after, rfl, hmem, hbefore, hafter⟩ := h.split hstart
  have hb : (before.countP fun e => e.range.matches? width) = 0 := by
    rw [List.countP_eq_zero]
    intro b hb
    obtain ⟨-, m, hm, hlt⟩ := hbefore b hb
    simpa using WidthRange.not_mem_of_lt hm hlt
  have ha : (after.countP fun e => e.range.matches? width) = 0 := by
    rw [List.countP_eq_zero]
    intro a ha
    simpa using WidthRange.not_mem_of_lt_minWidth (hafter a ha)
  rw [List.countP_append, hb, List.countP_cons_of_pos (by simpa using hmem), ha]

end Tiles

/-- Where a width lies in exactly one range, no entry behind one that holds it does. -/
theorem not_mem_tail {e f : Entry} {rest : List Entry} {width : Nat}
    (h : ((e :: rest).countP fun e => e.range.matches? width) = 1) (he : e.range.Mem width)
    (hf : f ∈ rest) : ¬ f.range.Mem width := by
  rw [List.countP_cons_of_pos (by simpa using he), Nat.add_eq_right, List.countP_eq_zero] at h
  simpa using h f hf

section

variable {start : Nat} {e : Entry} {rest : List Entry}

/-- The first of ascending ranges that hold every width from one on starts there: another one
that held that width would start later. -/
theorem minWidth_of_coversFrom (hstart : start ≤ largest32)
    (hfirst : ∀ f ∈ rest, e.range.minWidth < f.range.minWidth)
    (hcovers : CoversFrom start (e :: rest)) (hbehind : start ≤ e.range.minWidth) :
    e.range.minWidth = start := by
  have hcount := hcovers start (Nat.le_refl start) hstart
  obtain ⟨f, hf, hmem⟩ := List.countP_pos_iff.1 (Nat.lt_of_lt_of_eq Nat.one_pos hcount.symm)
  have hle := ((WidthRange.matches?_iff _ _).1 hmem).1
  have hbelow : e.range.minWidth ≤ f.range.minWidth := by
    rcases List.mem_cons.1 hf with rfl | hf
    · exact Nat.le_refl _
    · exact Nat.le_of_lt (hfirst f hf)
  exact Nat.le_antisymm (Nat.le_trans hbelow hle) hbehind

/-- Where every width from one on lies in exactly one range, no range holds the start of a
later one. -/
theorem not_mem_minWidth_of_coversFrom (hcovers : CoversFrom start (e :: rest))
    (hbehind : ∀ f ∈ rest, start ≤ f.range.minWidth) :
    ∀ f ∈ rest, ¬ e.range.Mem f.range.minWidth := by
  intro f hf he
  have hlimit : f.range.minWidth ≤ largest32 := Nat.le_trans f.range.minWidth_le (by decide)
  have hself : f.range.Mem f.range.minWidth :=
    ⟨Nat.le_refl _, fun m hm => Nat.le_of_lt (f.range.maxWidth_bounds m hm).1⟩
  exact not_mem_tail (hcovers f.range.minWidth (hbehind f hf) hlimit) he hf hself

end

/-- Ascending ranges that hold every width from one on exactly once follow each other
without a gap: the first one holds the start, and each later one begins where the one
before it ends, since it would else share a width with it or leave one out. -/
theorem tiles_of_coversFrom {start : Nat} {entries : List Entry} (hstart : start ≤ largest32)
    (hascending : Ascending entries) (hcovers : CoversFrom start entries)
    (hbehind : ∀ e ∈ entries, start ≤ e.range.minWidth) : Tiles start entries := by
  induction entries generalizing start with
  | nil => exact absurd (hcovers start (Nat.le_refl start) hstart) (by simp)
  | cons e rest ih =>
    obtain ⟨hfirst, hrest⟩ := ascending_cons.1 hascending
    obtain ⟨hself, hbehind⟩ := List.forall_mem_cons.1 hbehind
    have hmin := minWidth_of_coversFrom hstart hfirst hcovers hself
    have hdisjoint := not_mem_minWidth_of_coversFrom hcovers hbehind
    cases hmax : e.range.maxWidth with
    | none =>
      -- an unbounded range holds the start of every later one, so there is no later one
      have hnil : rest = [] := by
        refine List.eq_nil_iff_forall_not_mem.2 fun f hf => hdisjoint f hf ?_
        exact ⟨Nat.le_of_lt (hfirst f hf), by simp [hmax]⟩
      rw [hnil]
      exact .last hmin hmax
    | some m =>
      have hbounds := e.range.maxWidth_bounds m hmax
      refine .cons hmin hmax (ih ?_ hrest ?_ ?_)
      · unfold largest32
        omega
      · -- a width behind the end is held by the rest alone
        intro width hwidth hlimit
        have hcount := hcovers width (by omega) hlimit
        have hout : ¬ e.range.Mem width := WidthRange.not_mem_of_lt hmax hwidth
        rwa [List.countP_cons_of_neg (by simpa using hout)] at hcount
      · intro f hf
        have hlt := hfirst f hf
        by_contra hm
        refine hdisjoint f hf ⟨Nat.le_of_lt hlt, fun k hk => ?_⟩
        rw [hmax] at hk
        cases hk
        omega

/-- The ranges of entries tile all widths exactly when they ascend and every width lies in
one of them. -/
theorem tiles_zero_iff (entries : List Entry) :
    Tiles 0 entries ↔ Ascending entries ∧ CoversOnce entries := by
  rw [← coversFrom_zero_iff]
  constructor
  · intro h
    exact ⟨h.ascending, h.coversFrom⟩
  · rintro ⟨hascending, hcovers⟩
    exact tiles_of_coversFrom (Nat.zero_le _) hascending hcovers fun e _ => Nat.zero_le _

/-! ## The first thing wrong -/

/-- The first entry, if there is one, starts at the narrowest width. -/
def FromStart (entries : List Entry) : Prop := ∀ e ∈ entries.head?, e.range.minWidth = 0

/-- The last entry, if there is one, goes on for ever. -/
def ToEnd (entries : List Entry) : Prop := ∀ e ∈ entries.getLast?, e.range.maxWidth = none

/-- The entry at a position meets the one behind it, if both are there. -/
def MeetsAt (entries : List Entry) (index : Nat) : Prop :=
  ∀ a ∈ entries[index]?, ∀ b ∈ entries[index + 1]?, a.range.Meets b.range

/-- The identity of the entry at a position, if there is one, has not occurred before. -/
def NewAt (entries : List Entry) (index : Nat) : Prop :=
  ∀ e ∈ entries[index]?, e.id ∉ (entries.take index).map Entry.id

/-- The first thing that keeps a list of entries from being a partition: where it starts,
then where it ends, then the first two neighbours that do not meet, then the first entry
whose identity has occurred before. -/
inductive FirstFault (entries : List Entry) : Violation → Prop where
  | notFromStart {e : Entry} (he : e ∈ entries.head?) (h : e.range.minWidth ≠ 0) :
      FirstFault entries (.notFromStart e.range.minWidth)
  | notToEnd {e : Entry} {m : Nat} (hstart : FromStart entries) (he : e ∈ entries.getLast?)
      (h : e.range.maxWidth = some m) : FirstFault entries (.notToEnd m)
  | notContiguous {index : Nat} {a b : Entry} (hstart : FromStart entries)
      (hend : ToEnd entries) (ha : entries[index]? = some a) (hb : entries[index + 1]? = some b)
      (h : ¬ a.range.Meets b.range) (hbefore : ∀ i < index, MeetsAt entries i) :
      FirstFault entries (.notContiguous index a.range.maxWidth b.range.minWidth)
  | duplicateId {index : Nat} {e : Entry} (hstart : FromStart entries) (hend : ToEnd entries)
      (hmeet : ∀ i, MeetsAt entries i) (he : entries[index]? = some e)
      (h : e.id ∈ (entries.take index).map Entry.id) (hbefore : ∀ i < index, NewAt entries i) :
      FirstFault entries (.duplicateId e.id)

theorem isChain_meets_iff (entries : List Entry) :
    (entries.IsChain fun a b => a.range.Meets b.range) ↔ ∀ i, MeetsAt entries i := by
  rw [List.isChain_iff_getElem]
  constructor
  · intro h i a ha b hb
    obtain ⟨_, rfl⟩ := List.getElem?_eq_some_iff.1 ha
    obtain ⟨hi, rfl⟩ := List.getElem?_eq_some_iff.1 hb
    exact h i hi
  · intro h i hi
    exact h i _ (List.getElem?_eq_getElem (Nat.lt_of_succ_lt hi)) _ (List.getElem?_eq_getElem hi)

theorem meetsAt_iff {entries : List Entry} {index : Nat} {a b : Entry}
    (ha : entries[index]? = some a) (hb : entries[index + 1]? = some b) :
    MeetsAt entries index ↔ a.range.Meets b.range := by
  simp [MeetsAt, ha, hb]

theorem newAt_iff {entries : List Entry} {index : Nat} {e : Entry}
    (he : entries[index]? = some e) :
    NewAt entries index ↔ e.id ∉ (entries.take index).map Entry.id := by
  unfold NewAt
  rw [he]
  simp

/-- A property fails at a position, and at none before it. -/
def FirstFailure (P : Nat → Prop) (index : Nat) : Prop := ¬ P index ∧ ∀ i < index, P i

section

variable {P Q : Nat → Prop}

theorem exists_firstFailure_of_not (h : ¬ P 0) :
    (∃ index, FirstFailure P index ∧ Q index) ↔ Q 0 := by
  constructor
  · rintro ⟨index, ⟨-, hbefore⟩, hQ⟩
    rcases Nat.eq_zero_or_pos index with rfl | hpos
    · exact hQ
    · exact absurd (hbefore 0 hpos) h
  · intro hQ
    exact ⟨0, ⟨h, fun i hi => absurd hi (Nat.not_lt_zero i)⟩, hQ⟩

theorem exists_firstFailure_succ (h : P 0) :
    (∃ index, FirstFailure P index ∧ Q index) ↔
      ∃ index, FirstFailure (fun i => P (i + 1)) index ∧ Q (index + 1) := by
  constructor
  · rintro ⟨index, ⟨hfails, hbefore⟩, hQ⟩
    cases index with
    | zero => exact absurd h hfails
    | succ index =>
      exact ⟨index, ⟨hfails, fun i hi => hbefore (i + 1) (Nat.succ_lt_succ hi)⟩, hQ⟩
  · rintro ⟨index, ⟨hfails, hbefore⟩, hQ⟩
    refine ⟨index + 1, ⟨hfails, fun i hi => ?_⟩, hQ⟩
    cases i with
    | zero => exact h
    | succ i => exact hbefore i (Nat.lt_of_succ_lt_succ hi)

end

/-- A gap is found at the first position where neighbours do not meet; positions count on
from where the list starts. -/
theorem gap?_eq_some_iff {start : Nat} {entries : List Entry} {v : Violation} :
    gap? start entries = some v ↔
      ∃ index, FirstFailure (MeetsAt entries) index ∧
        ∃ a b, entries[index]? = some a ∧ entries[index + 1]? = some b ∧
          v = .notContiguous (start + index) a.range.maxWidth b.range.minWidth := by
  induction entries generalizing start with
  | nil => simp [gap?]
  | cons first rest ih =>
    cases rest with
    | nil => simp [gap?]
    | cons second rest =>
      have hmeets : MeetsAt (first :: second :: rest) 0 ↔ first.range.Meets second.range :=
        meetsAt_iff rfl rfl
      rw [gap?]
      split
      · next h =>
        refine ih.trans (Iff.trans ?_ (exists_firstFailure_succ (hmeets.2 h)).symm)
        simp only [Nat.add_assoc, Nat.add_comm 1]
        rfl
      · next h =>
        refine Iff.trans ?_ (exists_firstFailure_of_not (fun hat => h (hmeets.1 hat))).symm
        constructor
        · rintro ⟨⟩
          exact ⟨first, second, rfl, rfl, rfl⟩
        · rintro ⟨a, b, ⟨⟩, ⟨⟩, rfl⟩
          rfl

/-- The identity of the entry at a position, if there is one, is none of those seen before the
list and has not occurred in it. -/
def Unseen (seen : List Id) (entries : List Entry) (index : Nat) : Prop :=
  ∀ e ∈ entries[index]?, e.id ∉ seen ++ (entries.take index).map Entry.id

theorem unseen_succ (seen : List Id) (first : Entry) (rest : List Entry) (index : Nat) :
    Unseen seen (first :: rest) (index + 1) ↔ Unseen (first.id :: seen) rest index := by
  unfold Unseen
  rw [List.getElem?_cons_succ, List.take_succ_cons, List.map_cons]
  simp only [List.cons_append, List.mem_cons, List.mem_append, or_left_comm]

/-- A repeated identity is found at the first position where it is one that was seen before
the list or stands in front of it in the list. -/
theorem repeated?_eq_some_iff {seen : List Id} {entries : List Entry} {v : Violation} :
    repeated? seen entries = some v ↔
      ∃ index, FirstFailure (Unseen seen entries) index ∧
        ∃ e, entries[index]? = some e ∧ v = .duplicateId e.id := by
  induction entries generalizing seen with
  | nil => simp [repeated?]
  | cons first rest ih =>
    have hunseen : Unseen seen (first :: rest) 0 ↔ first.id ∉ seen := by simp [Unseen]
    rw [repeated?]
    split
    · next h =>
      refine Iff.trans ?_ (exists_firstFailure_of_not (fun hat => hunseen.1 hat h)).symm
      constructor
      · rintro ⟨⟩
        exact ⟨first, rfl, rfl⟩
      · rintro ⟨e, ⟨⟩, rfl⟩
        rfl
    · next h =>
      refine ih.trans (Iff.trans ?_ (exists_firstFailure_succ (hunseen.2 h)).symm)
      simp only [unseen_succ]
      rfl

/-- The check finds the first thing wrong with a list of entries. -/
theorem partitionFault?_eq_some_iff {entries : List Entry} {v : Violation} :
    partitionFault? entries = some v ↔ FirstFault entries v := by
  cases entries with
  | nil =>
    constructor
    · intro h
      cases h
    · intro h
      cases h <;> simp_all
  | cons first rest =>
    have hlast : (first :: rest).getLast? =
        some ((first :: rest).getLast (List.cons_ne_nil first rest)) :=
      List.getLast?_eq_some_getLast _
    have hstart : FromStart (first :: rest) ↔ first.range.minWidth = 0 := by simp [FromStart]
    have hend : ToEnd (first :: rest) ↔
        ((first :: rest).getLast (List.cons_ne_nil first rest)).range.maxWidth = none := by
      simp [ToEnd, hlast]
    have hchain := gap?_eq_none_iff 0 (first :: rest)
    rw [isChain_meets_iff] at hchain
    rw [partitionFault?]
    constructor
    · intro h
      split at h
      · next hmin =>
        cases h
        exact .notFromStart rfl hmin
      · next hmin =>
        have hmin := hstart.2 (Decidable.not_not.1 hmin)
        split at h
        · next m hmax =>
          cases h
          exact .notToEnd hmin hlast hmax
        · next hmax =>
          split at h
          · next w hgap =>
            cases h
            obtain ⟨index, ⟨hfails, hbefore⟩, a, b, ha, hb, rfl⟩ := gap?_eq_some_iff.1 hgap
            rw [meetsAt_iff ha hb] at hfails
            rw [Nat.zero_add]
            exact .notContiguous hmin (hend.2 hmax) ha hb hfails hbefore
          · next hgap =>
            obtain ⟨index, ⟨hfails, hbefore⟩, e, he, rfl⟩ := repeated?_eq_some_iff.1 h
            have hold := (newAt_iff he).not_left.1 hfails
            exact .duplicateId hmin (hend.2 hmax) (hchain.1 hgap) he hold hbefore
    · intro h
      cases h with
      | notFromStart he hmin =>
        cases he
        rw [if_pos hmin]
      | notToEnd hmin he hmax =>
        rw [hlast] at he
        cases he
        rw [if_neg (not_not_intro (hstart.1 hmin)), hmax]
      | @notContiguous index a b hmin hmax ha hb hmeets hbefore =>
        have hgap : gap? 0 (first :: rest) =
            some (.notContiguous (0 + index) a.range.maxWidth b.range.minWidth) :=
          gap?_eq_some_iff.2
            ⟨index, ⟨(meetsAt_iff ha hb).not.2 hmeets, hbefore⟩, a, b, ha, hb, rfl⟩
        rw [Nat.zero_add] at hgap
        rw [if_neg (not_not_intro (hstart.1 hmin)), hend.1 hmax, hgap]
      | duplicateId hmin hmax hmeet he hold hbefore =>
        rw [if_neg (not_not_intro (hstart.1 hmin)), hend.1 hmax, hchain.2 hmeet]
        have hfails := (newAt_iff he).not_left.2 hold
        exact repeated?_eq_some_iff.2 ⟨_, ⟨hfails, hbefore⟩, _, he, rfl⟩

namespace Grid

/-- A list of entries is a system exactly when it is empty or its entries ascend, share out
all widths and have different identities; it is then the list of that system.  A list that is
refused is refused for the first thing wrong with it. -/
theorem ofEntries?_accepts_exactly_partitions (entries : List Entry) :
    ((∃ s, ofEntries? entries = .ok s ∧ s.entries = entries) ↔
      entries = [] ∨ Ascending entries ∧ CoversOnce entries ∧ (entries.map Entry.id).Nodup) ∧
    ∀ v, ofEntries? entries = .error v ↔ FirstFault entries v := by
  refine ⟨?_, fun v => ?_⟩
  · rw [← and_assoc, ← tiles_zero_iff, ← partitionFault?_eq_none_iff]
    constructor
    · rintro ⟨s, -, rfl⟩
      exact s.partitioned
    · intro h
      exact ⟨⟨entries, h⟩, ofEntries?_eq_ok_iff.2 rfl, rfl⟩
  · rw [ofEntries?_eq_error_iff, partitionFault?_eq_some_iff]

end Grid

end ResponsiveGrid
