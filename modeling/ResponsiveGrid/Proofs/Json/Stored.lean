import ResponsiveGrid.Json.Shape
import ResponsiveGrid.Proofs.Json.Written
set_option autoImplicit false

/-!
# Json: values that are read back with a shape

`Stored v read x` says that both texts of the value `v` have the shape `read`, and that `x`
is what they stand for.  A record is stored when each of its fields is: reading takes the
fields in the order in which they were written (`Collects`), and every one of them fills a
slot that was empty.
-/

namespace ResponsiveGrid.Json

/-- Both texts of a value stand for `x`. -/
def Stored {α : Type} (v : Json) (read : Shape α) (x : α) : Prop :=
  ∃ o, Written v o ∧ read o = .ok x

section

variable {α β σ : Type}

/-- What is read from the text on one line, whatever blanks stand behind it. -/
theorem Stored.parse_compact_append {v : Json} {read : Shape α} {x : α} {b : List Char}
    (h : Stored v read x) (hb : Blank b) :
    parse read (String.ofList (v.compact ++ b)) = .ok x := by
  obtain ⟨o, hv, hread⟩ := h
  rw [parse_append read hv.1 hb, hread]

theorem Stored.parse_pretty_append {v : Json} {read : Shape α} {x : α} {b : List Char}
    (h : Stored v read x) (hb : Blank b) :
    parse read (String.ofList (v.pretty ++ b)) = .ok x := by
  obtain ⟨o, hv, hread⟩ := h
  rw [pretty, parse_append read (hv.2 0) hb, hread]

theorem Stored.parse_compact {v : Json} {read : Shape α} {x : α} (h : Stored v read x) :
    parse read (String.ofList v.compact) = .ok x := by
  obtain ⟨o, hv, hread⟩ := h
  rw [hv.parse_compact, hread]

theorem Stored.parse_pretty {v : Json} {read : Shape α} {x : α} (h : Stored v read x) :
    parse read (String.ofList v.pretty) = .ok x := by
  obtain ⟨o, hv, hread⟩ := h
  rw [hv.parse_pretty, hread]

theorem Stored.map {v : Json} {read : Shape α} {x : α} (h : Stored v read x) (f : α → β) :
    Stored v (fun o => (read o).map f) (f x) := by
  obtain ⟨o, hv, hread⟩ := h
  refine ⟨o, hv, ?_⟩
  simp only [hread]
  rfl

/-! ## Scalars and lists -/

theorem natural32_eq {n : Nat} (hn : n ≤ largest32) :
    Shape.natural32 (.number (.ok (.integer n))) = .ok n := by
  have hbounds : (0 : Int) ≤ n ∧ (n : Int) ≤ largest32 := by omega
  unfold Shape.natural32 Shape.integer
  simp only
  rw [if_pos hbounds]
  rfl

theorem stored_natural {n : Nat} (hn : n ≤ largest32) :
    Stored (natural n) Shape.natural32 n :=
  ⟨_, written_natural (Nat.le_trans hn (by decide)), natural32_eq hn⟩

theorem stored_some {n : Nat} (hn : n ≤ largest32) :
    Stored (natural n) (Shape.optional Shape.natural32) (some n) := by
  refine ⟨_, written_natural (Nat.le_trans hn (by decide)), ?_⟩
  unfold Shape.optional
  simp only [natural32_eq hn]

theorem stored_integer {n : Int} (hlow : -9223372036854775808 ≤ n)
    (hhigh : n ≤ 9223372036854775807) : Stored (.integer n) Shape.integer64 n := by
  refine ⟨_, written_integer hlow hhigh, ?_⟩
  unfold Shape.integer64 Shape.integer
  simp only
  rw [if_pos ⟨hlow, hhigh⟩]

theorem stored_boolean (b : Bool) : Stored (.boolean b) Shape.truth b :=
  ⟨_, written_boolean b, rfl⟩

/-- A name stands for the value beside it in the table. -/
theorem stored_variant {names : List (String × α)} {name : String} {x : α}
    (h : names.find? (fun entry => entry.1 == name) = some (name, x)) :
    Stored (.string name) (Shape.variant names) x := by
  refine ⟨_, written_string name, ?_⟩
  unfold Shape.variant named
  simp only [String.ofList_toList, h]

/-- A list is stored when its items are. -/
theorem stored_list {vs : List Json} {read : Shape α} {xs : List α}
    (h : List.Forall₂ (fun v x => Stored v read x) vs xs) :
    Stored (.array vs) (Shape.list read) xs := by
  have hitems : ∃ os, List.Forall₂ Written vs os ∧ (Items.of os).readAll read = .ok xs := by
    induction h with
    | nil => exact ⟨[], .nil, rfl⟩
    | cons hv _ ih =>
      obtain ⟨o, hwritten, hread⟩ := hv
      obtain ⟨os, hall, hreadAll⟩ := ih
      refine ⟨o :: os, .cons hwritten hall, ?_⟩
      rw [Items.of, Items.readAll, hread, hreadAll]
  obtain ⟨os, hall, hreadAll⟩ := hitems
  exact ⟨_, written_array hall, hreadAll⟩

/-! ## Records -/

/-- Reading fields one after the other takes what has been collected from one state to
another. -/
inductive Collects (slots : List (Slot σ)) : List (String × Json) → σ → σ → Prop where
  | nil (state : σ) : Collects slots [] state state
  | field {name : String} {v : Json} {slot : Slot σ} {fields : List (String × Json)}
      {s t u : σ} :
      slots.find? (fun slot => slot.name == name) = some slot → slot.filled s = false →
      Stored v (slot.store s) t → Collects slots fields t u →
      Collects slots ((name, v) :: fields) s u

/-- The fields are read as they are collected. -/
theorem Collects.readRecord {slots : List (Slot σ)} {fields : List (String × Json)} {s t : σ}
    (h : Collects slots fields s t) :
    ∃ gs, List.Forall₂ WrittenField fields gs ∧ (Fields.of gs).readRecord slots s = .ok t := by
  induction h with
  | nil state => exact ⟨[], .nil, rfl⟩
  | @field name v slot fields s t u hfind hempty hstored _ ih =>
    obtain ⟨o, hwritten, hstore⟩ := hstored
    obtain ⟨gs, hall, hread⟩ := ih
    refine ⟨(name, o) :: gs, .cons ⟨rfl, hwritten⟩ hall, ?_⟩
    rw [Fields.of, Fields.readRecord]
    simp only [String.ofList_toList, hfind, hempty, hstore, hread]
    rfl

/-- A record is stored when its fields can be collected and nothing is missing. -/
theorem stored_record {name : String} {slots : List (Slot σ)} {empty state : σ}
    {finish : σ → Except Fault α} {x : α} {f : String × Json} {fields : List (String × Json)}
    (h : Collects slots (f :: fields) empty state) (hfinish : finish state = .ok x) :
    Stored (.object (f :: fields)) (Shape.record name slots empty finish) x := by
  obtain ⟨gs, hall, hread⟩ := h.readRecord
  cases hall with
  | cons hf htail =>
    refine ⟨_, written_object (.cons hf htail), ?_⟩
    unfold Shape.record
    simp only [hread, hfinish]

end

end ResponsiveGrid.Json
