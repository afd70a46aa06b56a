import ResponsiveGrid.Proofs.Json.Stored
set_option autoImplicit false

/-!
# Json: alternatives

A value of one of several shapes is read whole before any of the shapes is imposed on it
(`Whole`).  Then the shapes are tried in order: one that is `Refused` is passed over, and the
first one that fits decides what is read.

A text has one outline (`Written.unique`).  What is known of a value under one shape can
therefore be joined to what is known of it under another one.

A record steps over fields that it does not know.  A value that shares no field with it is
read to its end without a fault, and it is refused for the first field that is missing.
-/

namespace ResponsiveGrid.Json

/-! ## Values that are read whole -/

/-- A value is read to its end, contents included, within `depth` levels of nesting. -/
def Whole (depth : Nat) (v : Json) : Prop := Stored v (Outline.readable depth) ()

theorem whole_integer {n : Int} (hlow : -9223372036854775808 ≤ n)
    (hhigh : n ≤ 9223372036854775807) (depth : Nat) : Whole depth (.integer n) :=
  ⟨_, written_integer hlow hhigh, rfl⟩

theorem whole_natural {n : Nat} (hn : n ≤ largest32) (depth : Nat) :
    Whole depth (natural n) :=
  ⟨_, written_natural (Nat.le_trans hn (by decide)), rfl⟩

theorem whole_boolean (b : Bool) (depth : Nat) : Whole depth (.boolean b) :=
  ⟨_, written_boolean b, rfl⟩

theorem whole_string (s : String) (depth : Nat) : Whole depth (.string s) :=
  ⟨_, written_string s, rfl⟩

theorem whole_fields {depth : Nat} {fields : List (String × Json)}
    (h : ∀ f ∈ fields, Whole depth f.2) :
    ∃ gs, List.Forall₂ WrittenField fields gs ∧ (Fields.of gs).readable depth = .ok () := by
  induction fields with
  | nil => exact ⟨[], .nil, rfl⟩
  | cons f fields ih =>
    obtain ⟨o, hwritten, hread⟩ := h f List.mem_cons_self
    obtain ⟨gs, hall, hreads⟩ := ih fun g hg => h g (List.mem_cons_of_mem f hg)
    refine ⟨(f.1, o) :: gs, .cons ⟨rfl, hwritten⟩ hall, ?_⟩
    rw [Fields.of, Fields.readable, hread]
    exact hreads

theorem whole_object {depth : Nat} {f : String × Json} {fields : List (String × Json)}
    (h : ∀ g ∈ f :: fields, Whole depth g.2) : Whole (depth + 1) (.object (f :: fields)) := by
  obtain ⟨gs, hall, hreads⟩ := whole_fields h
  cases hall with
  | cons hf htail =>
    refine ⟨_, written_object (.cons hf htail), ?_⟩
    rw [Outline.readable, if_neg (Nat.succ_ne_zero depth)]
    exact hreads

/-! ## Stepping over what can be read whole -/

mutual

/-- A value that is read whole can be stepped over. -/
theorem Outline.skip_of_readable {depth : Nat} :
    ∀ o : Outline, o.readable depth = .ok () → o.skip = .ok ()
  | .null, _ => rfl
  | .boolean _, _ => rfl
  | .number _, _ => rfl
  | .string _, _ => rfl
  | .array items, h => by
    rw [Outline.readable] at h
    rw [Outline.skip]
    split at h
    · cases h
    · exact Items.skip_of_readable items h
  | .object fields, h => by
    rw [Outline.readable] at h
    rw [Outline.skip]
    split at h
    · cases h
    · exact Fields.skip_of_readable fields h
  | .ended, h => by cases h
  | .misspelt _, h => by cases h
  | .broken _, h => by cases h

theorem Items.skip_of_readable {depth : Nat} :
    ∀ items : Items, items.readable depth = .ok () → items.skip = .ok ()
  | .close none, _ => rfl
  | .close (some _), h => by cases h
  | .item value rest, h => by
    rw [Items.readable] at h
    split at h
    · next hvalue =>
      rw [Items.skip, Outline.skip_of_readable value hvalue]
      exact Items.skip_of_readable rest h
    · cases h

theorem Fields.skip_of_readable {depth : Nat} :
    ∀ fields : Fields, fields.readable depth = .ok () → fields.skip = .ok ()
  | .close none, _ => rfl
  | .close (some _), h => by cases h
  | .unkeyed _, h => by cases h
  | .field (.error _) _ _, h => by cases h
  | .field (.ok key) value rest, h => by
    rw [Fields.readable] at h
    split at h
    · next hvalue =>
      rw [Fields.skip, Outline.skip_of_readable value hvalue]
      exact Fields.skip_of_readable rest h
    · cases h

end

/-! ## Shapes that do not fit -/

section

variable {α β σ : Type}

/-- Neither text of a value has a shape, because of a fault. -/
def Refused (v : Json) (read : Shape α) (fault : Fault) : Prop :=
  ∃ o, Written v o ∧ read o = .error fault

theorem Refused.parse_compact {v : Json} {read : Shape α} {fault : Fault}
    (h : Refused v read fault) : parse read (String.ofList v.compact) = .error fault := by
  obtain ⟨o, hv, hread⟩ := h
  rw [hv.parse_compact, hread]

theorem Refused.parse_pretty {v : Json} {read : Shape α} {fault : Fault}
    (h : Refused v read fault) : parse read (String.ofList v.pretty) = .error fault := by
  obtain ⟨o, hv, hread⟩ := h
  rw [hv.parse_pretty, hread]

theorem Refused.map {v : Json} {read : Shape α} {fault : Fault} (h : Refused v read fault)
    (f : α → β) : Refused v (fun o => (read o).map f) fault := by
  obtain ⟨o, hv, hread⟩ := h
  refine ⟨o, hv, ?_⟩
  simp only [hread]
  rfl

/-- Fields that a record does not know leave what has been collected as it is. -/
theorem readRecord_unknown {depth : Nat} {slots : List (Slot σ)} {fields : List (String × Json)}
    {gs : List (String × Outline)} (hall : List.Forall₂ WrittenField fields gs)
    (hreads : (Fields.of gs).readable depth = .ok ())
    (hunknown : ∀ f ∈ fields, slots.find? (fun slot => slot.name == f.1) = none) (state : σ) :
    (Fields.of gs).readRecord slots state = .ok state := by
  induction hall with
  | nil => rfl
  | @cons f g fields gs hf _ ih =>
    obtain ⟨name, o⟩ := g
    obtain ⟨rfl, -⟩ := hf
    have hfind := hunknown f List.mem_cons_self
    rw [Fields.of, Fields.readable] at hreads
    split at hreads
    · next hvalue =>
      rw [Fields.of, Fields.readRecord]
      simp only [String.ofList_toList, hfind, Outline.skip_of_readable o hvalue]
      exact ih hreads fun f' hf' => hunknown f' (List.mem_cons_of_mem f hf')
    · cases hreads

/-- A record that knows none of the fields is refused for what it cannot do without. -/
theorem refused_record {depth : Nat} {name : String} {slots : List (Slot σ)} {empty : σ}
    {finish : σ → Except Fault α} {fault : Fault} {f : String × Json}
    {fields : List (String × Json)} (hwhole : ∀ g ∈ f :: fields, Whole depth g.2)
    (hunknown : ∀ g ∈ f :: fields, slots.find? (fun slot => slot.name == g.1) = none)
    (hfinish : finish empty = .error fault) :
    Refused (.object (f :: fields)) (Shape.record name slots empty finish) fault := by
  obtain ⟨gs, hall, hreads⟩ := whole_fields hwhole
  have hread := readRecord_unknown hall hreads hunknown empty
  cases hall with
  | cons hf htail =>
    refine ⟨_, written_object (.cons hf htail), ?_⟩
    unfold Shape.record
    simp only [hread, hfinish]

theorem refused_field {name key : String} {v : Json} {slots : List (Slot σ)} {slot : Slot σ}
    {empty : σ} {finish : σ → Except Fault α} {fault : Fault}
    (hfind : slots.find? (fun slot => slot.name == key) = some slot)
    (hempty : slot.filled empty = false) (h : Refused v (slot.store empty) fault) :
    Refused (.object [(key, v)]) (Shape.record name slots empty finish) fault := by
  obtain ⟨o, hwritten, hread⟩ := h
  have hfields : (Fields.of [(key, o)]).readRecord slots empty = .error fault := by
    rw [Fields.of, Fields.readRecord]
    simp only [String.ofList_toList, hfind, hempty, hread]
    rfl
  have hfield : WrittenField (key, v) (key, o) := ⟨rfl, hwritten⟩
  refine ⟨_, written_object (.cons hfield .nil), ?_⟩
  unfold Shape.record
  simp only [hfields]

/-! ## The first shape that fits -/

/-- The first alternative decides when it fits. -/
theorem Stored.firstFitting {v : Json} {read : Shape α} {x : α} (h : Stored v read x)
    (hwhole : Whole depthLimit v) (name : String) (others : List (Shape α)) :
    Stored v (Shape.firstFitting name (read :: others)) x := by
  obtain ⟨o, hwritten, hread⟩ := h
  obtain ⟨o', hwritten', hreadable⟩ := hwhole
  obtain rfl := hwritten.unique hwritten'
  refine ⟨o, hwritten, ?_⟩
  unfold Shape.firstFitting
  rw [hreadable]
  simp only [List.findSome?_cons, hread, Except.toOption]

/-- An alternative that does not fit is passed over. -/
theorem Refused.firstFitting {v : Json} {read : Shape α} {fault : Fault} {name : String}
    {others : List (Shape α)} {x : α} (h : Refused v read fault)
    (hothers : Stored v (Shape.firstFitting name others) x) :
    Stored v (Shape.firstFitting name (read :: others)) x := by
  obtain ⟨o, hwritten, hread⟩ := h
  obtain ⟨o', hwritten', hfits⟩ := hothers
  obtain rfl := hwritten.unique hwritten'
  refine ⟨o, hwritten, ?_⟩
  unfold Shape.firstFitting at hfits ⊢
  simp only [List.findSome?_cons, hread, Except.toOption]
  exact hfits

end

end ResponsiveGrid.Json
