import ResponsiveGrid.Proofs.Grid.Reload
import ResponsiveGrid.Proofs.Query.Form
import ResponsiveGrid.Query.Store
set_option autoImplicit false

/-!
# Query: systems that are stored in a query

Storing a system changes one parameter of a query and no other, whatever the query looked like
before.  What is stored is found again, with a question mark in front of the query or without
one, and storing it a second time changes nothing.  `Stored` says all of this of a query; it
rests on what the two ways to change a list of pairs, `put` and `erase`, do to its parts.
-/

namespace ResponsiveGrid.Query

/-! ## Pairs under a key -/

section

variable {key value : String} {front back pairs : List Pair}

theorem erase_of_forall_ne (h : ∀ p ∈ pairs, p.1 ≠ key) : erase key pairs = pairs :=
  List.filter_eq_self.2 fun p hp => decide_eq_true (h p hp)

theorem forall_mem_erase_ne (key : String) (pairs : List Pair) :
    ∀ p ∈ erase key pairs, p.1 ≠ key :=
  fun _ hp => of_decide_eq_true (List.mem_filter.1 hp).2

theorem erase_split (hfront : ∀ p ∈ front, p.1 ≠ key) :
    erase key (front ++ (key, value) :: back) = front ++ erase key back := by
  unfold erase
  rw [List.filter_append, List.filter_cons_of_neg (by simp)]
  exact congrArg (· ++ _) (erase_of_forall_ne hfront)

theorem lookup?_split (hfront : ∀ p ∈ front, p.1 ≠ key) :
    lookup? key (front ++ (key, value) :: back) = some value := by
  have hnone : front.find? (fun p => p.1 == key) = none :=
    List.find?_eq_none.2 fun p hp => by simpa using hfront p hp
  unfold lookup?
  rw [List.find?_append, hnone, Option.none_or, List.find?_cons_of_pos (by simp)]
  rfl

theorem lookup?_eq_none (h : ∀ p ∈ pairs, p.1 ≠ key) : lookup? key pairs = none := by
  have hnone : pairs.find? (fun p => p.1 == key) = none :=
    List.find?_eq_none.2 fun p hp => by simpa using h p hp
  unfold lookup?
  rw [hnone]
  rfl

theorem put_split (hfront : ∀ p ∈ front, p.1 ≠ key) (old : String) :
    put key value (front ++ (key, old) :: back) = front ++ (key, value) :: erase key back := by
  induction front with
  | nil => exact if_pos rfl
  | cons p front ih =>
    rw [List.cons_append, put, if_neg (hfront p List.mem_cons_self),
      ih fun q hq => hfront q (List.mem_cons_of_mem p hq)]
    rfl

theorem put_of_forall_ne (h : ∀ p ∈ pairs, p.1 ≠ key) :
    put key value pairs = pairs ++ [(key, value)] := by
  induction pairs with
  | nil => rfl
  | cons p rest ih =>
    rw [put, if_neg (h p List.mem_cons_self), ih fun q hq => h q (List.mem_cons_of_mem p hq)]
    rfl

theorem forall_ne_or_split (key : String) (pairs : List Pair) :
    (∀ p ∈ pairs, p.1 ≠ key) ∨ ∃ front old rest,
      (∀ p ∈ front, p.1 ≠ key) ∧ pairs = front ++ (key, old) :: rest := by
  induction pairs with
  | nil => exact .inl fun p hp => absurd hp List.not_mem_nil
  | cons p rest ih =>
    by_cases hp : p.1 = key
    · exact .inr ⟨[], p.2, rest, fun q hq => absurd hq List.not_mem_nil, by rw [← hp]; rfl⟩
    · rcases ih with h | ⟨front, old, rest, hfront, rfl⟩
      · exact .inl (List.forall_mem_cons.2 ⟨hp, h⟩)
      · exact .inr ⟨p :: front, old, rest, List.forall_mem_cons.2 ⟨hp, hfront⟩, rfl⟩

/-- What is put under a key is the only pair of that key, and stands where the first one stood,
or at the end when there was none. -/
theorem exists_put_eq (key value : String) (pairs : List Pair) :
    ∃ front back, (∀ p ∈ front, p.1 ≠ key) ∧ (∀ p ∈ back, p.1 ≠ key) ∧
      put key value pairs = front ++ (key, value) :: back ∧
      ((∃ old rest, pairs = front ++ (key, old) :: rest ∧ back = erase key rest) ∨
        pairs = front ∧ back = []) := by
  rcases forall_ne_or_split key pairs with h | ⟨front, old, rest, hfront, rfl⟩
  · exact ⟨pairs, [], h, fun p hp => absurd hp List.not_mem_nil, put_of_forall_ne h, .inr ⟨rfl, rfl⟩⟩
  · exact ⟨front, erase key rest, hfront, forall_mem_erase_ne key rest, put_split hfront old,
      .inl ⟨old, rest, rfl, rfl⟩⟩

/-- What is put under a key leaves all other pairs. -/
theorem erase_put (key value : String) (pairs : List Pair) :
    erase key (put key value pairs) = erase key pairs := by
  obtain ⟨front, back, hfront, hback, hput, ⟨old, rest, rfl, rfl⟩ | ⟨rfl, rfl⟩⟩ :=
    exists_put_eq key value pairs
  · rw [hput, erase_split hfront, erase_split hfront, erase_of_forall_ne hback]
  · rw [hput, erase_split hfront, erase_of_forall_ne hfront]
    exact List.append_nil _

theorem put_put (key value : String) (pairs : List Pair) :
    put key value (put key value pairs) = put key value pairs := by
  obtain ⟨front, back, hfront, hback, hput, -⟩ := exists_put_eq key value pairs
  rw [hput, put_split hfront, erase_of_forall_ne hback]

end

/-! ## Stored systems -/

/-- The stored text of a scale is read as that scale. -/
def ScaleReads (scale : Float) : Prop :=
  Json.parse Json.Shape.binary64 (String.ofList (scaleToJson scale).compact) = .ok scale

/-- The scales whose stored text is read as they were are those that are read back from their
digits. -/
theorem scaleReads_iff {scale : Float} (hlow : 1.0 ≤ scale) (hhigh : scale ≤ 2.0) :
    ScaleReads scale ↔ Decimal.ReadsBack scale := by
  unfold ScaleReads
  rw [(stored_scale hlow hhigh).parse_compact, ← Decimal.reread_eq_iff hlow hhigh]
  exact ⟨Except.ok.inj, congrArg Except.ok⟩

/-- A query after a system has been stored in it under a key. -/
structure Stored (query key : String) (s : Grid) (after : String) : Prop where
  /-- all other parameters are as they were -/
  others : (decodePairs after).filter (·.1 ≠ key) = (decodePairs query).filter (·.1 ≠ key)
  /-- the default takes no parameter -/
  absent : s.snapshot = .default → ∀ p ∈ decodePairs after, p.1 ≠ key
  /-- other content takes one, in the place of the first of the key or at the end -/
  once : s.snapshot ≠ .default → ∃ front back,
    (∀ p ∈ front, p.1 ≠ key) ∧ (∀ p ∈ back, p.1 ≠ key) ∧
    decodePairs after = front ++ (key, s.snapshot.text) :: back ∧
    ((∃ old rest, decodePairs query = front ++ (key, old) :: rest) ∨
      decodePairs query = front ∧ back = [])
  /-- no system is read where the default has been stored -/
  unread : s.snapshot = .default → ∀ next,
    read next after key = (.ok none, next) ∧ read next ("?" ++ after) key = (.ok none, next)
  /-- other content is read, and is the same exactly when the text of every scale is read as
  that scale -/
  reads : s.snapshot ≠ .default → ∀ next, ∃ t,
    read next after key = (.ok (some t), next + s.size) ∧
    read next ("?" ++ after) key = (.ok (some t), next + s.size) ∧
    t.ids = List.range' next s.size ∧
    (t.snapshot = s.snapshot ↔ ∀ e ∈ s.entries, ScaleReads e.settings.scale)
  /-- storing the system again changes nothing -/
  again : write after key s = after

section

variable {s : Grid} {key : String} {pairs : List Pair}

/-- The pairs of a query after a system has been stored in it. -/
def storedPairs (key : String) (s : Grid) (pairs : List Pair) : List Pair :=
  if s.snapshot.isDefault then erase key pairs else put key s.snapshot.text pairs

/-- What is written are the pairs with the system stored among them. -/
theorem write_eq (query key : String) (s : Grid) :
    write query key s = encodePairs (storedPairs key s (decodePairs query)) := rfl

theorem storedPairs_default (h : s.snapshot = .default) :
    storedPairs key s pairs = erase key pairs := if_pos (decide_eq_true h)

theorem storedPairs_of_ne (h : s.snapshot ≠ .default) :
    storedPairs key s pairs = put key s.snapshot.text pairs :=
  if_neg fun hdefault => h (of_decide_eq_true hdefault)

/-- Storing a system leaves all other pairs. -/
theorem erase_storedPairs (key : String) (s : Grid) (pairs : List Pair) :
    erase key (storedPairs key s pairs) = erase key pairs := by
  by_cases h : s.snapshot = .default
  · rw [storedPairs_default h, erase_of_forall_ne (forall_mem_erase_ne key pairs)]
  · rw [storedPairs_of_ne h, erase_put]

theorem storedPairs_storedPairs (key : String) (s : Grid) (pairs : List Pair) :
    storedPairs key s (storedPairs key s pairs) = storedPairs key s pairs := by
  by_cases h : s.snapshot = .default
  · rw [storedPairs_default h, storedPairs_default h,
      erase_of_forall_ne (forall_mem_erase_ne key pairs)]
  · rw [storedPairs_of_ne h, storedPairs_of_ne h, put_put]

theorem text_ne_empty (content : Snapshot) : content.text ≠ "" := by
  intro h
  have hchars := congrArg String.toList h
  unfold Snapshot.text Snapshot.toJson at hchars
  rw [String.toList_ofList, Json.compact] at hchars
  cases hchars

theorem read_of_lookup?_none {query : String} (h : lookup? key (decodePairs query) = none)
    (next : Id) : read next query key = (.ok none, next) := by
  unfold read
  rw [h]

/-- Where a key has the text of the content of a system as its value, a system is read. -/
theorem exists_read (s : Grid) (key : String) (next : Id) :
    ∃ t, t.snapshot = s.snapshot.reread ∧ t.ids = List.range' next s.size ∧
      ∀ query, lookup? key (decodePairs query) = some s.snapshot.text →
        read next query key = (.ok (some t), next + s.size) := by
  obtain ⟨t, hload, hcontent, hids⟩ := s.exists_ofSnapshot?_reread next
  refine ⟨t, hcontent, hids, ?_⟩
  intro query hlookup
  unfold read
  rw [hlookup]
  simp only
  rw [if_neg (text_ne_empty s.snapshot), Snapshot.parse_text s.storable]
  simp only [hload]

end

/-- Whatever a query holds, storing a system under a key changes the parameter of that key and
nothing else, what is stored is read again, and storing it again changes nothing. -/
theorem stored_write (query key : String) (s : Grid) : Stored query key s (write query key s) := by
  have hafter : decodePairs (write query key s) = storedPairs key s (decodePairs query) :=
    decodePairs_encodePairs _
  have hmarked : decodePairs ("?" ++ write query key s) = storedPairs key s (decodePairs query) :=
    decodePairs_marked _
  exact {
    others := by
      rw [hafter]
      exact erase_storedPairs key s (decodePairs query)
    absent := by
      intro h
      rw [hafter, storedPairs_default h]
      exact forall_mem_erase_ne key (decodePairs query)
    once := by
      intro h
      obtain ⟨front, back, hfront, hback, hput, hplace⟩ :=
        exists_put_eq key s.snapshot.text (decodePairs query)
      refine ⟨front, back, hfront, hback, ?_, ?_⟩
      · rw [hafter, storedPairs_of_ne h, hput]
      · exact hplace.imp (fun ⟨old, rest, hquery, _⟩ => ⟨old, rest, hquery⟩) id
    unread := by
      intro h next
      have hlookup : lookup? key (storedPairs key s (decodePairs query)) = none := by
        rw [storedPairs_default h]
        exact lookup?_eq_none (forall_mem_erase_ne key (decodePairs query))
      exact ⟨read_of_lookup?_none (hafter ▸ hlookup) next,
        read_of_lookup?_none (hmarked ▸ hlookup) next⟩
    reads := by
      intro h next
      have hlookup : lookup? key (storedPairs key s (decodePairs query)) =
          some s.snapshot.text := by
        obtain ⟨front, back, hfront, -, hput, -⟩ :=
          exists_put_eq key s.snapshot.text (decodePairs query)
        rw [storedPairs_of_ne h, hput, lookup?_split hfront]
      -- both queries have the same pairs, so one system is read from either
      obtain ⟨t, hcontent, hids, hread⟩ := exists_read s key next
      refine ⟨t, hread _ (hafter ▸ hlookup), hread _ (hmarked ▸ hlookup), hids, ?_⟩
      rw [hcontent, Grid.snapshot_reread_eq_iff]
      exact forall₂_congr fun e _ => (scaleReads_iff e.valid.scale.1 e.valid.scale.2).symm
    again := by
      rw [write_eq, hafter, storedPairs_storedPairs, write_eq] }

end ResponsiveGrid.Query
