import ResponsiveGrid.Proofs.Query.Store
set_option autoImplicit false

/-!
# Query: queries one behind the other

A query behind another one, with an ampersand between them, adds its pairs behind those of the
other (`decodePairs_ampersand`), whatever either of them looks like; only the question mark of
the first one is no part of a pair.  Of the pairs of a key the first counts, empty or invalid as
its value may be.  So the second query is asked only for keys that the first one does not have.
-/

namespace ResponsiveGrid.Query

/-! ## Pairs -/

section

variable {key behind : String} {pairs : List Pair}

theorem unmarked_append (front back : List Char) :
    unmarked (front ++ '&' :: back) = unmarked front ++ '&' :: back := by
  cases front with
  | nil => rfl
  | cons c front =>
    by_cases hmark : c = '?'
    · rw [hmark]
      rfl
    · have hhead : ∀ rest : List Char, (c :: rest).head? ≠ some '?' :=
        fun rest hhead => hmark (Option.some.inj hhead)
      rw [List.cons_append, unmarked_of_head?_ne (hhead _), unmarked_of_head?_ne (hhead _),
        List.cons_append]

/-- The pairs of a query behind another one stand behind the pairs of the other. -/
theorem decodePairs_ampersand (query : String) (h : behind.toList.head? ≠ some '?') :
    decodePairs (query ++ "&" ++ behind) = decodePairs query ++ decodePairs behind := by
  have htext : (query ++ "&" ++ behind).toList = query.toList ++ '&' :: behind.toList := by
    rw [String.toList_append, String.toList_append, List.append_assoc]
    rfl
  unfold decodePairs
  rw [htext, unmarked_append, unmarked_of_head?_ne h, Text.parts_append, List.filter_append,
    List.map_append]

theorem lookup?_append_of_mem (h : ∃ p ∈ pairs, p.1 = key) (back : List Pair) :
    lookup? key (pairs ++ back) = lookup? key pairs := by
  obtain ⟨p, hp, hkey⟩ := h
  rcases forall_ne_or_split key pairs with hnone | ⟨front, value, rest, hfront, rfl⟩
  · exact absurd hkey (hnone p hp)
  · rw [List.append_assoc, List.cons_append, lookup?_split hfront, lookup?_split hfront]

theorem lookup?_append_of_forall_ne (h : ∀ p ∈ pairs, p.1 ≠ key) (back : List Pair) :
    lookup? key (pairs ++ back) = lookup? key back := by
  rcases forall_ne_or_split key back with hnone | ⟨front, value, rest, hfront, rfl⟩
  · rw [lookup?_eq_none hnone, lookup?_eq_none (List.forall_mem_append.2 ⟨h, hnone⟩)]
  · rw [← List.append_assoc, lookup?_split hfront,
      lookup?_split (List.forall_mem_append.2 ⟨h, hfront⟩)]

end

/-! ## Systems -/

/-- Two queries give the same for a key: the same system or fault with the same identities, and
the same content or fault with any. -/
structure Alike (key query other : String) : Prop where
  read : ∀ next, read next query key = read next other key
  content : ∀ next next', (Query.read next query key).1.map (Option.map Grid.snapshot) =
    (Query.read next' other key).1.map (Option.map Grid.snapshot)

section

variable {key query other : String}

/-- What is read under a key has the same content, or is the same fault, whatever identities are
next. -/
theorem read_content (query key : String) (next next' : Id) :
    (read next query key).1.map (Option.map Grid.snapshot) =
      (read next' query key).1.map (Option.map Grid.snapshot) := by
  unfold read
  cases lookup? key (decodePairs query) with
  | none => rfl
  | some value =>
    simp only
    split
    · rfl
    cases Snapshot.parse value with
    | error fault => rfl
    | ok content =>
      have hcontent := Grid.ofSnapshot?_content content next next'
      simp only
      generalize Grid.ofSnapshot? next content = loaded at hcontent ⊢
      generalize Grid.ofSnapshot? next' content = loaded' at hcontent ⊢
      obtain ⟨v | s, after⟩ := loaded <;> obtain ⟨v' | s', after'⟩ := loaded'
      · exact congrArg (Except.error ∘ StoreFault.violation) (Except.error.inj hcontent)
      · cases hcontent
      · cases hcontent
      · exact congrArg (Except.ok ∘ some) (Except.ok.inj hcontent)

theorem alike_of_lookup?_eq
    (h : lookup? key (decodePairs query) = lookup? key (decodePairs other)) :
    Alike key query other := by
  have hread : ∀ next, read next query key = read next other key := by
    intro next
    unfold read
    rw [h]
  exact ⟨hread, fun next next' => by rw [hread, read_content]⟩

end

/-- Of two queries one behind the other, the first one decides on every key that it has, whatever
the value is, and the second one on all other keys. -/
theorem read_first_occurrence (query behind : String) (h : behind.toList.head? ≠ some '?') :
    decodePairs (query ++ "&" ++ behind) = decodePairs query ++ decodePairs behind ∧
    ∀ key, ((∃ p ∈ decodePairs query, p.1 = key) → Alike key (query ++ "&" ++ behind) query) ∧
      ((¬ ∃ p ∈ decodePairs query, p.1 = key) → Alike key (query ++ "&" ++ behind) behind) := by
  have hpairs := decodePairs_ampersand query h
  refine ⟨hpairs, fun key => ⟨fun hmem => alike_of_lookup?_eq ?_, fun hmem =>
    alike_of_lookup?_eq ?_⟩⟩
  · rw [hpairs, lookup?_append_of_mem hmem]
  · rw [hpairs, lookup?_append_of_forall_ne fun p hp hkey => hmem ⟨p, hp, hkey⟩]

/-- A name without a value, escaped, hides the value that stands behind it. -/
theorem read_first_occurrence_bare :
    "gridSystem=not-json&x==".toList.head? ≠ some '?' ∧
      decodePairs ("?a=1&&grid%53ystem" ++ "&" ++ "gridSystem=not-json&x==") =
        [("a", "1"), ("gridSystem", ""), ("gridSystem", "not-json"), ("x", "=")] ∧
      Alike "gridSystem" ("?a=1&&grid%53ystem" ++ "&" ++ "gridSystem=not-json&x==")
        "?a=1&&grid%53ystem" ∧
      Alike "x" ("?a=1&&grid%53ystem" ++ "&" ++ "gridSystem=not-json&x==")
        "gridSystem=not-json&x==" := by
  have hhead : "gridSystem=not-json&x==".toList.head? ≠ some '?' := by decide
  obtain ⟨hpairs, hkey⟩ := read_first_occurrence "?a=1&&grid%53ystem" _ hhead
  refine ⟨hhead, ?_, (hkey "gridSystem").1 (by decide +kernel), (hkey "x").2 (by decide +kernel)⟩
  rw [hpairs]
  decide +kernel

end ResponsiveGrid.Query
