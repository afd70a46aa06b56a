import ResponsiveGrid.Proofs.Text.Parts
import ResponsiveGrid.Proofs.Text.Utf8
import ResponsiveGrid.Query.Form
set_option autoImplicit false

/-!
# Query: pairs that are read back

Whatever pairs are written, the same pairs are read, with a question mark in front of the query
or without one (`decodePairs_encodePairs`).  Two things make it so.  A written byte is read back
as that byte, whatever stands behind it; and nothing that a component is written with separates
pairs, separates names from values or marks a query.
-/

namespace ResponsiveGrid

namespace Text

theorem Utf8.encode_cons_of_lt {c : Char} (h : c.toNat < 0x80) (text : List Char) :
    encode (c :: text) = UInt8.ofNat c.toNat :: encode text := by
  unfold encode
  rw [List.flatMap_cons, String.utf8EncodeChar]
  have hval : c.val.toNat ≤ 127 := Nat.le_of_lt_succ h
  rw [if_pos hval]
  rfl

end Text

namespace Query

open Text.Utf8 (encode)

/-! ## Bytes -/

/-- The characters that components are written with.  None of them separates pairs, separates a
name from its value or marks a query. -/
def IsPlain (c : Char) : Prop := c.isAlphanum = true ∨ c ∈ ['*', '-', '.', '_', '+', '%']

instance (c : Char) : Decidable (IsPlain c) :=
  inferInstanceAs (Decidable (_ ∨ _))

/-- A hexadecimal digit is a plain character; it is read back, from a byte that is no sign. -/
theorem upperHex_spec : ∀ n < 16, (upperHex n).toNat < 0x80 ∧ IsPlain (upperHex n) ∧
    UInt8.ofNat (upperHex n).toNat ≠ 0x2B ∧
    hexDigit? (UInt8.ofNat (upperHex n).toNat) = some n := by
  decide

theorem isPlain_of_isLiteral : ∀ n < 0x80, isLiteral (UInt8.ofNat n) = true →
    IsPlain (Char.ofNat n) := by
  decide

theorem toNat_ofNat_byte (b : UInt8) : (Char.ofNat b.toNat).toNat = b.toNat := by
  have hb := b.toNat_lt
  have hvalid : b.toNat.isValidChar := .inl (by omega)
  unfold Char.ofNat
  rw [dif_pos hvalid]
  rfl

theorem isLiteral_spec {b : UInt8} (h : isLiteral b = true) :
    b.toNat < 0x80 ∧ b ≠ 0x2B ∧ b ≠ 0x25 := by
  have hranges := of_decide_eq_true h
  have hbyte : ∀ n : Nat, b.toNat ≠ n → ∀ c : UInt8, c.toNat = n → b ≠ c := by
    rintro n hn c hc rfl
    exact hn hc
  exact ⟨by omega, hbyte 0x2B (by omega) _ rfl, hbyte 0x25 (by omega) _ rfl⟩

theorem isPlain_of_mem_encodeByte {c : Char} {b : UInt8} (h : c ∈ encodeByte b) : IsPlain c := by
  have hb := b.toNat_lt
  unfold encodeByte at h
  split at h
  · next hliteral =>
    have hplain := isPlain_of_isLiteral b.toNat (isLiteral_spec hliteral).1
    rw [UInt8.ofNat_toNat] at hplain
    rw [List.mem_singleton.1 h]
    exact hplain hliteral
  split at h
  · rw [List.mem_singleton.1 h]
    decide
  · rw [List.mem_cons, List.mem_cons, List.mem_singleton] at h
    rcases h with rfl | rfl | rfl
    · decide
    · exact (upperHex_spec (b.toNat / 16) (by omega)).2.1
    · exact (upperHex_spec (b.toNat % 16) (by omega)).2.1

theorem decodeBytes_space (rest : List UInt8) :
    decodeBytes (0x2B :: rest) = 0x20 :: decodeBytes rest := by
  rw [decodeBytes.eq_def]
  rfl

theorem decodeBytes_other {b : UInt8} (hplus : b ≠ 0x2B) (hpercent : b ≠ 0x25)
    (rest : List UInt8) : decodeBytes (b :: rest) = b :: decodeBytes rest := by
  rw [decodeBytes.eq_def]
  simp only
  rw [if_neg hplus, if_neg hpercent]

/-- A written byte is read back, whatever stands behind it. -/
theorem decodeBytes_encodeByte (b : UInt8) (rest : List UInt8) :
    decodeBytes (encode (encodeByte b) ++ rest) = b :: decodeBytes rest := by
  have hb := b.toNat_lt
  obtain ⟨hhigh, -, hplus, hhigh'⟩ := upperHex_spec (b.toNat / 16) (by omega)
  obtain ⟨hlow, -, -, hlow'⟩ := upperHex_spec (b.toNat % 16) (by omega)
  unfold encodeByte
  split
  · next h =>
    obtain ⟨hlt, hnoPlus, hnoPercent⟩ := isLiteral_spec h
    have hchar := toNat_ofNat_byte b
    rw [Text.Utf8.encode_cons_of_lt (hchar.symm ▸ hlt), hchar, UInt8.ofNat_toNat]
    exact decodeBytes_other hnoPlus hnoPercent rest
  split
  · next h =>
    rw [h]
    exact decodeBytes_space rest
  · -- the high digit is no plus sign, which would make the escape one of a single digit
    rw [Text.Utf8.encode_cons_of_lt (by decide), Text.Utf8.encode_cons_of_lt hhigh,
      Text.Utf8.encode_cons_of_lt hlow]
    have hescape : escape? (UInt8.ofNat (upperHex (b.toNat / 16)).toNat)
        (UInt8.ofNat (upperHex (b.toNat % 16)).toNat) = some b := by
      unfold escape?
      rw [hlow', hhigh']
      simp only
      rw [if_neg hplus, Nat.div_add_mod', UInt8.ofNat_toNat]
    show decodeBytes (0x25 :: _ :: _ :: rest) = _
    rw [decodeBytes, if_neg (by decide), if_pos rfl, hescape]

theorem decodeBytes_encodeBytes (bytes : List UInt8) :
    decodeBytes (encode (bytes.flatMap encodeByte)) = bytes := by
  induction bytes with
  | nil => rfl
  | cons b rest ih =>
    have hencode : encode (encodeByte b ++ rest.flatMap encodeByte) =
        encode (encodeByte b) ++ encode (rest.flatMap encodeByte) := List.flatMap_append
    rw [List.flatMap_cons, hencode, decodeBytes_encodeByte, ih]

/-! ## Components -/

/-- A written component is read back. -/
theorem decodeChars_encodeChars (text : List Char) : decodeChars (encodeChars text) = text := by
  unfold decodeChars encodeChars
  rw [decodeBytes_encodeBytes, Text.Utf8.decode_encode]

theorem isPlain_of_mem_encodeChars {c : Char} {text : List Char} (h : c ∈ encodeChars text) :
    IsPlain c := by
  obtain ⟨b, -, hb⟩ := List.mem_flatMap.1 h
  exact isPlain_of_mem_encodeByte hb

/-! ## Pairs -/

theorem decodePair_encodePair (p : Pair) : decodePair (encodePair p) = p := by
  have hname : ∀ c ∈ encodeChars p.1.toList, decide (c ≠ '=') = true := by
    intro c hc
    rw [decide_eq_true_iff]
    rintro rfl
    exact absurd (isPlain_of_mem_encodeChars hc) (by decide)
  unfold decodePair encodePair
  rw [List.takeWhile_append_of_pos hname, List.dropWhile_append_of_pos hname,
    List.takeWhile_cons_of_neg (by decide), List.dropWhile_cons_of_neg (by decide),
    List.append_nil, List.drop_one, List.tail_cons]
  simp only [decodeChars_encodeChars, String.ofList_toList]

theorem mem_encodePair {c : Char} {p : Pair} (h : c ∈ encodePair p) : IsPlain c ∨ c = '=' := by
  unfold encodePair at h
  rw [List.mem_append, List.mem_cons] at h
  rcases h with hname | hsign | hvalue
  · exact .inl (isPlain_of_mem_encodeChars hname)
  · exact .inr hsign
  · exact .inl (isPlain_of_mem_encodeChars hvalue)

/-- The parts of written pairs are read as the pairs. -/
theorem map_decodePair_parts (pairs : List Pair) :
    ((Text.parts '&' (List.intercalate ['&'] (pairs.map encodePair))).filter (· ≠ [])).map
      decodePair = pairs := by
  by_cases hpairs : pairs = []
  · rw [hpairs]
    rfl
  have hparts : Text.parts '&' (List.intercalate ['&'] (pairs.map encodePair)) =
      pairs.map encodePair := by
    refine Text.parts_intercalate (fun h => hpairs (List.map_eq_nil_iff.1 h)) ?_
    intro piece hpiece
    obtain ⟨p, -, rfl⟩ := List.mem_map.1 hpiece
    exact fun hmem => absurd (mem_encodePair hmem) (by decide)
  have hall : (pairs.map encodePair).filter (· ≠ []) = pairs.map encodePair := by
    rw [List.filter_eq_self]
    intro piece hpiece
    obtain ⟨p, -, rfl⟩ := List.mem_map.1 hpiece
    rw [decide_eq_true_iff]
    exact List.append_ne_nil_of_right_ne_nil _ (List.cons_ne_nil _ _)
  have hread : decodePair ∘ encodePair = id := funext decodePair_encodePair
  rw [hparts, hall, List.map_map, hread, List.map_id]

theorem mem_intercalate_encodePair {c : Char} {pairs : List Pair}
    (h : c ∈ List.intercalate ['&'] (pairs.map encodePair)) : IsPlain c ∨ c = '&' ∨ c = '=' := by
  have hpair : ∀ p : Pair, c ∈ encodePair p → IsPlain c ∨ c = '&' ∨ c = '=' :=
    fun p hp => (mem_encodePair hp).imp_right Or.inr
  induction pairs with
  | nil => exact absurd h List.not_mem_nil
  | cons p rest ih =>
    cases rest with
    | nil =>
      rw [List.map_singleton, List.intercalate_singleton] at h
      exact hpair p h
    | cons next rest =>
      rw [List.map_cons, List.map_cons, List.intercalate_cons_cons, List.mem_append,
        List.mem_append, List.mem_singleton] at h
      rcases h with (hfirst | hsign) | hrest
      · exact hpair p hfirst
      · exact .inr (.inl hsign)
      · exact ih hrest

theorem head?_intercalate_ne (pairs : List Pair) :
    (List.intercalate ['&'] (pairs.map encodePair)).head? ≠ some '?' :=
  fun hhead => absurd (mem_intercalate_encodePair (List.mem_of_head? hhead)) (by decide)

theorem unmarked_of_head?_ne {text : List Char} (h : text.head? ≠ some '?') :
    unmarked text = text := by
  unfold unmarked
  split
  · exact absurd rfl h
  · rfl

/-- Written pairs are read back. -/
theorem decodePairs_encodePairs (pairs : List Pair) : decodePairs (encodePairs pairs) = pairs := by
  unfold decodePairs encodePairs
  rw [String.toList_ofList, unmarked_of_head?_ne (head?_intercalate_ne pairs),
    map_decodePair_parts]

theorem decodePairs_marked (pairs : List Pair) :
    decodePairs ("?" ++ encodePairs pairs) = pairs := by
  unfold decodePairs encodePairs
  have hquery : ("?" ++ String.ofList (List.intercalate ['&'] (pairs.map encodePair))).toList =
      '?' :: List.intercalate ['&'] (pairs.map encodePair) := by
    simp
  rw [hquery]
  exact map_decodePair_parts pairs

/-- Whatever characters there are in names and values, pairs are read as they were written, with
a question mark in front or without one, and so is a single component.  The text does not begin
with a question mark, and it is written with plain characters, ampersands and equals signs. -/
theorem pairs_lossless :
    (∀ pairs : List Pair, decodePairs (encodePairs pairs) = pairs ∧
      decodePairs ("?" ++ encodePairs pairs) = pairs ∧
      (encodePairs pairs).toList.head? ≠ some '?' ∧
      ∀ c ∈ (encodePairs pairs).toList, IsPlain c ∨ c = '&' ∨ c = '=') ∧
    ∀ s : String, decodeComponent (encodeComponent s) = s ∧
      ∀ c ∈ (encodeComponent s).toList, IsPlain c := by
  refine ⟨fun pairs => ⟨decodePairs_encodePairs pairs, decodePairs_marked pairs, ?_, ?_⟩,
    fun s => ⟨?_, ?_⟩⟩
  · unfold encodePairs
    rw [String.toList_ofList]
    exact head?_intercalate_ne pairs
  · intro c hc
    unfold encodePairs at hc
    rw [String.toList_ofList] at hc
    exact mem_intercalate_encodePair hc
  · unfold decodeComponent encodeComponent
    rw [String.toList_ofList, decodeChars_encodeChars, String.ofList_toList]
  · intro c hc
    unfold encodeComponent at hc
    rw [String.toList_ofList] at hc
    exact isPlain_of_mem_encodeChars hc

end Query

end ResponsiveGrid
