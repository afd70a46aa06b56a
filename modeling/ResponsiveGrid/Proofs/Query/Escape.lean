import ResponsiveGrid.Proofs.Query.Form
set_option autoImplicit false

/-!
# Query: what the bytes of a component stand for

In a form a plus sign stands for a blank, a percent sign with two hexadecimal digits behind it
for a byte, and every other byte for itself.  `Stands` states this for any rule that says which
two bytes behind a percent sign stand for one, and `TwoDigits` is the rule of forms.

The reader takes the two bytes for the numeral of a number, and a numeral may also be a sign and
one digit.  So it reads `%+1` as one byte and not as three.  This is the only difference: a
component is read by the rule of forms exactly when no percent sign in it stands before a plus
sign and a hexadecimal digit (`Stands.compare`).
-/

namespace ResponsiveGrid.Query

open Text.Utf8 (encode decode decode_one decode_append decode_encode encode_cons_of_lt)

/-! ## Digits -/

/-- A character is the hexadecimal digit of a number, in either case. -/
def HexDigit (c : Char) (n : Nat) : Prop :=
  n < 16 ∧ (c = Nat.digitChar n ∨ c = (Nat.digitChar n).toUpper)

instance (c : Char) (n : Nat) : Decidable (HexDigit c n) :=
  inferInstanceAs (Decidable (_ ∧ _))

theorem digitChar_spec : ∀ n < 16,
    ((Nat.digitChar n).toNat < 0x80 ∧ Text.hexDigit? (Nat.digitChar n) = some n) ∧
    ((Nat.digitChar n).toUpper.toNat < 0x80 ∧
      Text.hexDigit? (Nat.digitChar n).toUpper = some n) := by
  decide

theorem HexDigit.spec {c : Char} {n : Nat} (h : HexDigit c n) :
    c.toNat < 0x80 ∧ Text.hexDigit? c = some n := by
  obtain ⟨hn, rfl | rfl⟩ := h
  · exact (digitChar_spec n hn).1
  · exact (digitChar_spec n hn).2

theorem hexDigit_ofNat : ∀ n < 16, (n < 10 → HexDigit (Char.ofNat (n + 0x30)) n) ∧
    (10 ≤ n → HexDigit (Char.ofNat (n + 0x37)) n ∧ HexDigit (Char.ofNat (n + 0x57)) n) := by
  decide

/-- A character is read as a number exactly when it is a digit of the number. -/
theorem hexDigit_iff {c : Char} {n : Nat} : Text.hexDigit? c = some n ↔ HexDigit c n := by
  constructor
  · intro h
    have hc : Char.ofNat c.toNat = c := Char.ofNat_toNat c
    unfold Text.hexDigit? at h
    simp only [Char.le_def, UInt32.le_iff_toNat_le, Char.toNat_val, Char.reduceToNat] at h
    split_ifs at h with hdigit hlower hupper
    · have hn := Option.some.inj h
      rw [← hc, show c.toNat = n + 0x30 by omega]
      exact (hexDigit_ofNat n (by omega)).1 (by omega)
    · have hn := Option.some.inj h
      rw [← hc, show c.toNat = n + 0x57 by omega]
      exact ((hexDigit_ofNat n (by omega)).2 (by omega)).2
    · have hn := Option.some.inj h
      rw [← hc, show c.toNat = n + 0x37 by omega]
      exact ((hexDigit_ofNat n (by omega)).2 (by omega)).1
  · exact fun h => h.spec.2

theorem hexDigit?_eq_some_iff {b : UInt8} {n : Nat} :
    hexDigit? b = some n ↔ HexDigit (Char.ofNat b.toNat) n := hexDigit_iff

/-! ## Escapes -/

/-- Two hexadecimal digits stand for a byte. -/
def TwoDigits (high low b : UInt8) : Prop :=
  ∃ m n, HexDigit (Char.ofNat high.toNat) m ∧ HexDigit (Char.ofNat low.toNat) n ∧
    b = UInt8.ofNat (m * 16 + n)

/-- A plus sign and a hexadecimal digit stand for the byte of that digit. -/
def SignedDigit (high low b : UInt8) : Prop :=
  ∃ n, high = 0x2B ∧ HexDigit (Char.ofNat low.toNat) n ∧ b = UInt8.ofNat n

/-- Two bytes that are the numeral of a number stand for the byte of that number. -/
def Numeral (high low b : UInt8) : Prop := TwoDigits high low b ∨ SignedDigit high low b

theorem TwoDigits.ne_plus {high low b : UInt8} (h : TwoDigits high low b) : high ≠ 0x2B := by
  obtain ⟨m, n, hhigh, -, -⟩ := h
  rintro rfl
  cases hexDigit?_eq_some_iff.2 hhigh

theorem TwoDigits.ne_percent {high low b : UInt8} (h : TwoDigits high low b) :
    high ≠ 0x25 ∧ low ≠ 0x25 := by
  obtain ⟨m, n, hhigh, hlow, -⟩ := h
  constructor
  · rintro rfl
    cases hexDigit?_eq_some_iff.2 hhigh
  · rintro rfl
    cases hexDigit?_eq_some_iff.2 hlow

theorem TwoDigits.unique {high low b c : UInt8} (hb : TwoDigits high low b)
    (hc : TwoDigits high low c) : b = c := by
  obtain ⟨m, n, hm, hn, rfl⟩ := hb
  obtain ⟨k, l, hk, hl, rfl⟩ := hc
  rw [← hexDigit?_eq_some_iff] at hm hn hk hl
  rw [hm] at hk
  rw [hn] at hl
  cases hk
  cases hl
  rfl

/-- The reader takes numerals for escapes. -/
theorem escape?_eq_some_iff {high low b : UInt8} :
    escape? high low = some b ↔ Numeral high low b := by
  unfold escape? Numeral TwoDigits SignedDigit
  simp only [← hexDigit?_eq_some_iff]
  have hsign : hexDigit? 0x2B = none := by decide
  cases hlow : hexDigit? low with
  | none => simp
  | some l =>
    by_cases hplus : high = 0x2B
    · simp [hplus, hsign, eq_comm]
    · cases hhigh : hexDigit? high with
      | none => simp [hplus]
      | some h => simp [hplus, eq_comm]

/-! ## Bytes of a component -/

/-- A percent sign begins an escape when the two bytes behind it stand for one. -/
def StartsEscape (escape : UInt8 → UInt8 → UInt8 → Prop) (text : List UInt8) : Prop :=
  ∃ high low b rest, text = 0x25 :: high :: low :: rest ∧ escape high low b

/-- What the bytes of a component stand for. -/
inductive Stands (escape : UInt8 → UInt8 → UInt8 → Prop) : List UInt8 → List UInt8 → Prop where
  | nil : Stands escape [] []
  | space {rest out : List UInt8} (h : Stands escape rest out) :
      Stands escape (0x2B :: rest) (0x20 :: out)
  | escaped {high low b : UInt8} {rest out : List UInt8} (hb : escape high low b)
      (h : Stands escape rest out) : Stands escape (0x25 :: high :: low :: rest) (b :: out)
  | kept {b : UInt8} {rest out : List UInt8} (hplus : b ≠ 0x2B)
      (hno : ¬ StartsEscape escape (b :: rest)) (h : Stands escape rest out) :
      Stands escape (b :: rest) (b :: out)

section

variable {escape : UInt8 → UInt8 → UInt8 → Prop} {text out : List UInt8}

theorem exists_stands (escape : UInt8 → UInt8 → UInt8 → Prop) (text : List UInt8) :
    ∃ out, Stands escape text out := by
  -- an escape takes three bytes at once, hence the induction on the number of bytes
  induction hlength : text.length using Nat.strongRecOn generalizing text with
  | _ n ih =>
    subst hlength
    cases text with
    | nil => exact ⟨[], .nil⟩
    | cons b rest =>
      have hrest : ∃ out, Stands escape rest out := ih _ (Nat.lt_succ_self _) rest rfl
      by_cases hplus : b = 0x2B
      · obtain ⟨out, h⟩ := hrest
        exact ⟨_, hplus ▸ h.space⟩
      by_cases hescape : StartsEscape escape (b :: rest)
      · obtain ⟨high, low, c, tail, heq, hc⟩ := hescape
        have hshorter : tail.length < (b :: rest).length := by
          rw [heq]
          simp only [List.length_cons]
          omega
        obtain ⟨out, h⟩ := ih _ hshorter tail rfl
        exact ⟨_, heq ▸ h.escaped hc⟩
      · obtain ⟨out, h⟩ := hrest
        exact ⟨_, .kept hplus hescape h⟩

theorem Stands.unique (hescape : ∀ {high low b c}, escape high low b → escape high low c → b = c)
    (h : Stands escape text out) {other : List UInt8} (hother : Stands escape text other) :
    other = out := by
  induction h generalizing other with
  | nil =>
    cases hother
    rfl
  | space _ ih =>
    cases hother with
    | space hother => rw [ih hother]
    | kept hplus => exact absurd rfl hplus
  | @escaped high low b rest out hb _ ih =>
    cases hother with
    | escaped hc hother => rw [ih hother, hescape hb hc]
    | kept _ hno => exact absurd ⟨high, low, b, rest, rfl, hb⟩ hno
  | @kept b rest out hplus hno _ ih =>
    cases hother with
    | space => exact absurd rfl hplus
    | escaped hc => exact absurd ⟨_, _, _, _, rfl, hc⟩ hno
    | kept _ _ hother => rw [ih hother]

end

/-! ## The reader -/

section

variable {b high low : UInt8} {rest text out : List UInt8}

theorem decodeBytes_escaped (h : Numeral high low b) :
    decodeBytes (0x25 :: high :: low :: rest) = b :: decodeBytes rest := by
  rw [decodeBytes, if_neg (by decide), if_pos rfl, escape?_eq_some_iff.2 h]

theorem decodeBytes_kept (hplus : b ≠ 0x2B) (hno : ¬ StartsEscape Numeral (b :: rest)) :
    decodeBytes (b :: rest) = b :: decodeBytes rest := by
  by_cases hpercent : b = 0x25
  · subst hpercent
    match rest with
    | [] => rfl
    | [c] =>
      rw [decodeBytes.eq_def]
      rfl
    | high :: low :: tail =>
      have hescape : escape? high low = none := by
        rw [Option.eq_none_iff_forall_not_mem]
        intro c hc
        exact hno ⟨high, low, c, tail, rfl, escape?_eq_some_iff.1 hc⟩
      rw [decodeBytes, if_neg hplus, if_pos rfl, hescape]
  · exact decodeBytes_other hplus hpercent rest

/-- The reader finds what the bytes stand for when numerals are escapes. -/
theorem Stands.decodeBytes_eq (h : Stands Numeral text out) : decodeBytes text = out := by
  induction h with
  | nil => rfl
  | space _ ih => rw [decodeBytes_space, ih]
  | escaped hb _ ih => rw [decodeBytes_escaped hb, ih]
  | kept hplus hno _ ih => rw [decodeBytes_kept hplus hno, ih]

theorem stands_numeral_iff : Stands Numeral text out ↔ out = decodeBytes text := by
  constructor
  · exact fun h => h.decodeBytes_eq.symm
  · rintro rfl
    obtain ⟨out, h⟩ := exists_stands Numeral text
    rwa [h.decodeBytes_eq]

/-! ## Signs behind percent signs -/

/-- Somewhere in a text a percent sign stands before a plus sign and a digit. -/
def HoldsSigned (text : List UInt8) : Prop := ∃ tail, tail <:+ text ∧ StartsEscape SignedDigit tail

theorem holdsSigned_cons :
    HoldsSigned (b :: rest) ↔ StartsEscape SignedDigit (b :: rest) ∨ HoldsSigned rest := by
  unfold HoldsSigned
  simp only [List.suffix_cons_iff, or_and_right, exists_or, exists_eq_left]

theorem holdsSigned_cons_of_ne (h : b ≠ 0x25) : HoldsSigned (b :: rest) ↔ HoldsSigned rest := by
  rw [holdsSigned_cons]
  refine or_iff_right ?_
  rintro ⟨high, low, c, tail, heq, -⟩
  exact h (List.cons.inj heq).1

/-- An escape of two digits is no sign behind a percent sign, and there is none in it. -/
theorem holdsSigned_escaped (h : TwoDigits high low b) :
    HoldsSigned (0x25 :: high :: low :: rest) ↔ HoldsSigned rest := by
  rw [holdsSigned_cons, holdsSigned_cons_of_ne h.ne_percent.1,
    holdsSigned_cons_of_ne h.ne_percent.2]
  refine or_iff_right ?_
  rintro ⟨_, _, c, tail, heq, n, rfl, -, -⟩
  cases heq
  exact h.ne_plus rfl

/-- Two readings agree up to a byte below sixteen in one of them and a percent sign in the other. -/
def Diverge (read out : List UInt8) : Prop :=
  ∃ front digit back back', read = front ++ digit :: back ∧ digit.toNat < 16 ∧
    out = front ++ 0x25 :: back'

theorem Diverge.cons {read : List UInt8} (h : Diverge read out) (b : UInt8) :
    Diverge (b :: read) (b :: out) := by
  obtain ⟨front, digit, back, back', rfl, hdigit, rfl⟩ := h
  exact ⟨b :: front, digit, back, back', rfl, hdigit, rfl⟩

/-- The reader finds what the bytes stand for in a form, unless a signed digit stands behind a
percent sign somewhere; then the two diverge. -/
theorem Stands.compare (h : Stands TwoDigits text out) :
    ¬ HoldsSigned text ∧ decodeBytes text = out ∨
      HoldsSigned text ∧ Diverge (decodeBytes text) out := by
  induction h with
  | nil =>
    refine .inl ⟨?_, rfl⟩
    rintro ⟨tail, htail, high, low, c, rest, rfl, -⟩
    exact absurd (List.suffix_nil.1 htail) (List.cons_ne_nil _ _)
  | space _ ih =>
    rw [holdsSigned_cons_of_ne (by decide), decodeBytes_space]
    exact ih.imp (.imp_right (congrArg _)) (.imp_right (.cons · _))
  | escaped hb _ ih =>
    rw [holdsSigned_escaped hb, decodeBytes_escaped (.inl hb)]
    exact ih.imp (.imp_right (congrArg _)) (.imp_right (.cons · _))
  | @kept b rest out hplus hno _ ih =>
    by_cases hhere : StartsEscape SignedDigit (b :: rest)
    · -- the form keeps the percent sign, the reader takes it with the digit
      refine .inr ⟨holdsSigned_cons.2 (.inl hhere), ?_⟩
      obtain ⟨high, low, c, tail, heq, hc⟩ := hhere
      obtain ⟨rfl, rfl⟩ := List.cons.inj heq
      refine ⟨[], c, decodeBytes tail, out, decodeBytes_escaped (.inr hc), ?_, rfl⟩
      obtain ⟨n, -, ⟨hn, -⟩, rfl⟩ := hc
      rwa [UInt8.toNat_ofNat_of_lt' (Nat.lt_trans hn (by decide))]
    · have hno' : ¬ StartsEscape Numeral (b :: rest) := by
        rintro ⟨high, low, c, tail, heq, hc | hc⟩
        · exact hno ⟨high, low, c, tail, heq, hc⟩
        · exact hhere ⟨high, low, c, tail, heq, hc⟩
      rw [holdsSigned_cons, or_iff_right hhere, decodeBytes_kept hplus hno']
      exact ih.imp (.imp_right (congrArg _)) (.imp_right (.cons · _))

end

/-! ## Components -/

/-- The bytes of a text hold a signed digit behind a percent sign exactly when its characters do. -/
theorem holdsSigned_encode_iff {text : List Char} :
    HoldsSigned (encode text) ↔ ∃ c n, HexDigit c n ∧ ['%', '+', c] <:+: text := by
  constructor
  · rintro ⟨_, ⟨front, heq⟩, high, low, b, back, rfl, n, rfl, hdigit, -⟩
    have hlow : low.toNat < 0x80 := toNat_ofNat_byte low ▸ hdigit.spec.1
    have htext : text = decode front ++ ['%', '+', Char.ofNat low.toNat] ++ decode back := by
      rw [← decode_encode text, ← heq, decode_append (by decide), decode_one (by decide),
        decode_one hlow, List.append_assoc]
      rfl
    exact ⟨Char.ofNat low.toNat, n, hdigit, decode front, decode back, htext.symm⟩
  · rintro ⟨c, n, hdigit, front, back, rfl⟩
    have hbytes : encode (front ++ ['%', '+', c] ++ back) =
        encode front ++ 0x25 :: 0x2B :: UInt8.ofNat c.toNat :: encode back := by
      rw [List.append_assoc]
      have happend : encode (front ++ '%' :: '+' :: c :: back) =
          encode front ++ encode ('%' :: '+' :: c :: back) := List.flatMap_append
      refine happend.trans ?_
      rw [encode_cons_of_lt (by decide), encode_cons_of_lt (by decide),
        encode_cons_of_lt hdigit.spec.1]
      rfl
    have hchar : Char.ofNat (UInt8.ofNat c.toNat).toNat = c := by
      rw [UInt8.toNat_ofNat_of_lt' (Nat.lt_trans hdigit.spec.1 (by decide)), Char.ofNat_toNat]
    exact ⟨_, ⟨encode front, hbytes.symm⟩, 0x2B, UInt8.ofNat c.toNat, UInt8.ofNat n, encode back,
      rfl, n, rfl, hchar.symm ▸ hdigit, rfl⟩

theorem Diverge.decode_ne {read out : List UInt8} (h : Diverge read out) :
    decode read ≠ decode out := by
  obtain ⟨front, digit, back, back', rfl, hdigit, rfl⟩ := h
  rw [decode_append (by omega), decode_append (by decide)]
  intro heq
  have hchar : Char.ofNat digit.toNat = '%' := (List.cons.inj (List.append_cancel_left heq)).1
  have hnumber := congrArg Char.toNat hchar
  rw [toNat_ofNat_byte] at hnumber
  rw [hnumber] at hdigit
  exact absurd hdigit (by decide)

/-- What a component is read as.  Its bytes stand for one thing when numerals are escapes, and
that is what the reader finds; they stand for one thing in a form, and the reader finds this
exactly when no percent sign stands before a plus sign and a hexadecimal digit. -/
theorem decodeComponent_form (s : String) :
    (∃ bytes, (∀ other, Stands Numeral (encode s.toList) other ↔ other = bytes) ∧
      decodeComponent s = String.ofList (decode bytes)) ∧
    ∃ bytes, (∀ other, Stands TwoDigits (encode s.toList) other ↔ other = bytes) ∧
      (decodeComponent s = String.ofList (decode bytes) ↔
        ¬ ∃ c n, HexDigit c n ∧ ['%', '+', c] <:+: s.toList) := by
  refine ⟨⟨decodeBytes (encode s.toList), fun _ => stands_numeral_iff, rfl⟩, ?_⟩
  obtain ⟨bytes, h⟩ := exists_stands TwoDigits (encode s.toList)
  refine ⟨bytes, fun other => ⟨h.unique (fun hb hc => hb.unique hc), fun heq => heq ▸ h⟩, ?_⟩
  unfold decodeComponent decodeChars
  rw [String.ofList_inj, ← holdsSigned_encode_iff]
  rcases h.compare with ⟨hno, heq⟩ | ⟨hsigned, hdiverge⟩
  · exact iff_of_true (congrArg decode heq) hno
  · exact iff_of_false hdiverge.decode_ne (not_not_intro hsigned)

/-- A percent sign, a plus sign and a one: a form keeps the percent sign, reads the plus sign as
a blank and keeps the one; the reader finds the byte one. -/
theorem decodeComponent_signed :
    Stands TwoDigits (encode "%+1".toList) [0x25, 0x20, 0x31] ∧
      String.ofList (decode [0x25, 0x20, 0x31]) = "% 1" ∧
      decodeComponent "%+1" = "\x01" ∧ decodeComponent "%+1" ≠ "% 1" := by
  have hno : ¬ StartsEscape TwoDigits (encode "%+1".toList) := by
    rintro ⟨high, low, b, rest, heq, hb⟩
    cases heq
    exact hb.ne_plus rfl
  have hone : ¬ StartsEscape TwoDigits [0x31] := by
    rintro ⟨high, low, b, rest, heq, -⟩
    cases heq
  exact ⟨.kept (by decide) hno (.space (.kept (by decide) hone .nil)), by decide, by decide,
    by decide⟩

end ResponsiveGrid.Query
