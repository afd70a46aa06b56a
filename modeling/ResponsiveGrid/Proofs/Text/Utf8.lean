import Mathlib.Tactic.Common
import ResponsiveGrid.Text.Utf8
set_option autoImplicit false

/-!
# Text: bytes that characters are read back from

What is read of the bytes of characters are the characters.  A character takes one to four
bytes; for each number of bytes, one lemma says which bytes are read as one character, and
`decode_encodeChar` that the bytes of a character are such.
-/

namespace ResponsiveGrid.Text.Utf8

section

variable {a b c d : UInt8}

theorem isTail_iff : isTail b = true ↔ 0x80 ≤ b.toNat ∧ b.toNat ≤ 0xBF := decide_eq_true_iff

/-- A second byte continues a character, with four exceptions within narrower bounds. -/
theorem secondFits_iff :
    secondFits a b = true ↔ 0x80 ≤ b.toNat ∧ b.toNat ≤ 0xBF ∧
      (a.toNat = 0xE0 → 0xA0 ≤ b.toNat) ∧ (a.toNat = 0xED → b.toNat ≤ 0x9F) ∧
      (a.toNat = 0xF0 → 0x90 ≤ b.toNat) ∧ (a.toNat = 0xF4 → b.toNat ≤ 0x8F) := by
  unfold secondFits
  simp only
  split_ifs <;> simp only [decide_eq_true_eq, isTail_iff] <;> omega

theorem decode_one (ha : a.toNat < 0x80) (rest : List UInt8) :
    decode (a :: rest) = Char.ofNat a.toNat :: decode rest := by
  have htails : tailsAfter a = some 0 := if_pos ha
  rw [decode.eq_def]
  simp only [htails]

theorem decode_two (hlow : 0xC2 ≤ a.toNat) (hhigh : a.toNat ≤ 0xDF) (hb : secondFits a b = true)
    (rest : List UInt8) : decode (a :: b :: rest) = char2 a b :: decode rest := by
  have htails : tailsAfter a = some 1 := by
    unfold tailsAfter
    rw [if_neg (by omega), if_pos ⟨hlow, hhigh⟩]
  rw [decode, htails]
  exact if_pos hb

theorem decode_three (hlow : 0xE0 ≤ a.toNat) (hhigh : a.toNat ≤ 0xEF)
    (hb : secondFits a b = true) (hc : isTail c = true) (rest : List UInt8) :
    decode (a :: b :: c :: rest) = char3 a b c :: decode rest := by
  have htails : tailsAfter a = some 2 := by
    unfold tailsAfter
    rw [if_neg (by omega), if_neg (by omega), if_pos ⟨hlow, hhigh⟩]
  rw [decode, htails]
  exact (if_pos hb).trans (if_pos hc)

theorem decode_four (hlow : 0xF0 ≤ a.toNat) (hhigh : a.toNat ≤ 0xF4)
    (hb : secondFits a b = true) (hc : isTail c = true) (hd : isTail d = true)
    (rest : List UInt8) :
    decode (a :: b :: c :: d :: rest) = char4 a b c d :: decode rest := by
  have htails : tailsAfter a = some 3 := by
    unfold tailsAfter
    rw [if_neg (by omega), if_neg (by omega), if_neg (by omega), if_pos ⟨hlow, hhigh⟩]
  rw [decode, htails]
  exact (if_pos hb).trans ((if_pos hc).trans (if_pos hd))

/-- A byte below 128 is read as a character of its own wherever it stands: what is in front of it
is read as if nothing followed. -/
theorem decode_append (ha : a.toNat < 0x80) (front rest : List UInt8) :
    decode (front ++ a :: rest) = decode front ++ Char.ofNat a.toNat :: decode rest := by
  have hself := decode_one ha rest
  have htail : isTail a = false := by
    rw [Bool.eq_false_iff, ne_eq, isTail_iff]
    omega
  have hfits : ∀ first, secondFits first a = false := by
    intro first
    rw [Bool.eq_false_iff, ne_eq, secondFits_iff]
    omega
  fun_induction decode front with
  | case1 => exact hself
  -- in front of the byte a character of three or four has been cut off, and the reader looks at
  -- what stands behind the byte
  | case7 | case13 | case14 | case15 =>
    simp only [List.cons_append, List.nil_append] at *
    rw [decode.eq_def]
    rcases rest with _ | ⟨_, _ | ⟨_, rest⟩⟩ <;> simp [*]
  | _ =>
    simp only [List.cons_append, List.nil_append] at *
    rw [decode.eq_def]
    simp [*]

end

theorem decode_encodeChar (c : Char) (rest : List UInt8) :
    decode (String.utf8EncodeChar c ++ rest) = c :: decode rest := by
  have hbyte : ∀ n < 256, (UInt8.ofNat n).toNat = n := fun n hn => UInt8.toNat_ofNat_of_lt hn
  have hvalid : c.val.toNat < 0xD800 ∨ 0xDFFF < c.val.toNat ∧ c.val.toNat < 0x110000 := c.valid
  have hchar : ∀ n, n = c.val.toNat → Char.ofNat n = c := by
    rintro _ rfl
    exact c.ofNat_toNat
  unfold String.utf8EncodeChar
  simp only
  -- from here on the character is its number; that it is no surrogate keeps the second byte
  -- within its narrower bounds
  generalize c.val.toNat = n at hvalid hchar ⊢
  have hlast := hbyte (n % 64 + 128) (by omega)
  have hsecond := hbyte (n / 64 % 64 + 128) (by omega)
  have hthird := hbyte (n / 4096 % 64 + 128) (by omega)
  have hlastTail : isTail (UInt8.ofNat (n % 64 + 128)) = true := isTail_iff.2 (by omega)
  have hsecondTail : isTail (UInt8.ofNat (n / 64 % 64 + 128)) = true := isTail_iff.2 (by omega)
  split
  · have ha := hbyte n (by omega)
    refine (decode_one (by omega) rest).trans ?_
    rw [ha, hchar n rfl]
  split
  · have ha := hbyte (n / 64 % 32 + 192) (by omega)
    have hb : secondFits (UInt8.ofNat (n / 64 % 32 + 192)) (UInt8.ofNat (n % 64 + 128)) = true := by
      rw [secondFits_iff]
      omega
    refine (decode_two (by omega) (by omega) hb rest).trans ?_
    rw [char2, tailBits, ha, hlast, hchar _ (by omega)]
  split
  · have ha := hbyte (n / 4096 % 16 + 224) (by omega)
    have hb : secondFits (UInt8.ofNat (n / 4096 % 16 + 224))
        (UInt8.ofNat (n / 64 % 64 + 128)) = true := by
      rw [secondFits_iff]
      omega
    refine (decode_three (by omega) (by omega) hb hlastTail rest).trans ?_
    rw [char3, tailBits, tailBits, ha, hsecond, hlast, hchar _ (by omega)]
  · have ha := hbyte (n / 262144 % 8 + 240) (by omega)
    have hb : secondFits (UInt8.ofNat (n / 262144 % 8 + 240))
        (UInt8.ofNat (n / 4096 % 64 + 128)) = true := by
      rw [secondFits_iff]
      omega
    refine (decode_four (by omega) (by omega) hb hsecondTail hlastTail rest).trans ?_
    rw [char4, tailBits, tailBits, tailBits, ha, hthird, hsecond, hlast, hchar _ (by omega)]

theorem decode_encode (text : List Char) : decode (encode text) = text := by
  induction text with
  | nil => rfl
  | cons c rest ih =>
    rw [encode, List.flatMap_cons, decode_encodeChar]
    exact congrArg (c :: ·) ih

end ResponsiveGrid.Text.Utf8
