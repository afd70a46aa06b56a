import Mathlib.Tactic.Ring
import ResponsiveGrid.Decimal.Layout
set_option autoImplicit false

/-!
# Decimal: binary64 values from one to two

A scale lies between one and two.  There the bits of binary64 are as simple as they
can be: `exists_steps` numbers the values by `N` with `2 ^ 52 ≤ N ≤ 2 ^ 53`, the value
being `N / 2 ^ 52`, and two values with the same number are the same.  Comparisons of
binary64 are opened here, and nowhere else.
-/

namespace ResponsiveGrid.Decimal

open Float.Model Float.Model.UnpackedFloat

/-! ## Fields of the bits -/

theorem float_le_iff (x y : Float) :
    x ≤ y ↔ x.toModel.unpack.le y.toModel.unpack = true :=
  decide_eq_true_iff

theorem toNat_unpackMantissa (b : BitVec Format.binary64.numBits) :
    (unpackMantissa b).toNat = b.toNat % 2 ^ 52 := by
  unfold unpackMantissa
  rw [BitVec.toNat_cast, BitVec.extractLsb_toNat, Nat.shiftRight_zero]
  rfl

theorem toNat_unpackExponent (b : BitVec Format.binary64.numBits) :
    (unpackExponent b).toNat = b.toNat / 2 ^ 52 % 2 ^ 11 := by
  unfold unpackExponent
  rw [BitVec.toNat_cast, BitVec.extractLsb_toNat, Nat.shiftRight_eq_div_pow]
  rfl

theorem toNat_unpackSign (b : BitVec Format.binary64.numBits) :
    (unpackSign b).toNat = b.toNat / 2 ^ 63 := by
  have hlt : b.toNat < 2 ^ 64 := b.isLt
  unfold unpackSign
  rw [BitVec.toNat_cast, BitVec.extractLsb_toNat, Nat.shiftRight_eq_div_pow]
  have hmod : b.toNat / 2 ^ 63 < 2 := by omega
  exact Nat.mod_eq_of_lt hmod

theorem unpackSign_positive (exponent : BitVec 11) (mantissa : BitVec 52) :
    unpackSign (packComponents Format.binary64 .positive exponent mantissa) = 0#1 := by
  have hlt : (exponent ++ mantissa).toNat < 2 ^ 63 := (exponent ++ mantissa).isLt
  have hbits : (packComponents Format.binary64 .positive exponent mantissa).toNat =
      (exponent ++ mantissa).toNat := by
    show (0#1 ++ exponent ++ mantissa).toNat = (exponent ++ mantissa).toNat
    simp only [BitVec.toNat_append, BitVec.toNat_ofNat, Nat.zero_mod, Nat.zero_shiftLeft,
      Nat.zero_or]
  apply BitVec.eq_of_toNat_eq
  rw [toNat_unpackSign, hbits, Nat.div_eq_of_lt hlt]
  rfl

/-- Positive values are compared by their exponents, and by their mantissas where these agree. -/
theorem positive_le_iff {m n : Nat} {d e : Int} {hm : 0 < m} {hn : 0 < n} :
    (UnpackedFloat.finite .positive m d hm).le (.finite .positive n e hn) = true ↔
      d < e ∨ d = e ∧ m ≤ n := by
  have hcompare : (UnpackedFloat.finite .positive m d hm).le (.finite .positive n e hn) =
      ((compare d e).then (compare m n)).isLE := rfl
  rw [hcompare, Ordering.isLE_then_iff_or, Int.compare_eq_lt, Int.compare_eq_eq, Nat.isLE_compare]

theorem unpack_of_between {x : Float} (hlow : 1.0 ≤ x) (hhigh : x ≤ 2.0) :
    ∃ m e h, x.toModel.unpack = .finite .positive m e h ∧
      (e = -52 ∧ 2 ^ 52 ≤ m ∨ e = -51 ∧ m ≤ 2 ^ 52) := by
  have hone : (1.0 : Float).toModel.unpack = .finite .positive (2 ^ 52) (-52) (by decide) := rfl
  have htwo : (2.0 : Float).toModel.unpack = .finite .positive (2 ^ 52) (-51) (by decide) := rfl
  rw [float_le_iff, hone] at hlow
  rw [float_le_iff, htwo] at hhigh
  cases hx : x.toModel.unpack with
  | notANumber => rw [hx] at hlow; cases hlow
  | zero s => rw [hx] at hlow; cases hlow
  | infinity s =>
    rw [hx] at hlow hhigh
    cases s with
    | negative => cases hlow
    | positive => cases hhigh
  | finite s m e hm =>
    rw [hx] at hlow hhigh
    cases s with
    | negative => cases hlow
    | positive =>
      rw [positive_le_iff] at hlow hhigh
      exact ⟨m, e, hm, rfl, by omega⟩

theorem isFinite_of_between {x : Float} (hlow : 1.0 ≤ x) (hhigh : x ≤ 2.0) :
    x.isFinite = true := by
  obtain ⟨m, e, hm, hx, -⟩ := unpack_of_between hlow hhigh
  have hfinite : x.isFinite = x.toModel.unpack.isFinite := rfl
  rw [hfinite, hx]
  rfl

/-! ## Counting in steps of `2 ^ -52` -/

/-- The bits of a scale that is `N` steps of `2 ^ -52`. -/
def Steps (x : Float) (N : Nat) : Prop :=
  2 ^ 52 ≤ N ∧ N ≤ 2 ^ 53 ∧ x.toBits.toNat = 1022 * 2 ^ 52 + N

theorem toNat_of_unpack {b : BitVec Format.binary64.numBits} {m : Nat} {e : Int} {h : 0 < m}
    (hb : UnpackedFloat.unpack Format.binary64 b = .finite .positive m e h) (he : -1074 < e) :
    2 ^ 52 ≤ m ∧ m < 2 ^ 53 ∧ (b.toNat : Int) = (e + 1074) * 2 ^ 52 + m := by
  have hmantissa := toNat_unpackMantissa b
  have hexponent := toNat_unpackExponent b
  have hsign := toNat_unpackSign b
  have hlt : b.toNat < 2 ^ 64 := b.isLt
  unfold UnpackedFloat.unpack at hb
  dsimp only at hb
  by_cases htop : unpackExponent b = -1#11
  · rw [if_pos htop] at hb
    by_cases hzero : unpackMantissa b = 0#52
    · rw [if_pos hzero] at hb
      cases hb
    · rw [if_neg hzero] at hb
      cases hb
  rw [if_neg htop] at hb
  by_cases hbottom : unpackExponent b = 0#11
  · rw [if_pos hbottom] at hb
    by_cases hzero : unpackMantissa b = 0#52
    · rw [dif_pos hzero] at hb
      cases hb
    · rw [dif_neg hzero] at hb
      injection hb with _ _ hexp
      rw [hbottom] at hexp
      simp [Format.exponentBias] at hexp
      omega
  · rw [if_neg hbottom] at hb
    injection hb with hs hm hexp
    have hpos : unpackSign b = 0#1 := by
      unfold Sign.ofBitVec at hs
      split at hs
      · assumption
      · cases hs
    have hnonneg : b.toNat / 2 ^ 63 = 0 := by rw [← hsign, hpos]; rfl
    have hfull : m = 2 ^ 52 + b.toNat % 2 ^ 52 := by
      rw [← hm, BitVec.toNat_append, ← Nat.shiftLeft_add_eq_or_of_lt (unpackMantissa b).isLt,
        hmantissa]
      rfl
    have hbias : ((Format.binary64.exponentBias : Nat) : Int) = 1023 := rfl
    rw [hexponent, hbias] at hexp
    omega

/-- A value within the bounds of a scale is a number of steps. -/
theorem exists_steps {x : Float} (hlow : 1.0 ≤ x) (hhigh : x ≤ 2.0) : ∃ N, Steps x N := by
  obtain ⟨m, e, hm, hx, hbounds⟩ := unpack_of_between hlow hhigh
  obtain ⟨hlow, hhigh, hbits⟩ := toNat_of_unpack hx (by omega)
  have hbits : (x.toBits.toNat : Int) = (e + 1074) * 2 ^ 52 + m := hbits
  refine ⟨x.toBits.toNat - 1022 * 2 ^ 52, ?_⟩
  unfold Steps
  rcases hbounds with ⟨rfl, _⟩ | ⟨rfl, _⟩ <;> omega

theorem Steps.inj {x y : Float} {N : Nat} (hx : Steps x N) (hy : Steps y N) : x = y := by
  have hbits : x.toBits = y.toBits := by
    apply UInt64.toNat_inj.1
    rw [hx.2.2, hy.2.2]
  -- a binary64 value has no data but its bits
  obtain ⟨⟨b, _⟩⟩ := x
  obtain ⟨⟨c, _⟩⟩ := y
  obtain rfl : b = c := hbits
  rfl

theorem Steps.unique {x : Float} {N M : Nat} (hN : Steps x N) (hM : Steps x M) : N = M := by
  have hbits := hN.2.2.symm.trans hM.2.2
  omega

/-- How a scale below two is read: its steps are its significand. -/
theorem Steps.kindOf_of_lt {x : Float} {N : Nat} (h : Steps x N) (hlt : N < 2 ^ 53) :
    kindOf x = .finite ⟨false, N, 1022⟩ := by
  obtain ⟨hlow, -, hbits⟩ := h
  have hhidden : hiddenBit = 2 ^ 52 := rfl
  unfold kindOf
  simp only [hbits, hhidden]
  rw [if_neg (by omega), if_neg (by omega)]
  have hnegative : ¬ (1022 * 2 ^ 52 + N) / Nat.pow 2 63 = 1 := by
    show ¬ (1022 * 2 ^ 52 + N) / 2 ^ 63 = 1
    omega
  congr 2
  · simpa using hnegative
  · omega
  · omega

theorem steps_one : Steps 1.0 (2 ^ 52) := ⟨by decide, by decide, by decide⟩

theorem steps_two : Steps 2.0 (2 ^ 53) := ⟨by decide, by decide, by decide⟩

end ResponsiveGrid.Decimal
