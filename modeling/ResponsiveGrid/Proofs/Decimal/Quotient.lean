import Mathlib.Data.Rat.Floor
import Mathlib.Algebra.Order.Field.Power
import Mathlib.Tactic.Linarith
import Mathlib.Tactic.FieldSimp
import ResponsiveGrid.Decimal.Rounding
set_option autoImplicit false

/-!
# Decimal: quotients that rounding does not spoil

Layouts divide in binary64, add one half, and take the floor.  Both operations round.
Rounding never passes a number that has fifty-three binary digits itself
(`toBinary64_le`, `le_toBinary64`), and on both sides of a quotient there are such numbers
close enough to decide what its floor is.  `quotientHalfUp_eq` is that the result is that of
exact arithmetic, for all quotients of the size of a layout.
-/

namespace ResponsiveGrid.Decimal

/-! ## Rounding to whole numbers -/

/-- Rounding gives the whole number below or the one above, and the one above only when
something is left over. -/
theorem roundEven_cases (q : ℚ) :
    roundEven q = ⌊q⌋ ∨ roundEven q = ⌊q⌋ + 1 ∧ (⌊q⌋ : ℚ) < q := by
  have hfloor : q.floor = ⌊q⌋ := rfl
  unfold roundEven
  simp only
  rw [hfloor]
  split
  · exact .inl rfl
  · next hhalf =>
    have hrest : (⌊q⌋ : ℚ) < q := by linarith
    split
    · exact .inr ⟨rfl, hrest⟩
    · split
      · exact .inl rfl
      · exact .inr ⟨rfl, hrest⟩

theorem roundEven_le {q : ℚ} {m : ℤ} (h : q ≤ m) : roundEven q ≤ m := by
  rcases roundEven_cases q with hbelow | ⟨habove, hrest⟩
  · rw [hbelow]
    exact_mod_cast (Int.floor_le q).trans h
  · rw [habove]
    have hlt : (⌊q⌋ : ℚ) < m := hrest.trans_le h
    exact Int.add_one_le_of_lt (by exact_mod_cast hlt)

theorem le_roundEven {q : ℚ} {m : ℤ} (h : (m : ℚ) ≤ q) : m ≤ roundEven q := by
  have hfloor : m ≤ ⌊q⌋ := Int.le_floor.2 h
  rcases roundEven_cases q with hbelow | ⟨habove, -⟩
  · rw [hbelow]
    exact hfloor
  · rw [habove]
    omega

/-! ## The exponent of a number -/

theorem abs_eq_div (q : ℚ) : |q| = (q.num.natAbs : ℚ) / q.den := by
  rw [Rat.abs_def, Rat.divInt_eq_div]
  simp

theorem rat_abs_eq (q : ℚ) : q.abs = |q| := by
  unfold Rat.abs
  split
  · next h => rw [abs_of_nonneg h]
  · next h => rw [abs_of_neg (not_le.1 h)]

theorem two_zpow_binaryExponent_le {q : ℚ} (h : q ≠ 0) : (2 : ℚ) ^ binaryExponent q ≤ |q| := by
  unfold binaryExponent
  simp only
  split
  · let a := q.num.natAbs
    let b := q.den
    have ha : a ≠ 0 := by simpa [a] using h
    have hb : (0 : ℚ) < b := by exact_mod_cast q.den_pos
    have hlow : (2 : ℚ) ^ (Nat.log2 a : ℤ) ≤ a := by
      rw [zpow_natCast]
      exact_mod_cast Nat.log2_self_le ha
    have hhigh : (b : ℚ) ≤ 2 ^ ((Nat.log2 b : ℤ) + 1) := by
      rw [← Nat.cast_succ, zpow_natCast]
      exact_mod_cast Nat.lt_log2_self.le
    rw [abs_eq_div, le_div_iff₀ hb]
    calc (2 : ℚ) ^ ((Nat.log2 a : ℤ) - Nat.log2 b - 1) * b
        ≤ 2 ^ ((Nat.log2 a : ℤ) - Nat.log2 b - 1) * 2 ^ ((Nat.log2 b : ℤ) + 1) :=
          mul_le_mul_of_nonneg_left hhigh (by positivity)
      _ = 2 ^ (Nat.log2 a : ℤ) := by
          rw [← zpow_add₀ two_ne_zero]
          congr 1
          ring
      _ ≤ a := hlow
  · next hlarge =>
    rw [← rat_abs_eq]
    exact not_lt.1 hlarge

/-! ## Numbers with fifty-three binary digits -/

/-- A number that has at most fifty-three binary digits. -/
def Representable (y : ℚ) : Prop := ∃ a e : ℤ, |a| ≤ 2 ^ 53 ∧ y = a * 2 ^ e

theorem representable_int {a : ℤ} (h : |a| ≤ 2 ^ 53) : Representable a :=
  ⟨a, 0, h, by simp⟩

theorem representable_div {a : ℤ} (h : |a| ≤ 2 ^ 53) (n : ℕ) :
    Representable ((a : ℚ) / 2 ^ n) :=
  ⟨a, -n, h, by rw [zpow_neg, zpow_natCast, div_eq_mul_inv]⟩

/-- The least number with an exponent, in the unit that goes with this exponent. -/
theorem two_pow_mul_unit (k : ℤ) : (2 : ℚ) ^ 52 * 2 ^ (k - 52) = 2 ^ k := by
  rw [← zpow_natCast, ← zpow_add₀ two_ne_zero]
  congr 1
  simp

/-- What has fifty-three binary digits of a unit smaller than that of an exponent is not beyond
the least number with this exponent. -/
theorem abs_le_two_zpow {a e k : ℤ} (ha : |a| ≤ 2 ^ 53) (he : e < k - 52) :
    |(a : ℚ) * 2 ^ e| ≤ 2 ^ k := by
  have hcast : |(a : ℚ)| ≤ 2 ^ 53 := by exact_mod_cast ha
  have hpow : (2 : ℚ) ^ e ≤ 2 ^ (k - 52 - 1) := zpow_le_zpow_right₀ one_le_two (by omega)
  rw [abs_mul, abs_of_pos (show (0 : ℚ) < 2 ^ e by positivity)]
  calc |(a : ℚ)| * 2 ^ e ≤ 2 ^ 53 * 2 ^ (k - 52 - 1) := by gcongr
    _ = 2 ^ k := by
      rw [← two_pow_mul_unit k, zpow_sub₀ two_ne_zero]
      ring

/-- On the grid that a number is rounded to, there is a place between this number and any
number with fifty-three binary digits: the latter is on the grid itself, or else it is closer
to zero than the least number with this exponent. -/
theorem exists_between {x y : ℚ} (hx : x ≠ 0) (hy : Representable y) :
    ∃ m : ℤ,
      (x ≤ y → x ≤ m * 2 ^ (binaryExponent x - 52) ∧ m * 2 ^ (binaryExponent x - 52) ≤ y) ∧
      (y ≤ x → y ≤ m * 2 ^ (binaryExponent x - 52) ∧ m * 2 ^ (binaryExponent x - 52) ≤ x) := by
  obtain ⟨a, e, ha, rfl⟩ := hy
  have hlarge := two_zpow_binaryExponent_le hx
  let u : ℤ := binaryExponent x - 52
  by_cases he : u ≤ e
  · obtain ⟨n, hn⟩ := Int.le.dest he
    refine ⟨a * 2 ^ n, ?_⟩
    have hgrid : ((a * 2 ^ n : ℤ) : ℚ) * 2 ^ u = a * 2 ^ e := by
      rw [← hn, zpow_add₀ two_ne_zero, zpow_natCast]
      push_cast
      ring
    rw [hgrid]
    exact ⟨fun h => ⟨h, le_refl _⟩, fun h => ⟨le_refl _, h⟩⟩
  · -- the number is so small that the first number with the exponent of `x` lies between
    obtain ⟨hneg, hpos⟩ := abs_le.1 (abs_le_two_zpow ha (not_le.1 he))
    have hunit : (2 : ℚ) ^ 52 * 2 ^ u = 2 ^ binaryExponent x := two_pow_mul_unit _
    rcases le_or_gt 0 x with hsign | hsign
    · rw [abs_of_nonneg hsign] at hlarge
      have hgrid : ((2 ^ 52 : ℤ) : ℚ) * 2 ^ u = 2 ^ binaryExponent x := by
        rw [← hunit]
        norm_num
      refine ⟨2 ^ 52, ?_⟩
      rw [hgrid]
      exact ⟨fun h => ⟨h.trans hpos, hlarge.trans h⟩, fun _ => ⟨hpos, hlarge⟩⟩
    · rw [abs_of_neg hsign] at hlarge
      have hgrid : ((-2 ^ 52 : ℤ) : ℚ) * 2 ^ u = -2 ^ binaryExponent x := by
        rw [← hunit]
        norm_num
      refine ⟨-2 ^ 52, ?_⟩
      rw [hgrid]
      exact ⟨fun _ => ⟨by linarith, hneg⟩, fun h => ⟨by linarith, by linarith⟩⟩

theorem toBinary64_of_ne {x : ℚ} (hx : x ≠ 0) :
    toBinary64 x = roundEven (x / 2 ^ (binaryExponent x - 52)) * 2 ^ (binaryExponent x - 52) := by
  unfold toBinary64
  rw [if_neg hx]

/-- Rounding does not pass a number with fifty-three binary digits above. -/
theorem toBinary64_le {x y : ℚ} (hy : Representable y) (h : x ≤ y) : toBinary64 x ≤ y := by
  by_cases hx : x = 0
  · rw [hx] at h ⊢
    exact h
  · obtain ⟨m, hm, -⟩ := exists_between hx hy
    obtain ⟨hle, hge⟩ := hm h
    have hunit : (0 : ℚ) < 2 ^ (binaryExponent x - 52) := by positivity
    have hround := roundEven_le ((div_le_iff₀ hunit).2 hle)
    rw [toBinary64_of_ne hx]
    refine le_trans ?_ hge
    exact mul_le_mul_of_nonneg_right (by exact_mod_cast hround) hunit.le

/-- Rounding does not pass a number with fifty-three binary digits below. -/
theorem le_toBinary64 {x y : ℚ} (hy : Representable y) (h : y ≤ x) : y ≤ toBinary64 x := by
  by_cases hx : x = 0
  · rw [hx] at h ⊢
    exact h
  · obtain ⟨m, -, hm⟩ := exists_between hx hy
    obtain ⟨hge, hle⟩ := hm h
    have hunit : (0 : ℚ) < 2 ^ (binaryExponent x - 52) := by positivity
    have hround := le_roundEven ((le_div_iff₀ hunit).2 hle)
    rw [toBinary64_of_ne hx]
    refine hge.trans ?_
    exact mul_le_mul_of_nonneg_right (by exact_mod_cast hround) hunit.le

/-! ## Quotients -/

/-- The largest divisor that is considered. -/
def divisorLimit : ℕ := 2 ^ 10

/-- The largest dividend that is considered. -/
def dividendLimit : ℤ := 2 ^ 40

/-- A quotient that is rounded up at one half and more is below the next half by more than
nothing. -/
theorem quotient_le_of_floor {n : ℤ} {d : ℕ} (hd : 1 ≤ d) (hlimit : d ≤ divisorLimit) :
    (n : ℚ) / d ≤ ⌊(n : ℚ) / d + 1 / 2⌋ + 1 / 2 - 1 / 2 ^ 11 := by
  let k := ⌊(n : ℚ) / d + 1 / 2⌋
  have hpos : (0 : ℚ) < d := by exact_mod_cast hd
  have hlt : (n : ℚ) / d + 1 / 2 < k + 1 := Int.lt_floor_add_one _
  have hwhole : 2 * n + 1 ≤ (2 * k + 1) * d := by
    have hlt : (2 * n : ℚ) < (2 * k + 1) * d := by
      have hquotient : (n : ℚ) / d < (2 * k + 1) / 2 := by linarith
      rw [div_lt_iff₀ hpos] at hquotient
      linarith
    exact_mod_cast hlt
  have hrest : (d : ℚ) / 2 ^ 10 ≤ 1 := by
    rw [div_le_one (by positivity)]
    exact_mod_cast hlimit
  have hwhole : (2 * n + 1 : ℚ) ≤ (2 * k + 1) * d := by exact_mod_cast hwhole
  rw [div_le_iff₀ hpos]
  show (n : ℚ) ≤ (k + 1 / 2 - 1 / 2 ^ 11) * d
  have hsplit : ((k : ℚ) + 1 / 2 - 1 / 2 ^ 11) * d = ((2 * k + 1) * d - d / 2 ^ 10) / 2 := by ring
  rw [hsplit]
  linarith

theorem abs_floor_le {n : ℤ} {d : ℕ} (hd : 1 ≤ d) (hn : |n| ≤ dividendLimit) :
    |⌊(n : ℚ) / d + 1 / 2⌋| ≤ 2 ^ 41 := by
  have hpos : (1 : ℚ) ≤ d := by exact_mod_cast hd
  have hsize : |(n : ℚ) / d| ≤ 2 ^ 40 := by
    have hnumber : |(n : ℚ)| ≤ 2 ^ 40 := by exact_mod_cast hn
    rw [abs_div, abs_of_pos (show (0 : ℚ) < d by linarith)]
    exact (div_le_self (abs_nonneg _) hpos).trans hnumber
  obtain ⟨hneg, hpos⟩ := abs_le.1 hsize
  rw [abs_le]
  constructor
  · refine Int.le_floor.2 ?_
    push_cast
    linarith
  · have hfloor : (⌊(n : ℚ) / d + 1 / 2⌋ : ℚ) ≤ 2 ^ 41 := (Int.floor_le _).trans (by linarith)
    exact_mod_cast hfloor

/-- Dividing in binary64, adding one half, and taking the floor gives what exact arithmetic
gives. -/
theorem quotientHalfUp_eq {n : ℤ} {d : ℕ} (hd : 1 ≤ d) (hlimit : d ≤ divisorLimit)
    (hn : |n| ≤ dividendLimit) : quotientHalfUp n d = ⌊(n : ℚ) / d + 1 / 2⌋ := by
  let k := ⌊(n : ℚ) / d + 1 / 2⌋
  have hlow : (k : ℚ) - 1 / 2 ≤ (n : ℚ) / d := by
    have hfloor : (k : ℚ) ≤ (n : ℚ) / d + 1 / 2 := Int.floor_le _
    linarith
  have hhigh : (n : ℚ) / d ≤ k + 1 / 2 - 1 / 2 ^ 11 := quotient_le_of_floor hd hlimit
  have hk : |k| ≤ 2 ^ 41 := abs_floor_le hd hn
  obtain ⟨hneg, hpos⟩ := abs_le.1 hk
  let r := toBinary64 ((n : ℚ) / d)
  -- the halves around `k`, and `k` and what is next to its successor, all have few digits
  have hrlow : (k : ℚ) - 1 / 2 ≤ r := by
    refine le_toBinary64 ?_ hlow
    have hhalf : (k : ℚ) - 1 / 2 = ((2 * k - 1 : ℤ) : ℚ) / 2 ^ 1 := by
      push_cast
      ring
    rw [hhalf]
    exact representable_div (abs_le.2 ⟨by omega, by omega⟩) 1
  have hrhigh : r ≤ k + 1 / 2 - 1 / 2 ^ 11 := by
    refine toBinary64_le ?_ hhigh
    have hbelow : (k : ℚ) + 1 / 2 - 1 / 2 ^ 11 = ((2 ^ 11 * k + 2 ^ 10 - 1 : ℤ) : ℚ) / 2 ^ 11 := by
      push_cast
      ring
    rw [hbelow]
    exact representable_div (abs_le.2 ⟨by omega, by omega⟩) 11
  have hslow : (k : ℚ) ≤ toBinary64 (r + 1 / 2) :=
    le_toBinary64 (representable_int (abs_le.2 ⟨by omega, by omega⟩)) (by linarith)
  have hshigh : toBinary64 (r + 1 / 2) ≤ k + 1 - 1 / 2 ^ 11 := by
    refine toBinary64_le ?_ (by linarith)
    have hbelow : (k : ℚ) + 1 - 1 / 2 ^ 11 = ((2 ^ 11 * k + 2 ^ 11 - 1 : ℤ) : ℚ) / 2 ^ 11 := by
      push_cast
      ring
    rw [hbelow]
    exact representable_div (abs_le.2 ⟨by omega, by omega⟩) 11
  have hfloor : ⌊toBinary64 (r + 1 / 2)⌋ = k := by
    rw [Int.floor_eq_iff]
    exact ⟨hslow, by linarith⟩
  exact hfloor

/-- A quotient is rounded to a whole number when it is at most one half away from it, where of
the two halves only the one below counts. -/
theorem quotientHalfUp_eq_iff {n q : ℤ} {d : ℕ} (hd : 1 ≤ d) (hlimit : d ≤ divisorLimit)
    (hn : |n| ≤ dividendLimit) :
    quotientHalfUp n d = q ↔ 2 * n - d < 2 * d * q ∧ 2 * d * q ≤ 2 * n + d := by
  have hpos : (0 : ℚ) < 2 * d := by
    have hcast : (1 : ℚ) ≤ d := by exact_mod_cast hd
    linarith
  have hsum : (n : ℚ) / d + 1 / 2 = ((2 * n + d : ℤ) : ℚ) / (2 * d) := by
    have hne : (d : ℚ) ≠ 0 := by linarith
    push_cast
    field_simp
  have hlow : (q : ℚ) ≤ (n : ℚ) / d + 1 / 2 ↔ q * (2 * d) ≤ 2 * n + d := by
    rw [hsum, le_div_iff₀ hpos]
    norm_cast
  have hhigh : (n : ℚ) / d + 1 / 2 < q + 1 ↔ 2 * n + d < (q + 1) * (2 * d) := by
    rw [hsum, div_lt_iff₀ hpos]
    norm_cast
  rw [quotientHalfUp_eq hd hlimit hn, Int.floor_eq_iff, hlow, hhigh]
  constructor
  · rintro ⟨hle, hlt⟩
    constructor <;> linarith
  · rintro ⟨hlt, hle⟩
    constructor <;> linarith

end ResponsiveGrid.Decimal
