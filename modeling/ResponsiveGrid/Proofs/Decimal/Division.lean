import Mathlib.Tactic.Linarith
import Mathlib.Tactic.Ring
import ResponsiveGrid.Proofs.Decimal.Scale
set_option autoImplicit false

/-!
# Decimal: quotients of binary64 values

A whole number that becomes a binary64 value is cut to fifty-three binary digits, and so
is the quotient of two of them.  Both are the nearest whole number to a fraction
(`nearestWhole`), counted in the right unit.  The bits that are shifted out of a mantissa
are kept as the accuracy of a fraction (`extended`), and a shift to the right doubles the
denominator of that fraction: this is all that has to be known about shifting.

`kept` is what is left of a whole number, and `steps_div` says which scale a quotient
between one and two is.
-/

namespace ResponsiveGrid.Decimal

open Float.Model Float.Model.UnpackedFloat

/-! ## The nearest whole number -/

/-- The whole number nearest to `a / b`; of two equally near ones the even one. -/
def nearestWhole (a b : Nat) : Nat :=
  let below := a / b
  let twice := 2 * (a % b)
  if twice < b then below
  else if b < twice then below + 1
  else below + below % 2

theorem nearestWhole_mul (n : Nat) {b : Nat} (hb : 0 < b) : nearestWhole (n * b) b = n := by
  unfold nearestWhole
  simp only [Nat.mul_div_cancel n hb, Nat.mul_mod_left, Nat.mul_zero]
  rw [if_pos hb]

theorem nearestWhole_one (n : Nat) : nearestWhole n 1 = n := by
  have hself := nearestWhole_mul n Nat.one_pos
  rwa [Nat.mul_one] at hself

theorem nearestWhole_mul_mul (a b : Nat) {c : Nat} (hc : 0 < c) :
    nearestWhole (c * a) (c * b) = nearestWhole a b := by
  have htwice : 2 * (c * (a % b)) = c * (2 * (a % b)) := Nat.mul_left_comm 2 c (a % b)
  unfold nearestWhole
  simp only [Nat.mul_div_mul_left a b hc, Nat.mul_mod_mul_left, htwice, Nat.mul_lt_mul_left hc]

theorem nearestWhole_congr {a b c d : Nat} (hb : 0 < b) (hd : 0 < d) (h : a * d = c * b) :
    nearestWhole a b = nearestWhole c d := by
  calc nearestWhole a b = nearestWhole (d * a) (d * b) := (nearestWhole_mul_mul a b hd).symm
    _ = nearestWhole (b * c) (b * d) := by
      rw [Nat.mul_comm d a, h, Nat.mul_comm c b, Nat.mul_comm d b]
    _ = nearestWhole c d := nearestWhole_mul_mul c d hb

/-- The nearest whole number is one of the two neighbours. -/
theorem nearestWhole_bounds (a b : Nat) :
    a / b ≤ nearestWhole a b ∧ nearestWhole a b ≤ a / b + 1 := by
  unfold nearestWhole
  simp only
  split
  · omega
  · split <;> omega

/-- A quotient of at most two is at most two after rounding, whatever the unit. -/
theorem nearestWhole_le_double {a b : Nat} (hb : 0 < b) (h : a ≤ 2 * b) :
    nearestWhole (a * 2 ^ 52) b ≤ 2 ^ 53 := by
  rcases Nat.eq_or_lt_of_le h with rfl | hlt
  · have hwhole : 2 * b * 2 ^ 52 = 2 ^ 53 * b := by ring
    rw [hwhole, nearestWhole_mul _ hb]
  · have hbelow : a * 2 ^ 52 / b < 2 ^ 53 := (Nat.div_lt_iff_lt_mul hb).2 (by omega)
    have hnext := (nearestWhole_bounds (a * 2 ^ 52) b).2
    omega

/-- The nearest whole number is at most half away, and less than that when it is odd. -/
theorem nearestWhole_near (a : Nat) {b : Nat} (hb : 0 < b) (hle : b ≤ a) :
    (2 * nearestWhole a b - 1) * b ≤ 2 * a ∧ 2 * a ≤ (2 * nearestWhole a b + 1) * b ∧
      (nearestWhole a b % 2 = 1 →
        (2 * nearestWhole a b - 1) * b < 2 * a ∧ 2 * a < (2 * nearestWhole a b + 1) * b) := by
  have hdiv := Nat.div_add_mod a b
  have hmod := Nat.mod_lt a hb
  have hpos : 0 < a / b := Nat.div_pos hle hb
  have hsplit : ∀ n, 0 < n → (2 * n - 1) * b + b = 2 * (b * n) ∧
      (2 * n + 1) * b = 2 * (b * n) + b := by
    intro n hn
    obtain ⟨m, rfl⟩ : ∃ m, n = m + 1 := ⟨n - 1, by omega⟩
    have hodd : 2 * (m + 1) - 1 = 2 * m + 1 := by omega
    rw [hodd]
    constructor <;> ring
  have hsucc : b * (a / b + 1) = b * (a / b) + b := Nat.mul_succ b (a / b)
  have hbelow := hsplit (a / b) hpos
  have habove := hsplit (a / b + 1) (by omega)
  unfold nearestWhole
  simp only
  split
  · omega
  · split
    · omega
    · rcases Nat.mod_two_eq_zero_or_one (a / b) with heven | hodd
      · rw [heven, Nat.add_zero]
        omega
      · rw [hodd]
        omega

/-! ## Shifting -/

/-- A mantissa for the fraction `a / b`: its whole part, and what is left as the two bits
behind it. -/
def extended (a b : Nat) : ExtendedMantissa :=
  .ofMantissaAndAccuracy (a / b) (accuracyOfFraction (a % b) b)

/-- What is kept for a fraction are its whole part and two comparisons of the rest. -/
theorem extended_eq (a : Nat) {b : Nat} (hb : 0 < b) :
    extended a b = ⟨a / b, decide (b ≤ 2 * (a % b)), decide (a % b ≠ 0 ∧ 2 * (a % b) ≠ b)⟩ := by
  unfold extended accuracyOfFraction
  split
  · next hzero =>
    rw [hzero]
    simp [ExtendedMantissa.ofMantissaAndAccuracy, Nat.not_le.2 hb]
  · next hne =>
    cases hcompare : compare (2 * (a % b)) b with
    | lt =>
      have hlt := Nat.compare_eq_lt.1 hcompare
      simp [ExtendedMantissa.ofMantissaAndAccuracy]
      omega
    | eq =>
      have heq := Nat.compare_eq_eq.1 hcompare
      simp [ExtendedMantissa.ofMantissaAndAccuracy]
      omega
    | gt =>
      have hgt := Nat.compare_eq_gt.1 hcompare
      simp [ExtendedMantissa.ofMantissaAndAccuracy]
      omega

/-- One shift doubles the denominator. -/
theorem shiftRightOne_extended (a : Nat) {b : Nat} (hb : 0 < b) :
    (extended a b).shiftRightOne = extended a (b * 2) := by
  have hmod : a % (b * 2) = a % b + b * (a / b % 2) := Nat.mod_mul
  have hlt := Nat.mod_lt a hb
  rw [extended_eq a hb, extended_eq a (Nat.mul_pos hb Nat.two_pos)]
  unfold ExtendedMantissa.shiftRightOne
  rw [hmod, ← Nat.div_div_eq_div_mul]
  rcases Nat.mod_two_eq_zero_or_one (a / b) with heven | hodd
  · rw [heven]
    simp
    constructor <;> grind
  · rw [hodd]
    simp
    grind

theorem shiftRight_extended (a : Nat) {b : Nat} (hb : 0 < b) (k : Nat) :
    extended a b >>> k = extended a (b * 2 ^ k) := by
  induction k with
  | zero =>
    rw [Nat.pow_zero, Nat.mul_one]
    rfl
  | succ k ih =>
    have hsucc : extended a b >>> (k + 1) = (extended a b >>> k).shiftRightOne := rfl
    rw [hsucc, ih, shiftRightOne_extended a (Nat.mul_pos hb (Nat.two_pow_pos k)), Nat.pow_succ,
      Nat.mul_assoc]

theorem roundedMantissa_extended (a : Nat) {b : Nat} (hb : 0 < b) :
    (extended a b).roundedMantissa = nearestWhole a b := by
  have haccuracy : ∀ m accuracy,
      (ExtendedMantissa.ofMantissaAndAccuracy m accuracy).roundedMantissa =
        accuracy.roundToNearestEven m := by
    intro m accuracy
    rcases accuracy with _ | _ | _ | _ <;> rfl
  unfold extended
  rw [haccuracy]
  unfold accuracyOfFraction nearestWhole
  simp only
  split
  · next hzero =>
    rw [if_pos (by omega)]
    rfl
  · next hne =>
    cases hcompare : compare (2 * (a % b)) b with
    | lt => rw [if_pos (Nat.compare_eq_lt.1 hcompare)]; rfl
    | eq =>
      have heq := Nat.compare_eq_eq.1 hcompare
      rw [if_neg (by omega), if_neg (by omega)]
      rfl
    | gt =>
      have hgt := Nat.compare_eq_gt.1 hcompare
      rw [if_neg (by omega), if_pos hgt]
      rfl

/-! ## Values of fifty-three binary digits -/

/-- The value is `m * 2 ^ e`, where `m` has fifty-three binary digits. -/
def Normal (x : Float) (m : Nat) (e : Int) : Prop :=
  2 ^ 52 ≤ m ∧ m < 2 ^ 53 ∧ ∃ h, x.toModel.unpack = .finite .positive m e h

theorem pack_positive {m : Nat} {e : Int} (h : 0 < m) (hlog : m.log2 = 52) (he : -1074 ≤ e)
    (he' : e ≤ 971) :
    UnpackedFloat.pack Format.binary64 (.finite .positive m e h) =
      packComponents Format.binary64 .positive (BitVec.ofNat 11 (e + 1023 + 52).toNat)
        (BitVec.ofNat 52 m) := by
  have hsmall : ¬ 2 ^ 11 ≤ (e + 1023 + 52).toNat + 1 := by omega
  unfold UnpackedFloat.pack
  simp only [hlog]
  exact (if_neg hsmall).trans (if_pos rfl)

/-- An exponent field that is neither the least nor the greatest puts a one in front of the
mantissa. -/
theorem unpack_packComponents {field : BitVec 11} {mantissa : BitVec 52} {m : Nat} {e : Int}
    (h : 0 < m) (htop : field ≠ -1#11) (hbottom : field ≠ 0#11)
    (hm : (1#1 ++ mantissa).toNat = m) (he : (field.toNat : Int) - (1023 + 52) = e) :
    UnpackedFloat.unpack Format.binary64 (packComponents Format.binary64 .positive field mantissa) =
      .finite .positive m e h := by
  obtain ⟨b, hb⟩ : ∃ b, packComponents Format.binary64 .positive field mantissa = b := ⟨_, rfl⟩
  have hsign : unpackSign b = 0#1 := hb ▸ unpackSign_positive field mantissa
  have hfield : unpackExponent b = field := hb ▸ unpackExponent_packComponents
  have hmantissa : unpackMantissa b = mantissa := hb ▸ unpackMantissa_packComponents
  rw [hb]
  unfold UnpackedFloat.unpack
  dsimp only
  rw [if_neg (hfield ▸ htop), if_neg (hfield ▸ hbottom), UnpackedFloat.finite.injEq, hsign, hfield,
    hmantissa]
  exact ⟨rfl, hm, he⟩

theorem unpack_pack {m : Nat} {e : Int} (h : 0 < m) (hlow : 2 ^ 52 ≤ m) (hhigh : m < 2 ^ 53)
    (he : -1074 ≤ e) (he' : e ≤ 971) :
    (Float.Model.pack (.finite .positive m e h)).unpack = .finite .positive m e h := by
  have hlog : m.log2 = 52 := (Nat.log2_eq_iff (by omega)).2 ⟨hlow, hhigh⟩
  have hfield : (BitVec.ofNat 11 (e + 1023 + 52).toNat).toNat = (e + 1075).toNat := by
    show (e + 1023 + 52).toNat % 2 ^ 11 = (e + 1075).toNat
    omega
  have hmantissa : (1#1 ++ BitVec.ofNat 52 m).toNat = m := by
    rw [BitVec.toNat_append, ← Nat.shiftLeft_add_eq_or_of_lt (BitVec.ofNat 52 m).isLt]
    show 2 ^ 52 + m % 2 ^ 52 = m
    omega
  show UnpackedFloat.unpack Format.binary64 (UnpackedFloat.pack Format.binary64 _) = _
  rw [pack_positive h hlog he he']
  refine unpack_packComponents h ?_ ?_ hmantissa (by omega)
  · intro heq
    have hvalue := congrArg BitVec.toNat heq
    rw [hfield] at hvalue
    have htop : (e + 1075).toNat = 2047 := hvalue
    omega
  · intro heq
    have hvalue := congrArg BitVec.toNat heq
    rw [hfield] at hvalue
    have hbottom : (e + 1075).toNat = 0 := hvalue
    omega

theorem shiftToTargetExponent_extended {a b k : Nat} {e : Int} (hb : 0 < b)
    (hlow : 2 ^ (52 + k) ≤ a / b) (hhigh : a / b < 2 ^ (53 + k)) (he : -1074 ≤ e + k) :
    shiftToTargetExponent Format.binary64 (a / b) e (accuracyOfFraction (a % b) b) =
      (extended a (b * 2 ^ k), e + k) := by
  have hpos := Nat.two_pow_pos (52 + k)
  have hnext : 52 + k + 1 = 53 + k := by omega
  have hlog : (a / b).log2 = 52 + k :=
    (Nat.log2_eq_iff (by omega)).2 ⟨hlow, by rwa [hnext]⟩
  have htarget : Format.binary64.targetExponent (totalExponent (a / b) e) = e + k := by
    unfold Format.targetExponent totalExponent
    rw [hlog]
    show max ((52 + k : Nat) + 1 + e - 53) (-1074) = e + k
    omega
  have hamount : (e + (k : Int) - e).toNat = k := by omega
  unfold shiftToTargetExponent shiftToExponent
  simp only [htarget, hamount]
  rw [← shiftRight_extended a hb k]
  rfl

/-- A whole number is a fraction of which nothing is left. -/
theorem shiftToTargetExponent_exact {n k : Nat} {e : Int} (hlow : 2 ^ (52 + k) ≤ n)
    (hhigh : n < 2 ^ (53 + k)) (he : -1074 ≤ e + k) :
    shiftToTargetExponent Format.binary64 n e .exact = (extended n (2 ^ k), e + k) := by
  have hone := shiftToTargetExponent_extended (a := n) (b := 1) (e := e) Nat.one_pos
    (by rwa [Nat.div_one]) (by rwa [Nat.div_one]) he
  rwa [Nat.div_one, Nat.mod_one, Nat.one_mul] at hone

/-- A mantissa is shifted, rounded, and shifted once more. -/
theorem roundWithAccuracy_eq {m n l : Nat} {e f g : Int} {accuracy : Accuracy}
    {x y : ExtendedMantissa} (hl : 0 < l)
    (hshift : shiftToTargetExponent Format.binary64 m e accuracy = (x, f))
    (hround : x.roundedMantissa = n)
    (hagain : shiftToTargetExponent Format.binary64 n f .exact = (y, g)) (hy : y.mantissa = l) :
    roundWithAccuracy Format.binary64 .positive m e accuracy = .finite .positive l g hl := by
  subst hround hy
  unfold roundWithAccuracy
  rw [hshift]
  dsimp only
  rw [hagain]
  exact dif_neg (Nat.pos_iff_ne_zero.1 hl)

/-- Rounding a mantissa with `k` digits too many makes it the nearest whole number.  When
that has become too long by one digit, it is halved. -/
theorem roundWithAccuracy_extended {a b k : Nat} {e : Int} (hb : 0 < b)
    (hlow : 2 ^ (52 + k) ≤ a / b) (hhigh : a / b < 2 ^ (53 + k)) (he : -1074 ≤ e + k) :
    ∃ m j h, roundWithAccuracy Format.binary64 .positive (a / b) e
        (accuracyOfFraction (a % b) b) = .finite .positive m (e + k + (j : Nat)) h ∧
      2 ^ 52 ≤ m ∧ m < 2 ^ 53 ∧ j ≤ 1 ∧ m * 2 ^ j = nearestWhole a (b * 2 ^ k) := by
  have hk := Nat.two_pow_pos k
  have hfloor : a / (b * 2 ^ k) = a / b / 2 ^ k := (Nat.div_div_eq_div_mul a b (2 ^ k)).symm
  have hleast : 2 ^ 52 ≤ a / b / 2 ^ k := by
    rwa [Nat.le_div_iff_mul_le hk, ← Nat.pow_add]
  have hmost : a / b / 2 ^ k < 2 ^ 53 := by
    rwa [Nat.div_lt_iff_lt_mul hk, ← Nat.pow_add]
  have hbounds := nearestWhole_bounds a (b * 2 ^ k)
  rw [hfloor] at hbounds
  obtain ⟨n, hn⟩ : ∃ n, nearestWhole a (b * 2 ^ k) = n := ⟨_, rfl⟩
  have hround : (extended a (b * 2 ^ k)).roundedMantissa = n :=
    (roundedMantissa_extended a (Nat.mul_pos hb hk)).trans hn
  have hmantissa : ∀ n j, (extended n (2 ^ j)).mantissa = n / 2 ^ j := by
    intro n j
    rw [extended_eq n (Nat.two_pow_pos j)]
  have hshift := shiftToTargetExponent_extended hb hlow hhigh he
  rw [hn] at hbounds ⊢
  rcases Nat.lt_or_ge n (2 ^ 53) with hlt | hge
  · have hagain := shiftToTargetExponent_exact (n := n) (k := 0) (e := e + k)
      (by omega) (by omega) (by omega)
    have hwhole : (extended n (2 ^ 0)).mantissa = n := by
      rw [hmantissa, Nat.pow_zero, Nat.div_one]
    exact ⟨n, 0, by omega, roundWithAccuracy_eq (by omega) hshift hround hagain hwhole, by omega,
      hlt, by omega, by omega⟩
  · have hpower : n = 2 ^ 53 := by omega
    have hagain := shiftToTargetExponent_exact (n := n) (k := 1) (e := e + k)
      (by omega) (by omega) (by omega)
    have hhalf : (extended n (2 ^ 1)).mantissa = 2 ^ 52 := by
      rw [hmantissa]
      omega
    exact ⟨2 ^ 52, 1, by omega, roundWithAccuracy_eq (by omega) hshift hround hagain hhalf,
      by omega, by omega, by omega, by omega⟩

theorem normal_of_round {x : Float} {a b k : Nat} {e : Int} (hb : 0 < b)
    (hlow : 2 ^ (52 + k) ≤ a / b) (hhigh : a / b < 2 ^ (53 + k)) (he : -1074 ≤ e + k)
    (he' : e + k ≤ 970)
    (hx : x.toModel = Float.Model.pack (roundWithAccuracy Format.binary64 .positive (a / b) e
      (accuracyOfFraction (a % b) b))) :
    ∃ m j, Normal x m (e + k + (j : Nat)) ∧ j ≤ 1 ∧ m * 2 ^ j = nearestWhole a (b * 2 ^ k) := by
  obtain ⟨m, j, h, hround, hm, hm', hj, hvalue⟩ := roundWithAccuracy_extended hb hlow hhigh he
  refine ⟨m, j, ⟨hm, hm', h, ?_⟩, hj, hvalue⟩
  rw [hx, hround]
  exact unpack_pack h hm hm' (by omega) (by omega)

/-! ## Whole numbers as binary64 values -/

/-- What is left of a whole number when it is cut to fifty-three binary digits. -/
def kept (n : Nat) : Nat :=
  let unit := 2 ^ (n.log2 - 52)
  nearestWhole n unit * unit

theorem kept_of_lt {n : Nat} (h : n < 2 ^ 53) : kept n = n := by
  have hlog : n.log2 ≤ 52 := by
    rcases Nat.eq_zero_or_pos n with rfl | hpos
    · decide
    · exact Nat.le_of_lt_succ ((Nat.log2_lt (by omega)).2 h)
  unfold kept
  rw [Nat.sub_eq_zero_of_le hlog]
  simp only [Nat.pow_zero, Nat.mul_one]
  exact nearestWhole_one n

/-- A whole number of `d + 1` binary digits is made longer when it is too short, and rounded
when it is too long. -/
theorem toModel_toFloat {n d : Nat} (hd : n.log2 = d) (hpos : 0 < n) (hlt : n < 2 ^ 64) :
    (UInt64.ofNat n).toFloat.toModel = Float.Model.pack (roundWithAccuracy Format.binary64
      .positive (n * 2 ^ (52 - d) / 1) (-((52 - d : Nat) : Int))
        (accuracyOfFraction (n * 2 ^ (52 - d) % 1) 1)) := by
  have hvalue : (UInt64.ofNat n).toNat = n := UInt64.toNat_ofNat_of_lt' hlt
  have hcompare : compare ((n : Nat) : Int) 0 = .gt := Int.compare_eq_gt.2 (by omega)
  have htarget : Format.binary64.targetExponent (totalExponent n 0) = (d : Int) - 52 := by
    unfold Format.targetExponent totalExponent
    rw [hd]
    show max (((d : Nat) : Int) + 1 + 0 - 53) (-1074) = (d : Int) - 52
    omega
  have hamount : (0 - ((d : Int) - 52)).toNat = 52 - d := by omega
  show Float.Model.pack
    (UnpackedFloat.normalize Format.binary64 (UInt64.ofNat n).toNat 0 .positive) = _
  unfold UnpackedFloat.normalize
  rw [hvalue, hcompare]
  simp only [Int.toNat_natCast]
  unfold UnpackedFloat.round decreaseExponent
  simp only [htarget, hamount]
  simp only [Nat.shiftLeft_eq, Nat.div_one, Nat.mod_one, Int.zero_sub]
  rfl

theorem normal_toFloat {n : Nat} (hpos : 0 < n) (hlt : n < 2 ^ 64) :
    ∃ m f : Nat, Normal (UInt64.ofNat n).toFloat m ((f : Int) - 52) ∧
      m * 2 ^ f = kept n * 2 ^ 52 := by
  obtain ⟨d, hd⟩ : ∃ d, n.log2 = d := ⟨_, rfl⟩
  obtain ⟨hleast, hmost⟩ := (Nat.log2_eq_iff (by omega)).1 hd
  have hdigits : d < 64 := by
    rw [← hd]
    exact (Nat.log2_lt (by omega)).2 hlt
  have hround := toModel_toFloat hd hpos hlt
  -- one of the two shifts is by nothing
  obtain ⟨s, hs⟩ : ∃ s, 52 - d = s := ⟨_, rfl⟩
  obtain ⟨k, hk⟩ : ∃ k, d - 52 = k := ⟨_, rfl⟩
  rw [hs] at hround
  have hlow : 2 ^ (52 + k) ≤ n * 2 ^ s / 1 := by
    rw [Nat.div_one, show 52 + k = d + s by omega, Nat.pow_add]
    exact Nat.mul_le_mul_right _ hleast
  have hhigh : n * 2 ^ s / 1 < 2 ^ (53 + k) := by
    rw [Nat.div_one, show 53 + k = d + 1 + s by omega, Nat.pow_add]
    exact Nat.mul_lt_mul_of_pos_right hmost (Nat.two_pow_pos s)
  obtain ⟨m, j, hnormal, hj, hm⟩ :=
    normal_of_round Nat.one_pos hlow hhigh (by omega) (by omega) hround
  refine ⟨m, d + j, ?_, ?_⟩
  · have hexponent : -(s : Int) + k + (j : Nat) = ((d + j : Nat) : Int) - 52 := by omega
    rwa [hexponent] at hnormal
  · unfold kept
    simp only [hd, hk]
    rw [Nat.one_mul] at hm
    rw [Nat.pow_add, Nat.mul_comm (2 ^ d), ← Nat.mul_assoc, hm]
    rcases Nat.le_total d 52 with hle | hge
    · have hzero : k = 0 := by omega
      rw [hzero, Nat.pow_zero, nearestWhole_one, nearestWhole_one, Nat.mul_one, Nat.mul_assoc,
        ← Nat.pow_add, show s + d = 52 by omega]
    · have hzero : s = 0 := by omega
      rw [hzero, Nat.pow_zero, Nat.mul_one, Nat.mul_assoc, ← Nat.pow_add,
        show k + 52 = d by omega]

/-! ## Quotients -/

theorem Normal.toBits_toNat {x : Float} {m : Nat} {e : Int} (h : Normal x m e) (he : -1074 < e) :
    (x.toBits.toNat : Int) = (e + 1074) * 2 ^ 52 + m := by
  obtain ⟨-, -, hm, hx⟩ := h
  exact (toNat_of_unpack hx he).2.2

theorem steps_of_normal {x : Float} {m j k N : Nat} {e : Int} (h : Normal x m (e + (j : Nat)))
    (hj : j ≤ 1) (he : e = (k : Int) - 52) (hk : k ≤ 1) (hN : m * 2 ^ j * 2 ^ k = N)
    (hhigh : N ≤ 2 ^ 53) : Steps x N := by
  have hbits := h.toBits_toNat (by omega)
  obtain ⟨hlow, -, -⟩ := h
  have hcases : (j = 0 ∨ j = 1) ∧ (k = 0 ∨ k = 1) := by omega
  unfold Steps
  rcases hcases with ⟨rfl | rfl, rfl | rfl⟩ <;> omega

theorem Steps.normal {x : Float} {N : Nat} (h : Steps x N) (hhigh : N < 2 ^ 53) :
    Normal x N (-52) := by
  have hpos : 0 < N := Nat.lt_of_lt_of_le (Nat.two_pow_pos 52) h.1
  let y : Float := ⟨Float.Model.pack (.finite .positive N (-52) hpos)⟩
  have hy : Normal y N (-52) :=
    ⟨h.1, hhigh, hpos, unpack_pack hpos h.1 hhigh (by decide) (by decide)⟩
  have hbits := hy.toBits_toNat (by decide)
  have hsteps : Steps y N := ⟨h.1, h.2.1, by omega⟩
  rwa [h.inj hsteps]

theorem Steps.between {x : Float} {N : Nat} (h : Steps x N) : 1.0 ≤ x ∧ x ≤ 2.0 := by
  rcases Nat.lt_or_ge N (2 ^ 53) with hlt | hge
  · obtain ⟨hlow, hhigh, hm, hx⟩ := h.normal hlt
    have hone : (1.0 : Float).toModel.unpack = .finite .positive (2 ^ 52) (-52) (by decide) := rfl
    have htwo : (2.0 : Float).toModel.unpack = .finite .positive (2 ^ 52) (-51) (by decide) := rfl
    rw [float_le_iff, float_le_iff, hx, hone, htwo, positive_le_iff, positive_le_iff]
    omega
  · have heq : N = 2 ^ 53 := Nat.le_antisymm h.2.1 hge
    have htwo : x = 2.0 := Steps.inj (heq ▸ h) steps_two
    rw [htwo]
    decide +kernel

theorem exponents_of_quotient {m₁ m₂ f₁ f₂ A B : Nat} (hm₁ : 2 ^ 52 ≤ m₁ ∧ m₁ < 2 ^ 53)
    (hm₂ : 2 ^ 52 ≤ m₂ ∧ m₂ < 2 ^ 53) (hA : m₁ * 2 ^ f₁ = A * 2 ^ 52)
    (hB : m₂ * 2 ^ f₂ = B * 2 ^ 52) (hlow : B ≤ A) (hhigh : A ≤ 2 * B) :
    f₁ = f₂ ∧ m₂ ≤ m₁ ∨ f₁ = f₂ + 1 ∧ m₁ ≤ m₂ := by
  have hle : m₂ * 2 ^ f₂ ≤ m₁ * 2 ^ f₁ := by
    rw [hA, hB]
    exact Nat.mul_le_mul_right _ hlow
  have hle' : m₁ * 2 ^ f₁ ≤ 2 * (m₂ * 2 ^ f₂) := by
    rw [hA, hB, ← Nat.mul_assoc]
    exact Nat.mul_le_mul_right _ hhigh
  have hpos := Nat.two_pow_pos f₁
  have hpos' := Nat.two_pow_pos f₂
  rcases Nat.lt_trichotomy f₁ f₂ with hlt | rfl | hgt
  · obtain ⟨d, rfl⟩ : ∃ d, f₂ = f₁ + 1 + d := ⟨f₂ - f₁ - 1, by omega⟩
    have hd := Nat.two_pow_pos d
    have hcontra : m₂ * 2 ≤ m₁ := by
      refine Nat.le_of_mul_le_mul_right (Nat.le_trans ?_ hle) hpos
      rw [Nat.pow_add, Nat.pow_succ]
      nlinarith only [Nat.mul_le_mul_left (m₂ * 2 * 2 ^ f₁) hd]
    omega
  · exact .inl ⟨rfl, Nat.le_of_mul_le_mul_right hle hpos⟩
  · obtain ⟨d, rfl⟩ : ∃ d, f₁ = f₂ + 1 + d := ⟨f₁ - f₂ - 1, by omega⟩
    have hle'' : m₁ * 2 ^ d ≤ m₂ := by
      refine Nat.le_of_mul_le_mul_right (c := 2 * 2 ^ f₂) ?_ (by omega)
      calc m₁ * 2 ^ d * (2 * 2 ^ f₂) = m₁ * 2 ^ (f₂ + 1 + d) := by ring
        _ ≤ 2 * (m₂ * 2 ^ f₂) := hle'
        _ = m₂ * (2 * 2 ^ f₂) := by ring
    rcases Nat.eq_zero_or_pos d with rfl | hd
    · exact .inr ⟨rfl, by omega⟩
    · have htwo : 2 ^ 1 ≤ 2 ^ d := Nat.pow_le_pow_right (Nat.succ_pos _) hd
      have hcontra := Nat.mul_le_mul_left m₁ htwo
      omega

/-- A division makes fifty-three digits and more, and rounds. -/
theorem toModel_div {x y : Float} {m₁ m₂ : Nat} {e₁ e₂ : Int} (hx : Normal x m₁ e₁)
    (hy : Normal y m₂ e₂) (he : -1021 ≤ e₁ - e₂) :
    (x / y).toModel = Float.Model.pack (roundWithAccuracy Format.binary64 .positive
      (m₁ * 2 ^ 53 / m₂) (e₁ - e₂ - 53) (accuracyOfFraction (m₁ * 2 ^ 53 % m₂) m₂)) := by
  obtain ⟨hlow₁, hhigh₁, hm₁, hx⟩ := hx
  obtain ⟨hlow₂, hhigh₂, hm₂, hy⟩ := hy
  have hlog₁ : m₁.log2 = 52 := (Nat.log2_eq_iff (by omega)).2 ⟨hlow₁, hhigh₁⟩
  have hlog₂ : m₂.log2 = 52 := (Nat.log2_eq_iff (by omega)).2 ⟨hlow₂, hhigh₂⟩
  have htarget : min (e₁ - e₂) (Format.binary64.targetExponent
      (totalExponent m₁ e₁ - totalExponent m₂ e₂)) = e₁ - e₂ - 53 := by
    unfold Format.targetExponent totalExponent
    rw [hlog₁, hlog₂]
    show min (e₁ - e₂) (max (((52 : Nat) + 1 + e₁ - ((52 : Nat) + 1 + e₂)) - 53) (-1074)) = _
    omega
  have hamount : (e₁ - e₂ - (e₁ - e₂ - 53)).toNat = 53 := by omega
  show Float.Model.pack (UnpackedFloat.div Format.binary64 x.toModel.unpack y.toModel.unpack) = _
  rw [hx, hy]
  unfold UnpackedFloat.div divCore
  simp only [htarget, hamount, Nat.shiftLeft_eq]
  rfl

theorem steps_div_of_digits {x y : Float} {m₁ m₂ k l N : Nat} {e₁ e₂ : Int}
    (hx : Normal x m₁ e₁) (hy : Normal y m₂ e₂) (hlow : 2 ^ (52 + k) * m₂ ≤ m₁ * 2 ^ 53)
    (hhigh : m₁ * 2 ^ 53 < 2 ^ (53 + k) * m₂) (he : e₁ - e₂ + k = 1 + l) (hk : k ≤ 1)
    (hl : l ≤ 1) (hN : nearestWhole (m₁ * 2 ^ 53) (m₂ * 2 ^ k) * 2 ^ l = N) (hmost : N ≤ 2 ^ 53) :
    Steps (x / y) N := by
  have hpos : 0 < m₂ := Nat.lt_of_lt_of_le (Nat.two_pow_pos 52) hy.1
  have hdiv := toModel_div hx hy (by omega)
  obtain ⟨m, j, hnormal, hj, hm⟩ := normal_of_round (k := k) hpos
    ((Nat.le_div_iff_mul_le hpos).2 hlow) ((Nat.div_lt_iff_lt_mul hpos).2 hhigh) (by omega)
    (by omega) hdiv
  rw [← hm] at hN
  exact steps_of_normal hnormal hj (k := l) (by omega) hl hN hmost

/-- A quotient from one to two is the nearest number of steps. -/
theorem steps_div {x y : Float} {m₁ m₂ f₁ f₂ A B : Nat}
    (hx : Normal x m₁ ((f₁ : Int) - 52)) (hA : m₁ * 2 ^ f₁ = A * 2 ^ 52)
    (hy : Normal y m₂ ((f₂ : Int) - 52)) (hB : m₂ * 2 ^ f₂ = B * 2 ^ 52)
    (hlow : B ≤ A) (hhigh : A ≤ 2 * B) : Steps (x / y) (nearestWhole (A * 2 ^ 52) B) := by
  have hm₁ : 2 ^ 52 ≤ m₁ ∧ m₁ < 2 ^ 53 := ⟨hx.1, hx.2.1⟩
  have hm₂ : 2 ^ 52 ≤ m₂ ∧ m₂ < 2 ^ 53 := ⟨hy.1, hy.2.1⟩
  have hpos₂ : 0 < m₂ := by omega
  have hB0 : 0 < B := by
    rcases Nat.eq_zero_or_pos B with rfl | hB0
    · have hpos := Nat.mul_pos hpos₂ (Nat.two_pow_pos f₂)
      omega
    · exact hB0
  have hmost := nearestWhole_le_double hB0 hhigh
  have hcross : m₁ * 2 ^ f₁ * B = m₂ * 2 ^ f₂ * A := by
    rw [hA, hB]
    ring
  rcases exponents_of_quotient hm₁ hm₂ hA hB hlow hhigh with ⟨rfl, hle⟩ | ⟨rfl, hle⟩
  · have hratio : m₁ * B = m₂ * A := by
      refine Nat.eq_of_mul_eq_mul_right (Nat.two_pow_pos f₁) ?_
      rw [Nat.mul_right_comm, hcross]
      ring
    refine steps_div_of_digits (k := 1) (l := 0) hx hy (by omega) (by omega) (by omega) (by omega)
      (by omega) ?_ hmost
    rw [Nat.pow_zero, Nat.mul_one]
    refine nearestWhole_congr (by omega) hB0 ?_
    calc m₁ * 2 ^ 53 * B = m₁ * B * 2 ^ 53 := by ring
      _ = m₂ * A * 2 ^ 53 := by rw [hratio]
      _ = A * 2 ^ 52 * (m₂ * 2 ^ 1) := by ring
  · have hratio : 2 * m₁ * B = m₂ * A := by
      refine Nat.eq_of_mul_eq_mul_right (Nat.two_pow_pos f₂) ?_
      calc 2 * m₁ * B * 2 ^ f₂ = m₁ * 2 ^ (f₂ + 1) * B := by ring
        _ = m₂ * 2 ^ f₂ * A := hcross
        _ = m₂ * A * 2 ^ f₂ := by ring
    rcases Nat.lt_or_ge m₁ m₂ with hlt | hge
    · refine steps_div_of_digits (k := 0) (l := 0) hx hy (by omega) (by omega) (by omega) (by omega)
        (by omega) ?_ hmost
      rw [Nat.pow_zero, Nat.mul_one, Nat.mul_one]
      refine nearestWhole_congr hpos₂ hB0 ?_
      calc m₁ * 2 ^ 53 * B = 2 * m₁ * B * 2 ^ 52 := by ring
        _ = m₂ * A * 2 ^ 52 := by rw [hratio]
        _ = A * 2 ^ 52 * m₂ := by ring
    · have heq : m₁ = m₂ := Nat.le_antisymm hle hge
      subst heq
      -- the quotient is two
      have htwo : A = 2 * B := by
        refine Nat.eq_of_mul_eq_mul_left hpos₂ ?_
        rw [← hratio]
        ring
      have hhalf : m₁ * 2 ^ 53 = 2 ^ 52 * (m₁ * 2 ^ 1) := by ring
      have hwhole : A * 2 ^ 52 = 2 ^ 53 * B := by
        rw [htwo]
        ring
      refine steps_div_of_digits (k := 1) (l := 1) hx hy (by omega) (by omega) (by omega) (by omega)
        (by omega) ?_ hmost
      rw [hhalf, hwhole, nearestWhole_mul _ (by omega), nearestWhole_mul _ hB0, ← Nat.pow_add]

end ResponsiveGrid.Decimal
