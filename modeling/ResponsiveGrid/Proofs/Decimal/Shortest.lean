import Mathlib.Tactic.Ring
import ResponsiveGrid.Proofs.Decimal.Scale
set_option autoImplicit false

/-!
# Decimal: the digits of a scale

What the walk over the grids finds for a value of `N` steps of `2 ^ -52`.  The numbers of
that walk have hundreds of digits, but on the grid `10 ^ -p` all of them are multiples of
one number, and `pick_mul` divides it out: what is left is `scaleWindow N p`, in units of
`2 ^ -53 · 10 ^ -p`.

A scale that is not whole has at least one and at most sixteen places (`exists_digits`),
and its digits tell it from all other scales (`Near.unique`).
-/

namespace ResponsiveGrid.Decimal

/-! ## The walk over the grids -/

/-- The walk ends on the first grid on which a point is picked. -/
theorem search_of_pick {w : Window} {tie : Tie} {n k d : Nat} (hk : 0 < k) (hkn : k ≤ n)
    (hpick : w.pick tie (gridUnit k) = some d)
    (hcoarser : ∀ j, k < j → j ≤ n → w.pick tie (gridUnit j) = none) :
    Finite.search w tie n = ⟨d, (k : Int) - 1074⟩ := by
  induction n with
  | zero => omega
  | succ n ih =>
    rw [Finite.search]
    rcases Nat.lt_or_ge k (n + 1) with hlt | hge
    · rw [hcoarser (n + 1) hlt (Nat.le_refl _)]
      exact ih (by omega) fun j hj hjn => hcoarser j hj (by omega)
    · have heq : k = n + 1 := by omega
      subst heq
      rw [hpick]
      rfl

theorem exists_coarsest (w : Window) (tie : Tie) {n : Nat} (k : Nat) (hk : 0 < k) (hkn : k ≤ n)
    (hpick : w.pick tie (gridUnit k) ≠ none) :
    ∃ m d, k ≤ m ∧ m ≤ n ∧ w.pick tie (gridUnit m) = some d ∧
      ∀ j, m < j → j ≤ n → w.pick tie (gridUnit j) = none := by
  induction n with
  | zero => omega
  | succ n ih =>
    by_cases htop : w.pick tie (gridUnit (n + 1)) = none
    · have hne : k ≠ n + 1 := by
        rintro rfl
        exact hpick htop
      obtain ⟨m, d, hkm, hmn, hd, hnone⟩ := ih (by omega)
      refine ⟨m, d, hkm, by omega, hd, ?_⟩
      intro j hj hjn
      rcases Nat.lt_or_ge j (n + 1) with hlt | hge
      · exact hnone j hj (by omega)
      · have heq : j = n + 1 := by omega
        exact heq ▸ htop
    · obtain ⟨d, hd⟩ := Option.ne_none_iff_exists'.1 htop
      exact ⟨n + 1, d, hkn, Nat.le_refl _, hd, fun j hj hjn => by omega⟩

/-! ## Windows in other units -/

namespace Window

/-- A window in units that are smaller by a factor. -/
def mul (w : Window) (k : Nat) : Window := ⟨k * w.low, k * w.centre, k * w.high, w.closed⟩

theorem contains_mul (w : Window) {k : Nat} (hk : 0 < k) (v : Nat) :
    (w.mul k).contains (k * v) = w.contains v := by
  unfold contains mul
  simp only [Nat.mul_le_mul_left_iff hk, Nat.mul_lt_mul_left hk]

theorem pick_mul (w : Window) (tie : Tie) {k : Nat} (hk : 0 < k) (unit : Nat) :
    (w.mul k).pick tie (k * unit) = w.pick tie unit := by
  have hbelow : (w.mul k).centre / (k * unit) = w.centre / unit :=
    Nat.mul_div_mul_left w.centre unit hk
  have hpoint : ∀ d, d * (k * unit) = k * (d * unit) := fun d => Nat.mul_left_comm d k unit
  have htwice : 2 * ((w.mul k).centre - w.centre / unit * (k * unit)) =
      k * (2 * (w.centre - w.centre / unit * unit)) := by
    rw [hpoint, mul, ← Nat.mul_sub, Nat.mul_left_comm]
  unfold pick
  simp only [hbelow, hpoint, contains_mul w hk]
  simp only [← hpoint, htwice, Nat.mul_lt_mul_left hk]

theorem pick_eq_none_iff (w : Window) (tie : Tie) (unit : Nat) :
    w.pick tie unit = none ↔ w.contains (w.centre / unit * unit) = false ∧
      w.contains ((w.centre / unit + 1) * unit) = false := by
  unfold pick
  cases hb : w.contains (w.centre / unit * unit) <;>
    cases ha : w.contains ((w.centre / unit + 1) * unit) <;>
    simp only [hb, ha]
  · simp
  · simp
  · simp
  · split
    · simp
    · split
      · simp
      · cases tie with
        | up => simp
        | even =>
          simp only
          split <;> simp

end Window

/-! ## The window of a scale -/

/-- The numbers that round to `N` steps, in units of `2 ^ -53 · 10 ^ -p`. -/
def scaleWindow (N p : Nat) : Window :=
  ⟨(2 * N - 1) * 10 ^ p, 2 * N * 10 ^ p, (2 * N + 1) * 10 ^ p, N % 2 == 0⟩

/-- Powers with large exponents are taken apart by name, so that none is evaluated. -/
theorem pow_split (b : Nat) {m n k : Nat} (h : m = n + k) :
    Nat.pow b m = Nat.pow b n * Nat.pow b k := by
  subst h
  exact Nat.pow_add b n k

theorem natPow_pos {b : Nat} (h : 0 < b) (n : Nat) : 0 < Nat.pow b n := Nat.pow_pos h

/-- How many units of `2 ^ -53 · 10 ^ -p` make up a tick, as the walk counts. -/
def ticksPerUnit (p : Nat) : Nat := 2 * Nat.pow 2 1022 * Nat.pow 10 (1074 - p)

theorem ticksPerUnit_pos (p : Nat) : 0 < ticksPerUnit p := by
  have htwo := natPow_pos Nat.two_pos 1022
  have hten := natPow_pos (by decide : 0 < 10) (1074 - p)
  unfold ticksPerUnit
  generalize Nat.pow 2 1022 = a at *
  generalize Nat.pow 10 (1074 - p) = b at *
  exact Nat.mul_pos (Nat.mul_pos Nat.two_pos htwo) hten

theorem gridUnit_eq (p : Nat) : gridUnit (1074 - p) = ticksPerUnit p * 2 ^ 53 := by
  have hfour : Nat.pow 2 54 = 2 * 2 ^ 53 := by decide
  unfold gridUnit ticksOfOne ticksPerUnit
  have htwo := pow_split 2 (by rfl : (1076 : Nat) = 1022 + 54)
  generalize Nat.pow 2 1076 = c at *
  generalize Nat.pow 2 1022 = a at *
  rw [htwo, hfour]
  generalize Nat.pow 10 (1074 - p) = b
  ring

theorem window_eq {N p : Nat} (hN : N ≠ hiddenBit) (hpos : 0 < N) (hp : p ≤ 1074) :
    Finite.window ⟨false, N, 1022⟩ = (scaleWindow N p).mul (ticksPerUnit p) := by
  have hten : Nat.pow 10 1074 = Nat.pow 10 (1074 - p) * Nat.pow 10 p :=
    pow_split 10 (Nat.sub_add_cancel hp).symm
  have hplaces : 10 ^ p = Nat.pow 10 p := rfl
  have hbelow : Finite.halfGapBelow ⟨false, N, 1022⟩ = 2 * Nat.pow 2 1022 :=
    if_neg fun h => hN h.1
  unfold Finite.window Window.mul scaleWindow ticksPerUnit
  simp only [hbelow, hten, hplaces, Finite.ticks, Finite.halfGapAbove]
  generalize Nat.pow 10 (1074 - p) = b
  generalize Nat.pow 10 p = c
  generalize Nat.pow 2 1022 = a
  have hlow : 4 * N * a - 2 * a = 2 * a * (2 * N - 1) := by
    obtain ⟨n, rfl⟩ : ∃ n, N = n + 1 := ⟨N - 1, by omega⟩
    have h1 : 4 * (n + 1) * a = 2 * a * (2 * n + 1) + 2 * a := by ring
    have h2 : 2 * (n + 1) - 1 = 2 * n + 1 := by omega
    rw [h1, h2, Nat.add_sub_cancel]
  rw [hlow]
  clear hten hbelow
  congr 1 <;> ring

/-- On the grid `10 ^ -p` the walk picks what is picked in small units. -/
theorem pick_window {N p : Nat} (hN : N ≠ hiddenBit) (hpos : 0 < N) (hp : p ≤ 1074) (tie : Tie) :
    (Finite.window ⟨false, N, 1022⟩).pick tie (gridUnit (1074 - p)) =
      (scaleWindow N p).pick tie (2 ^ 53) := by
  rw [window_eq hN hpos hp, gridUnit_eq, Window.pick_mul _ _ (ticksPerUnit_pos p)]

/-! ## Digits of scales that are not whole -/

/-- The decimal `c / 10 ^ p` rounds to the scale of `N` steps: it is not farther than half
a step away, and nearer than that when `N` is odd. -/
def Near (N c p : Nat) : Prop :=
  (2 * N - 1) * 10 ^ p ≤ c * 2 ^ 53 ∧ c * 2 ^ 53 ≤ (2 * N + 1) * 10 ^ p ∧
    (N % 2 = 1 → (2 * N - 1) * 10 ^ p < c * 2 ^ 53 ∧ c * 2 ^ 53 < (2 * N + 1) * 10 ^ p)

theorem contains_scaleWindow {N c p : Nat} :
    (scaleWindow N p).contains (c * 2 ^ 53) = true ↔ Near N c p := by
  rw [Window.contains_iff]
  unfold scaleWindow Near
  by_cases hN : N % 2 = 0
  · simp [hN]
  · have hodd : N % 2 = 1 := by omega
    simp [hodd]
    omega

theorem gridUnit_succ (n : Nat) : gridUnit (n + 1) = 10 * gridUnit n := by
  have hten : Nat.pow 10 (n + 1) = Nat.pow 10 n * 10 := Nat.pow_succ 10 n
  unfold gridUnit
  rw [hten, ← Nat.mul_assoc, Nat.mul_comm]

/-- A scale that is not whole is picked neither on the grid of ones nor on that of tens. -/
theorem pick_whole {N : Nat} (hlow : 2 ^ 52 < N) (hhigh : N < 2 ^ 53) (tie : Tie) :
    (Finite.window ⟨false, N, 1022⟩).pick tie (gridUnit 1074) = none ∧
      (Finite.window ⟨false, N, 1022⟩).pick tie (gridUnit 1075) = none := by
  have hhidden : hiddenBit = 2 ^ 52 := rfl
  have hN : N ≠ hiddenBit := by omega
  have hpos : 0 < N := by omega
  have hones : gridUnit 1074 = ticksPerUnit 0 * 2 ^ 53 := gridUnit_eq 0
  have htens : gridUnit 1075 = ticksPerUnit 0 * (10 * 2 ^ 53) := by
    rw [gridUnit_succ, hones, Nat.mul_left_comm]
  rw [window_eq hN hpos (Nat.zero_le 1074), hones, htens, Window.pick_mul _ _ (ticksPerUnit_pos 0),
    Window.pick_mul _ _ (ticksPerUnit_pos 0), Window.pick_eq_none_iff, Window.pick_eq_none_iff]
  have hone : 2 * N * 10 ^ 0 / 2 ^ 53 = 1 := by omega
  have hzero : 2 * N * 10 ^ 0 / (10 * 2 ^ 53) = 0 := by omega
  have hout : ∀ v, v ≤ 2 ^ 53 ∨ 2 ^ 54 ≤ v → (scaleWindow N 0).contains v = false := by
    intro v hv
    rw [← Bool.not_eq_true, Window.contains_iff]
    unfold scaleWindow
    split <;> simp only <;> omega
  refine ⟨⟨hout _ ?_, hout _ ?_⟩, hout _ ?_, hout _ ?_⟩
  · exact .inl (by rw [show (scaleWindow N 0).centre = 2 * N * 10 ^ 0 from rfl, hone]; omega)
  · exact .inr (by rw [show (scaleWindow N 0).centre = 2 * N * 10 ^ 0 from rfl, hone]; omega)
  · exact .inl (by rw [show (scaleWindow N 0).centre = 2 * N * 10 ^ 0 from rfl, hzero]; omega)
  · exact .inr (by rw [show (scaleWindow N 0).centre = 2 * N * 10 ^ 0 from rfl, hzero]; omega)

/-- Sixteen places are enough for every scale. -/
theorem pick_sixteen {N : Nat} (hlow : 2 ^ 52 < N) (tie : Tie) :
    (scaleWindow N 16).pick tie (2 ^ 53) ≠ none := by
  have hdiv := Nat.div_add_mod (2 * N * 10 ^ 16) (2 ^ 53)
  have hmod := Nat.mod_lt (2 * N * 10 ^ 16) (Nat.two_pow_pos 53)
  have hnear : Near N (2 * N * 10 ^ 16 / 2 ^ 53) 16 := by
    unfold Near
    omega
  intro hnone
  rw [Window.pick_eq_none_iff] at hnone
  have hcontains := contains_scaleWindow.2 hnear
  have hfalse := hnone.1
  unfold scaleWindow at hcontains hfalse
  simp only at hcontains hfalse
  rw [hcontains] at hfalse
  cases hfalse

theorem shortest_eq_search {N : Nat} (hlow : 2 ^ 52 < N) (hhigh : N < 2 ^ 53) (tie : Tie) :
    Finite.shortest tie ⟨false, N, 1022⟩ =
      Finite.search (Finite.window ⟨false, N, 1022⟩) tie 1075 := by
  have htwo := pow_split 2 (by rfl : (1076 : Nat) = 54 + 1022)
  have hpos := natPow_pos Nat.two_pos 1022
  have hone : Finite.ticks ⟨false, N, 1022⟩ / ticksOfOne = 1 := by
    unfold Finite.ticks ticksOfOne
    rw [htwo, Nat.mul_div_mul_right _ _ hpos]
    have hsmall : Nat.pow 2 54 = 2 ^ 54 := rfl
    simp only [hsmall]
    omega
  unfold Finite.shortest
  rw [hone]
  rfl

/-- A scale that is not whole has the digits of a number near it, with one to sixteen
places. -/
theorem exists_digits {N : Nat} (hlow : 2 ^ 52 < N) (hhigh : N < 2 ^ 53) (tie : Tie) :
    ∃ c p : Nat, 1 ≤ p ∧ p ≤ 16 ∧ Finite.shortest tie ⟨false, N, 1022⟩ = ⟨c, -(p : Int)⟩ ∧
      Near N c p := by
  have hhidden : hiddenBit = 2 ^ 52 := rfl
  have hN : N ≠ hiddenBit := by omega
  have hpos : 0 < N := by omega
  let w := Finite.window ⟨false, N, 1022⟩
  obtain ⟨hones, htens⟩ := pick_whole hlow hhigh tie
  have hsixteen : w.pick tie (gridUnit 1058) ≠ none := by
    have heq := pick_window hN hpos (by decide : 16 ≤ 1074) tie
    intro hnone
    exact pick_sixteen hlow tie (heq.symm.trans hnone)
  obtain ⟨m, c, hm, hmn, hpick, hnone⟩ :=
    exists_coarsest w tie 1058 (by decide) (by decide : 1058 ≤ 1075) hsixteen
  have hplaces : m ≠ 1074 ∧ m ≠ 1075 := by
    constructor
    · rintro rfl
      rw [hones] at hpick
      cases hpick
    · rintro rfl
      rw [htens] at hpick
      cases hpick
  obtain ⟨p, rfl⟩ : ∃ p, m = 1074 - p := ⟨1074 - m, by omega⟩
  refine ⟨c, p, by omega, by omega, ?_, ?_⟩
  · rw [shortest_eq_search hlow hhigh, search_of_pick (by omega) hmn hpick hnone]
    congr 1
    omega
  · rw [pick_window hN hpos (by omega)] at hpick
    exact contains_scaleWindow.1 (Window.contains_of_pick hpick)

theorem Near.bounds {N c p : Nat} (h : Near N c p) (hlow : 2 ^ 52 < N) (hhigh : N < 2 ^ 53) :
    10 ^ p ≤ c ∧ c ≤ 2 * 10 ^ p := by
  obtain ⟨hnearLow, hnearHigh, -⟩ := h
  have hle : 2 ^ 53 * 10 ^ p ≤ (2 * N - 1) * 10 ^ p := Nat.mul_le_mul_right _ (by omega)
  have hle' : (2 * N + 1) * 10 ^ p ≤ 2 ^ 54 * 10 ^ p := Nat.mul_le_mul_right _ (by omega)
  omega

theorem Near.not_lt {N M c p : Nat} (hN : Near N c p) (hM : Near M c p) : ¬ N < M := by
  have hten : 0 < 10 ^ p := Nat.pow_pos (Nat.succ_pos 9)
  obtain ⟨-, hNhigh, hNodd⟩ := hN
  obtain ⟨hMlow, -, hModd⟩ := hM
  intro hlt
  have hle : 2 * M - 1 ≤ 2 * N + 1 := Nat.le_of_mul_le_mul_right (hMlow.trans hNhigh) hten
  have hnext : 2 * M - 1 = 2 * N + 1 := by omega
  rw [hnext] at hMlow hModd
  by_cases hodd : N % 2 = 1
  · exact Nat.lt_irrefl _ (Nat.lt_of_le_of_lt hMlow (hNodd hodd).2)
  · exact Nat.lt_irrefl _ (Nat.lt_of_lt_of_le (hModd (by omega)).1 hNhigh)

/-- A decimal is near one scale only. -/
theorem Near.unique {N M c p : Nat} (hN : Near N c p) (hM : Near M c p) : N = M :=
  Nat.le_antisymm (Nat.le_of_not_lt (hM.not_lt hN)) (Nat.le_of_not_lt (hN.not_lt hM))

end ResponsiveGrid.Decimal
