import ResponsiveGrid.Json.Lexeme
import ResponsiveGrid.Proofs.Decimal.Division
import ResponsiveGrid.Proofs.Decimal.Text
set_option autoImplicit false

/-!
# Decimal: scales that are read back from their digits

The digits of a scale are as few as tell it from its neighbours when they are rounded once.
A reader that rounds twice, first the digits as a whole number and then its quotient by a
power of ten, can end beside the scale.  `ReadsBack` says exactly, on whole numbers, when
it does not: what is left of the digits after the first rounding still has to be near the
scale.  Up to fifteen places nothing is lost in the first rounding.
-/

namespace ResponsiveGrid.Decimal

/-- What a reader that rounds twice makes of the digits of a scale. -/
def reread (x : Float) : Float :=
  match kindOf x with
  | .finite f =>
      let digits := f.shortest .even
      if 0 ≤ digits.exponent then x
      else Json.divideByTens (UInt64.ofNat digits.coefficient).toFloat digits.exponent.natAbs
  | _ => x

/-- The digits of a scale are still near it when only fifty-three binary digits of them are
left.  Digits without places are not rounded. -/
def ReadsBack (x : Float) : Prop :=
  match kindOf x with
  | .finite f =>
      let digits := f.shortest .even
      0 ≤ digits.exponent ∨ Near f.significand (kept digits.coefficient) digits.exponent.natAbs
  | _ => False

instance (N c p : Nat) : Decidable (Near N c p) :=
  inferInstanceAs (Decidable (_ ∧ _ ∧ _))

instance (x : Float) : Decidable (ReadsBack x) :=
  match h : kindOf x with
  | .finite f =>
      decidable_of_iff (0 ≤ (f.shortest .even).exponent ∨
        Near f.significand (kept (f.shortest .even).coefficient)
          (f.shortest .even).exponent.natAbs) (by unfold ReadsBack; rw [h])
  | .notANumber => isFalse (by unfold ReadsBack; rw [h]; exact id)
  | .infinite _ => isFalse (by unfold ReadsBack; rw [h]; exact id)

/-! ## Quotients by powers of ten -/

theorem ofScientific_eq : ∀ p ≤ 16, Float.ofScientific 1 false p = (UInt64.ofNat (10 ^ p)).toFloat := by
  decide +kernel

theorem kept_tenPow : ∀ p ≤ 16, kept (10 ^ p) = 10 ^ p := by
  decide +kernel

/-- What is left of the digits of a scale is still between the same powers of ten. -/
theorem kept_bounds {c p : Nat} (hp : p ≤ 16) (hlow : 10 ^ p ≤ c) (hhigh : c ≤ 2 * 10 ^ p) :
    10 ^ p ≤ kept c ∧ kept c ≤ 2 * 10 ^ p := by
  rcases Nat.lt_or_ge c (2 ^ 53) with hsmall | hlarge
  · rw [kept_of_lt hsmall]
    exact ⟨hlow, hhigh⟩
  · have hp16 : p = 16 := by
      rcases Nat.lt_or_ge p 16 with hlt | hge
      · have hle : 10 ^ p ≤ 10 ^ 15 := Nat.pow_le_pow_right (Nat.succ_pos _) (by omega)
        omega
      · omega
    subst hp16
    rcases Nat.lt_or_ge c (2 ^ 54) with hlt | hge
    · have hlog : c.log2 - 52 = 1 := by
        rw [(Nat.log2_eq_iff (k := 53) (by omega)).2 ⟨hlarge, hlt⟩]
      have hbounds := nearestWhole_bounds c 2
      unfold kept
      simp only [hlog, Nat.pow_one]
      omega
    · have hlog : c.log2 - 52 = 2 := by
        rw [(Nat.log2_eq_iff (k := 54) (by omega)).2 ⟨hge, by omega⟩]
      have hbounds := nearestWhole_bounds c 4
      have hunit : 2 ^ 2 = 4 := rfl
      unfold kept
      simp only [hlog, hunit]
      rcases Nat.eq_or_lt_of_le hhigh with heq | hless
      · have hself : nearestWhole c 4 = 5 * 10 ^ 15 := by
          rw [heq]
          exact nearestWhole_mul (b := 4) (5 * 10 ^ 15) (by decide)
        omega
      · omega

theorem steps_divideByTens {c p : Nat} (hp : p ≤ 16) (hlow : 10 ^ p ≤ c) (hhigh : c ≤ 2 * 10 ^ p) :
    Steps (Json.divideByTens (UInt64.ofNat c).toFloat p)
      (nearestWhole (kept c * 2 ^ 52) (10 ^ p)) := by
  have hten : 10 ^ p ≤ 10 ^ 16 := Nat.pow_le_pow_right (Nat.succ_pos _) hp
  have hpos : 0 < 10 ^ p := Nat.pow_pos (Nat.succ_pos 9)
  obtain ⟨m₁, f₁, hc, hvalue⟩ := normal_toFloat (n := c) (by omega) (by omega)
  obtain ⟨m₂, f₂, htens, hvalue'⟩ := normal_toFloat (n := 10 ^ p) hpos (by omega)
  rw [kept_tenPow p hp] at hvalue'
  rw [Json.divideByTens, if_pos (by omega), ofScientific_eq p hp]
  obtain ⟨hlow, hhigh⟩ := kept_bounds hp hlow hhigh
  exact steps_div hc hvalue htens hvalue' hlow hhigh

/-! ## Scales -/

theorem exists_reread {x : Float} {N : Nat} (h : Steps x N) (hlow : 2 ^ 52 < N)
    (hhigh : N < 2 ^ 53) :
    ∃ c p : Nat, 1 ≤ p ∧ p ≤ 16 ∧ Near N c p ∧
      Finite.shortest .even ⟨false, N, 1022⟩ = ⟨c, -(p : Int)⟩ ∧
      reread x = Json.divideByTens (UInt64.ofNat c).toFloat p ∧
      Steps (reread x) (nearestWhole (kept c * 2 ^ 52) (10 ^ p)) := by
  obtain ⟨c, p, hp, hp', hshortest, hnear⟩ := exists_digits hlow hhigh .even
  have hreread : reread x = Json.divideByTens (UInt64.ofNat c).toFloat p := by
    have hplaces : (-(p : Int)).natAbs = p := by omega
    unfold reread
    rw [h.kindOf_of_lt hhigh]
    simp only [hshortest, hplaces]
    rw [if_neg (by omega)]
  refine ⟨c, p, hp, hp', hnear, hshortest, hreread, ?_⟩
  rw [hreread]
  obtain ⟨hatLeast, hatMost⟩ := hnear.bounds hlow hhigh
  exact steps_divideByTens hp' hatLeast hatMost

theorem reread_one : reread 1.0 = 1.0 := by decide +kernel

theorem reread_two : reread 2.0 = 2.0 := by decide +kernel

theorem readsBack_one : ReadsBack 1.0 := by decide +kernel

theorem readsBack_two : ReadsBack 2.0 := by decide +kernel

theorem near_nearestWhole {c p : Nat} (h : 10 ^ p ≤ c) :
    Near (nearestWhole (c * 2 ^ 52) (10 ^ p)) c p := by
  have hpos : 0 < 10 ^ p := Nat.pow_pos (Nat.succ_pos 9)
  have htwice : c * 2 ^ 53 = 2 * (c * 2 ^ 52) := by ring
  unfold Near
  rw [htwice]
  exact nearestWhole_near (c * 2 ^ 52) hpos (by omega)

/-- A scale is read back from its digits exactly when what is left of them is near it. -/
theorem reread_eq_iff {x : Float} (hlow : 1.0 ≤ x) (hhigh : x ≤ 2.0) :
    reread x = x ↔ ReadsBack x := by
  rcases scale_cases hlow hhigh with rfl | rfl | ⟨N, hN, hNlow, hNhigh⟩
  · exact iff_of_true reread_one readsBack_one
  · exact iff_of_true reread_two readsBack_two
  · obtain ⟨c, p, hp, hp', hnear, hshortest, hreread, hsteps⟩ := exists_reread hN hNlow hNhigh
    obtain ⟨hatLeast, hatMost⟩ := hnear.bounds hNlow hNhigh
    have hself := near_nearestWhole (kept_bounds hp' hatLeast hatMost).1
    have hplaces : (-(p : Int)).natAbs = p := by omega
    have hreads : ReadsBack x ↔ Near N (kept c) p := by
      unfold ReadsBack
      rw [hN.kindOf_of_lt hNhigh]
      simp only [hshortest, hplaces]
      constructor
      · rintro (hle | h)
        · omega
        · exact h
      · exact .inr
    rw [hreads]
    constructor
    · intro heq
      rw [heq] at hsteps
      exact hN.unique hsteps ▸ hself
    · intro h
      exact Steps.inj (hself.unique h ▸ hsteps) hN

/-- Up to fifteen places every scale is read back. -/
theorem readsBack_of_places {x : Float} (hlow : 1.0 ≤ x) (hhigh : x ≤ 2.0) {f : Finite}
    (hf : kindOf x = .finite f) (hplaces : -15 ≤ (f.shortest .even).exponent) : ReadsBack x := by
  rcases scale_cases hlow hhigh with rfl | rfl | ⟨N, hN, hNlow, hNhigh⟩
  · exact readsBack_one
  · exact readsBack_two
  · rw [hN.kindOf_of_lt hNhigh] at hf
    cases hf
    obtain ⟨c, p, hp, hp', hnear, hshortest, -, -⟩ := exists_reread hN hNlow hNhigh
    rw [hshortest] at hplaces
    have hp15 : p ≤ 15 := by
      have hle : -15 ≤ -(p : Int) := hplaces
      omega
    have hten : 10 ^ p ≤ 10 ^ 15 := Nat.pow_le_pow_right (Nat.succ_pos _) hp15
    have hatMost := (hnear.bounds hNlow hNhigh).2
    have hkept : kept c = c := kept_of_lt (by omega)
    have habs : (-(p : Int)).natAbs = p := by omega
    unfold ReadsBack
    rw [hN.kindOf_of_lt hNhigh]
    simp only [hshortest, habs, hkept]
    exact .inr hnear

theorem reread_between {x : Float} (hlow : 1.0 ≤ x) (hhigh : x ≤ 2.0) :
    1.0 ≤ reread x ∧ reread x ≤ 2.0 := by
  rcases scale_cases hlow hhigh with rfl | rfl | ⟨N, hN, hNlow, hNhigh⟩
  · rw [reread_one]
    exact ⟨hlow, hhigh⟩
  · rw [reread_two]
    exact ⟨hlow, hhigh⟩
  · obtain ⟨c, p, -, -, -, -, -, hsteps⟩ := exists_reread hN hNlow hNhigh
    exact hsteps.between

end ResponsiveGrid.Decimal
