import Mathlib.Tactic.Ring
import ResponsiveGrid.Proofs.Decimal.Numeral
import ResponsiveGrid.Proofs.Decimal.Shortest
set_option autoImplicit false

/-!
# Decimal: the texts of scales

A scale that is not whole is written with one digit before the point and its places behind
it; one and two are written as they are.  Since the digits are near one scale only, no two
scales have the same text (`plain_inj`).
-/

namespace ResponsiveGrid.Decimal

theorem Near.length_toDigits {N c p : Nat} (h : Near N c p) (hlow : 2 ^ 52 < N)
    (hhigh : N < 2 ^ 53) (hp : 1 ≤ p) : (Nat.toDigits 10 c).length = p + 1 := by
  obtain ⟨hatLeast, hatMost⟩ := h.bounds hlow hhigh
  have hten : 0 < 10 ^ p := Nat.pow_pos (Nat.succ_pos 9)
  have hbelow : c < 10 ^ (p + 1) := by
    rw [Nat.pow_succ]
    omega
  have hle := (Nat.length_toDigits_le_iff (by decide : 1 < 10) (by omega : 0 < p + 1)).2 hbelow
  have hgt : ¬ (Nat.toDigits 10 c).length ≤ p := by
    rw [Nat.length_toDigits_le_iff (by decide) (by omega)]
    omega
  omega

theorem positional_of_lt {c p : Nat} (hp : 1 ≤ p) (hlength : (Nat.toDigits 10 c).length = p + 1)
    (whole : List Char) :
    (⟨c, -(p : Int)⟩ : Digits).positional whole =
      (Nat.toDigits 10 c).take 1 ++ '.' :: (Nat.toDigits 10 c).drop 1 := by
  have hfigures : (⟨c, -(p : Int)⟩ : Digits).figures = Nat.toDigits 10 c := rfl
  have hplaces : (-(p : Int)).natAbs = p := by omega
  unfold Digits.positional
  simp only [hfigures, hplaces, hlength]
  rw [if_neg (by omega), if_pos (by omega), Nat.add_sub_cancel_left]

theorem plain_of_steps {x : Float} {N : Nat} (h : Steps x N) (hlow : 2 ^ 52 < N)
    (hhigh : N < 2 ^ 53) :
    ∃ c p, 1 ≤ p ∧ p ≤ 16 ∧ Near N c p ∧ (Nat.toDigits 10 c).length = p + 1 ∧
      plain x = (Nat.toDigits 10 c).take 1 ++ '.' :: (Nat.toDigits 10 c).drop 1 := by
  obtain ⟨c, p, hp, hp', hshortest, hnear⟩ := exists_digits hlow hhigh .up
  have hlength := hnear.length_toDigits hlow hhigh hp
  refine ⟨c, p, hp, hp', hnear, hlength, ?_⟩
  unfold plain
  rw [h.kindOf_of_lt hhigh]
  simp only
  rw [if_neg (by omega), hshortest, positional_of_lt hp hlength]
  rfl

theorem wire_of_steps {x : Float} {N c p : Nat} (h : Steps x N) (hlow : 2 ^ 52 < N)
    (hhigh : N < 2 ^ 53) (hp : 1 ≤ p) (hnear : Near N c p)
    (hshortest : Finite.shortest .even ⟨false, N, 1022⟩ = ⟨c, -(p : Int)⟩) :
    wire x = (Nat.toDigits 10 c).take 1 ++ '.' :: (Nat.toDigits 10 c).drop 1 := by
  have hlength := hnear.length_toDigits hlow hhigh hp
  have hleading : (⟨c, -(p : Int)⟩ : Digits).leadingExponent = 0 := by
    show ((Nat.toDigits 10 c).length : Int) + -(p : Int) - 1 = 0
    omega
  unfold wire
  rw [h.kindOf_of_lt hhigh]
  simp only
  rw [if_neg (by omega), hshortest, hleading, if_pos (by decide), positional_of_lt hp hlength]
  rfl

theorem plain_one : plain 1.0 = ['1'] := by decide +kernel

theorem plain_two : plain 2.0 = ['2'] := by decide +kernel

theorem scale_cases {x : Float} (hlow : 1.0 ≤ x) (hhigh : x ≤ 2.0) :
    x = 1.0 ∨ x = 2.0 ∨ ∃ N, Steps x N ∧ 2 ^ 52 < N ∧ N < 2 ^ 53 := by
  obtain ⟨N, hN⟩ := exists_steps hlow hhigh
  rcases Nat.lt_or_ge (2 ^ 52) N with h | h
  · rcases Nat.lt_or_ge N (2 ^ 53) with h' | h'
    · exact .inr (.inr ⟨N, hN, h, h'⟩)
    · have heq : N = 2 ^ 53 := Nat.le_antisymm hN.2.1 h'
      exact .inr (.inl (Steps.inj (heq ▸ hN) steps_two))
  · have heq : N = 2 ^ 52 := Nat.le_antisymm h hN.1
    exact .inl (Steps.inj (heq ▸ hN) steps_one)

/-- Texts with a point in them are told apart from others by it. -/
theorem plain_ne_of_steps {x : Float} {N : Nat} (h : Steps x N) (hlow : 2 ^ 52 < N)
    (hhigh : N < 2 ^ 53) {text : List Char} (htext : '.' ∉ text) : plain x ≠ text := by
  obtain ⟨c, p, -, -, -, -, hplain⟩ := plain_of_steps h hlow hhigh
  rintro rfl
  rw [hplain] at htext
  simp at htext

theorem plain_inj_of_steps {x y : Float} {N M : Nat} (hN : Steps x N) (hNlow : 2 ^ 52 < N)
    (hNhigh : N < 2 ^ 53) (hM : Steps y M) (hMlow : 2 ^ 52 < M) (hMhigh : M < 2 ^ 53)
    (h : plain x = plain y) : x = y := by
  obtain ⟨c, p, -, -, hc, hclength, hcplain⟩ := plain_of_steps hN hNlow hNhigh
  obtain ⟨d, q, -, -, hd, hdlength, hdplain⟩ := plain_of_steps hM hMlow hMhigh
  rw [hcplain, hdplain] at h
  have hfirst : ((Nat.toDigits 10 c).take 1).length = ((Nat.toDigits 10 d).take 1).length := by
    rw [List.length_take, List.length_take, hclength, hdlength]
    omega
  obtain ⟨htake, hdrop⟩ := List.append_inj h hfirst
  have hdigits : Nat.toDigits 10 c = Nat.toDigits 10 d := by
    rw [← List.take_append_drop 1 (Nat.toDigits 10 c), htake, List.tail_eq_of_cons_eq hdrop,
      List.take_append_drop]
  have hcd : c = d := toDigits_inj hdigits
  have hpq : p = q := by
    rw [hdigits, hdlength] at hclength
    omega
  subst hcd hpq
  exact hN.inj (hc.unique hd ▸ hM)

/-- No two scales have the same text. -/
theorem plain_inj {x y : Float} (hx : 1.0 ≤ x ∧ x ≤ 2.0) (hy : 1.0 ≤ y ∧ y ≤ 2.0)
    (h : plain x = plain y) : x = y := by
  have hone : '.' ∉ ['1'] := by decide
  have htwo : '.' ∉ ['2'] := by decide
  rcases scale_cases hx.1 hx.2 with rfl | rfl | ⟨N, hN, hNlow, hNhigh⟩
  · rcases scale_cases hy.1 hy.2 with rfl | rfl | ⟨M, hM, hMlow, hMhigh⟩
    · rfl
    · rw [plain_one, plain_two] at h
      cases h
    · exact absurd (h.symm.trans plain_one) (plain_ne_of_steps hM hMlow hMhigh hone)
  · rcases scale_cases hy.1 hy.2 with rfl | rfl | ⟨M, hM, hMlow, hMhigh⟩
    · rw [plain_one, plain_two] at h
      cases h
    · rfl
    · exact absurd (h.symm.trans plain_two) (plain_ne_of_steps hM hMlow hMhigh htwo)
  · rcases scale_cases hy.1 hy.2 with rfl | rfl | ⟨M, hM, hMlow, hMhigh⟩
    · exact absurd (h.trans plain_one) (plain_ne_of_steps hN hNlow hNhigh hone)
    · exact absurd (h.trans plain_two) (plain_ne_of_steps hN hNlow hNhigh htwo)
    · exact plain_inj_of_steps hN hNlow hNhigh hM hMlow hMhigh h

/-! ## Characters of texts -/

theorem mem_positional {d : Digits} {c : Char} (h : c ∈ d.positional []) :
    c.isDigit = true ∨ c = '.' := by
  have hfigures : ∀ c ∈ d.figures, c.isDigit = true := fun c hc => isDigit_of_mem_toDigits hc
  have hzeros : ∀ n, ∀ c ∈ List.replicate n '0', c.isDigit = true := by
    intro n c hc
    rw [List.eq_of_mem_replicate hc]
    rfl
  unfold Digits.positional at h
  simp only at h
  split at h
  · rw [List.append_nil, List.mem_append] at h
    rcases h with h | h
    · exact .inl (hfigures c h)
    · exact .inl (hzeros _ c h)
  · split at h
    · rw [List.mem_append, List.mem_cons] at h
      rcases h with h | h | h
      · exact .inl (hfigures c (List.mem_of_mem_take h))
      · exact .inr h
      · exact .inl (hfigures c (List.mem_of_mem_drop h))
    · rw [List.mem_cons, List.mem_cons, List.mem_append] at h
      rcases h with rfl | rfl | h | h
      · exact .inl rfl
      · exact .inr rfl
      · exact .inl (hzeros _ c h)
      · exact .inl (hfigures c h)

/-- The text of a number is made of letters and digits, a point and a sign. -/
theorem mem_plain {x : Float} {c : Char} (h : c ∈ plain x) :
    c.isAlphanum = true ∨ c = '.' ∨ c = '-' := by
  have hsigned : ∀ negative text, (∀ c ∈ text, c.isAlphanum = true ∨ c = '.' ∨ c = '-') →
      ∀ c ∈ signed negative text, c.isAlphanum = true ∨ c = '.' ∨ c = '-' := by
    intro negative text htext
    unfold signed
    split
    · exact List.forall_mem_cons.2 ⟨.inr (.inr rfl), htext⟩
    · exact htext
  unfold plain at h
  split at h
  · have hletters : ∀ c ∈ "NaN".toList, c.isAlphanum = true := by simp
    exact .inl (hletters c h)
  · have hletters : ∀ c ∈ "inf".toList, c.isAlphanum = true := by simp
    exact hsigned _ _ (fun c hc => .inl (hletters c hc)) c h
  · refine hsigned _ _ ?_ c h
    split
    · exact List.forall_mem_singleton.2 (.inl rfl)
    · intro c hc
      rcases mem_positional hc with hdigit | rfl
      · rw [Char.isAlphanum, hdigit, Bool.or_true]
        exact .inl rfl
      · exact .inr (.inl rfl)

theorem not_mem_plain {c : Char} (hc : c = '\n' ∨ c = '$' ∨ c = '"') (x : Float) :
    c ∉ plain x := by
  intro h
  rcases hc with rfl | rfl | rfl <;> rcases mem_plain h with h | h | h <;> cases h

end ResponsiveGrid.Decimal
