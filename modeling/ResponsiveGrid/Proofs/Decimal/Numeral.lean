import ResponsiveGrid.Decimal.Reading
set_option autoImplicit false

/-!
# Decimal: natural numbers and their digits

The digits that a natural number is written with, and what is read back from them.
-/

namespace ResponsiveGrid.Decimal

theorem isDigit_of_mem_toDigits {n : Nat} {c : Char} (h : c ∈ Nat.toDigits 10 n) :
    c.isDigit = true :=
  Nat.isDigit_of_mem_toDigits (by decide) (by decide) h

theorem toDigits_inj {m n : Nat} (h : Nat.toDigits 10 m = Nat.toDigits 10 n) : m = n := by
  rw [← Nat.ofDigitChars_ten_toDigits (n := m), h, Nat.ofDigitChars_ten_toDigits]

theorem getLast?_toDigits (n : Nat) : ∃ c, (Nat.toDigits 10 n).getLast? = some c ∧ c.isDigit := by
  have hne : Nat.toDigits 10 n ≠ [] := Nat.toDigits_ne_nil
  exact ⟨_, List.getLast?_eq_some_getLast hne, isDigit_of_mem_toDigits (List.getLast_mem hne)⟩

/-- The value of digits is read as the standard library reads it. -/
theorem valueOf_eq (digits : List Char) : valueOf digits = Nat.ofDigitChars 10 digits 0 := by
  unfold valueOf Nat.ofDigitChars
  congr 1
  funext value c
  rw [Nat.mul_comm]

theorem valueOf_toDigits (n : Nat) : valueOf (Nat.toDigits 10 n) = n := by
  rw [valueOf_eq, Nat.ofDigitChars_ten_toDigits]

/-- Only zero is written with a zero in front. -/
theorem head?_toDigits {n : Nat} (h : (Nat.toDigits 10 n).head? = some '0') : n = 0 := by
  induction n using Nat.strongRecOn with
  | ind n ih =>
    rw [Nat.toDigits_eq_if (by decide)] at h
    split at h
    · next hlt =>
      have hdigit : n.digitChar = '0' := Option.some.inj h
      have hsmall : ∀ k < 10, Nat.digitChar k = '0' → k = 0 := by decide
      exact hsmall n hlt hdigit
    · next hge =>
      have hhead : (Nat.toDigits 10 (n / 10)).head? = some '0' := by
        have hne : Nat.toDigits 10 (n / 10) ≠ [] := Nat.toDigits_ne_nil
        rw [List.head?_append, List.head?_eq_some_head hne, Option.some_or] at h
        rw [List.head?_eq_some_head hne, h]
      have hzero := ih (n / 10) (by omega) hhead
      omega

end ResponsiveGrid.Decimal
