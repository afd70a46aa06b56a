import ResponsiveGrid.Entry
set_option autoImplicit false

/-!
# Bounds: what is wrong with a range or with settings

Which bound two numbers break that make no range (`WidthRange.Broken`), and which violations
a check of settings can find (`Violation.OfField`).  The violations that concern a list of
entries as a whole are apart from both (`Violation.OfPartition`).
-/

namespace ResponsiveGrid

/-! ## Kinds of violations -/

/-- The bound of a scalar field or of a demo element is broken. -/
def Violation.OfField : Violation → Prop
  | .contentMaxWidthOutOfRange _ | .columnsOutOfRange _ | .gutterOutOfRange _
  | .marginOutOfRange _ | .scaleOutOfRange _ | .offsetOutOfRange _ _ _ _
  | .offsetMisordered _ _ _ => True
  | _ => False

/-- The bound of a range is broken. -/
def Violation.OfRange : Violation → Prop
  | .minWidthOutOfRange _ | .maxWidthOutOfRange _ | .emptyRange _ _ => True
  | _ => False

/-- A list of entries is no partition of the widths. -/
def Violation.OfPartition : Violation → Prop
  | .notFromStart _ | .notToEnd _ | .notContiguous _ _ _ | .duplicateId _ => True
  | _ => False

/-! ## Ranges -/

/-- The first bound that the two ends of a range break. -/
inductive WidthRange.Broken : Nat → Option Nat → Violation → Prop where
  | minWidth {least : Nat} {greatest : Option Nat} (h : 9998 < least) :
      Broken least greatest (.minWidthOutOfRange least)
  | maxWidth {least m : Nat} (hleast : least ≤ 9998) (h : m < 1 ∨ 9999 < m) :
      Broken least (some m) (.maxWidthOutOfRange m)
  | empty {least m : Nat} (hleast : least ≤ 9998) (hm : 1 ≤ m ∧ m ≤ 9999) (h : m ≤ least) :
      Broken least (some m) (.emptyRange least m)

namespace WidthRange

/-- Two ends are refused for the first bound that they break. -/
theorem of?_eq_error_iff {least : Nat} {greatest : Option Nat} {v : Violation} :
    of? least greatest = .error v ↔ Broken least greatest v := by
  constructor
  · intro h
    unfold of? at h
    split at h
    · next hleast =>
      cases h
      exact .minWidth hleast
    · next hleast =>
      split at h
      · cases h
      · next m =>
        split at h
        · next hm =>
          cases h
          exact .maxWidth (Nat.le_of_not_lt hleast) hm
        · next hm =>
          split at h
          · next hempty =>
            cases h
            exact .empty (Nat.le_of_not_lt hleast) (by omega) hempty
          · cases h
  · intro h
    unfold of?
    cases h with
    | minWidth hleast => rw [dif_pos hleast]
    | maxWidth hleast hm =>
      rw [dif_neg (Nat.not_lt.2 hleast)]
      exact dif_pos hm
    | empty hleast hm hempty =>
      have hbounds := Nat.not_lt.2 hm.1
      rw [dif_neg (Nat.not_lt.2 hleast)]
      simp only
      rw [dif_neg (by omega), dif_pos hempty]

theorem Broken.ofRange {least : Nat} {greatest : Option Nat} {v : Violation}
    (h : Broken least greatest v) : v.OfRange := by
  cases h <;> trivial

theorem exists_of?_lower (r : WidthRange) {least : Nat} (h : least ≤ r.minWidth) :
    ∃ q, of? least r.maxWidth = .ok q := by
  refine ⟨⟨least, r.maxWidth, Nat.le_trans h r.minWidth_le, fun m hm => ?_⟩, ?_⟩
  · obtain ⟨hlt, hle⟩ := r.maxWidth_bounds m hm
    exact ⟨Nat.lt_of_le_of_lt h hlt, hle⟩
  · exact of?_eq_ok_iff.2 ⟨rfl, rfl⟩

theorem exists_of?_onward (r : WidthRange) : ∃ q, of? r.minWidth none = .ok q :=
  ⟨onward r.minWidth r.minWidth_le, of?_eq_ok_iff.2 ⟨rfl, rfl⟩⟩

theorem exists_of?_between {least m : Nat} (h : least < m ∧ m ≤ 9999) :
    ∃ q, of? least (some m) = .ok q :=
  ⟨between least m h, of?_eq_ok_iff.2 ⟨rfl, rfl⟩⟩

end WidthRange

/-! ## Settings -/

theorem refuse_eq_error {p : Prop} [Decidable p] {v w : Violation} {rest : Except Violation Unit}
    (h : (if p then .error v else rest) = .error w) : v = w ∨ rest = .error w := by
  split at h
  · exact .inl (Except.error.inj h)
  · exact .inr h

theorem Placement.ofField_of_check {p : Placement} {element : Element} {columns : Nat}
    {v : Violation} (h : p.check element columns = .error v) : v.OfField := by
  unfold check at h
  rcases refuse_eq_error h with rfl | h
  · trivial
  rcases refuse_eq_error h with rfl | h
  · trivial
  rcases refuse_eq_error h with rfl | h
  · trivial
  · cases h

theorem Settings.ofField_of_check {s : Settings} {v : Violation} (h : s.check = .error v) :
    v.OfField := by
  unfold check at h
  simp only at h
  split at h
  · cases h
    trivial
  rcases refuse_eq_error h with rfl | h
  · trivial
  rcases refuse_eq_error h with rfl | h
  · trivial
  rcases refuse_eq_error h with rfl | h
  · trivial
  rcases refuse_eq_error h with rfl | h
  · trivial
  split at h
  · next hcheck =>
    cases h
    exact Placement.ofField_of_check hcheck
  split at h
  · next hcheck =>
    cases h
    exact Placement.ofField_of_check hcheck
  · exact Placement.ofField_of_check h

end ResponsiveGrid
