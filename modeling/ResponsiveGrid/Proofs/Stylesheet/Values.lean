import ResponsiveGrid.Proofs.Decimal.Text
import ResponsiveGrid.Proofs.Stylesheet.Names
set_option autoImplicit false

/-!
# Stylesheet: the texts of values

What the values of variables are written as.  Values of one field are told apart by their
texts (`expression_inj`), and neither names nor values break a line.
-/

namespace ResponsiveGrid.Stylesheet

/-! ## Characters of values -/

theorem toList_pixels (px : Nat) :
    (TrackValue.pixels px).expression.toList =
      'r' :: 'e' :: 'm' :: '(' :: (Nat.toDigits 10 px ++ [')']) := by
  simp only [TrackValue.expression, String.toList_append, Nat.toString_eq_repr, Nat.toList_repr,
    List.append_assoc]
  rfl

theorem toList_count (n : Nat) : (TrackValue.count n).expression.toList = Nat.toDigits 10 n := by
  simp only [TrackValue.expression, Nat.toString_eq_repr, Nat.toList_repr]

theorem toList_ratio (x : Float) :
    (TrackValue.ratio x).expression.toList =
      "percentage(".toList ++ (Decimal.plain x ++ [')']) := by
  have hdigits : (toString (String.ofList (Decimal.plain x))).toList = Decimal.plain x :=
    String.toList_ofList
  simp only [TrackValue.expression, String.toList_append, List.append_assoc]
  rw [hdigits]
  rfl

theorem pixels_inj {m n : Nat}
    (h : (TrackValue.pixels m).expression = (TrackValue.pixels n).expression) : m = n := by
  have hchars := congrArg String.toList h
  rw [toList_pixels, toList_pixels] at hchars
  have hdigits := List.append_cancel_left
    (show ['r', 'e', 'm', '('] ++ _ = ['r', 'e', 'm', '('] ++ _ from hchars)
  exact Decimal.toDigits_inj (List.append_cancel_right hdigits)

theorem pixels_ne_none (px : Nat) :
    (TrackValue.pixels px).expression ≠ (TrackValue.width none).expression := by
  intro h
  have hchars := congrArg String.toList h
  rw [toList_pixels] at hchars
  cases List.head_eq_of_cons_eq (hchars.trans (rfl : _ = 'n' :: ['o', 'n', 'e']))

/-- The values of a field in settings within bounds are told apart by their texts. -/
theorem expression_inj {a b : Settings} (ha : a.Valid) (hb : b.Valid) {track : Track}
    (h : (track.valueIn a).expression = (track.valueIn b).expression) :
    track.valueIn a = track.valueIn b := by
  cases track with
  | contentMaxWidth =>
    unfold Track.valueIn at h ⊢
    cases hcap : a.contentMaxWidth with
    | none =>
      cases hother : b.contentMaxWidth with
      | none => rfl
      | some n =>
        rw [hcap, hother] at h
        exact absurd h.symm (pixels_ne_none n)
    | some m =>
      cases hother : b.contentMaxWidth with
      | none =>
        rw [hcap, hother] at h
        exact absurd h (pixels_ne_none m)
      | some n =>
        rw [hcap, hother] at h
        rw [pixels_inj h]
  | columns =>
    have hchars := congrArg String.toList h
    simp only [Track.valueIn, toList_count] at hchars ⊢
    rw [Decimal.toDigits_inj hchars]
  | gutter => exact congrArg TrackValue.pixels (pixels_inj h)
  | margin => exact congrArg TrackValue.pixels (pixels_inj h)
  | scale =>
    have hchars := congrArg String.toList h
    simp only [Track.valueIn, toList_ratio] at hchars ⊢
    have hdigits := List.append_cancel_right (List.append_cancel_left hchars)
    rw [Decimal.plain_inj ha.scale hb.scale hdigits]

/-! ## Lines and blanks -/

theorem not_mem_toDigits {c : Char} (hc : c.isDigit = false) (n : Nat) :
    c ∉ Nat.toDigits 10 n := by
  intro h
  rw [Decimal.isDigit_of_mem_toDigits h] at hc
  cases hc

/-- No value breaks a line, uses a variable or quotes anything. -/
theorem not_mem_expression {c : Char} (hc : c = '\n' ∨ c = '$' ∨ c = '"') (v : TrackValue) :
    c ∉ v.expression.toList := by
  have hdigits : ∀ n, c ∉ Nat.toDigits 10 n := by
    refine not_mem_toDigits ?_
    rcases hc with rfl | rfl | rfl <;> rfl
  have hpixels : ∀ px, c ∉ (TrackValue.pixels px).expression.toList := by
    intro px
    rw [toList_pixels]
    rcases hc with rfl | rfl | rfl <;> simp [hdigits]
  cases v with
  | width value =>
    cases value with
    | none => rcases hc with rfl | rfl | rfl <;> decide
    | some px => exact hpixels px
  | pixels px => exact hpixels px
  | count n =>
    rw [toList_count]
    exact hdigits n
  | ratio x =>
    have hplain := Decimal.not_mem_plain hc x
    rw [toList_ratio]
    rcases hc with rfl | rfl | rfl <;> simp [hplain]

theorem not_mem_name {c : Char} (hc : c = ' ' ∨ c = '\n' ∨ c = '$') (key : Key) :
    c ∉ key.name.toList := by
  have hdigits : ∀ n, c ∉ Nat.toDigits 10 n := by
    refine not_mem_toDigits ?_
    rcases hc with rfl | rfl | rfl <;> rfl
  cases key with
  | root => rcases hc with rfl | rfl | rfl <;> decide
  | marker n =>
    rw [Key.toList_name_marker]
    rcases hc with rfl | rfl | rfl <;> simp [hdigits]

theorem not_mem_label {c : Char} (hc : c = ' ' ∨ c = '\n' ∨ c = '$') (key : Key) :
    c ∉ key.label.toList := by
  have hdigits : ∀ n, c ∉ Nat.toDigits 10 n := by
    refine not_mem_toDigits ?_
    rcases hc with rfl | rfl | rfl <;> rfl
  cases key with
  | root => simp [Key.label]
  | marker n =>
    rw [Key.toList_label_marker]
    rcases hc with rfl | rfl | rfl <;> simp [hdigits]

theorem not_mem_variableFor {c : Char} (hc : c = ' ' ∨ c = '\n' ∨ c = '$') (track : Track)
    (key : Key) (value : TrackValue) : c ∉ (variableFor track key value).name.toList := by
  have htrack : c ∉ track.variableName.toList := by
    rcases hc with rfl | rfl | rfl <;> cases track <;> decide
  unfold variableFor
  simp only [String.toList_append, List.mem_append, not_or]
  exact ⟨not_mem_label hc key, htrack⟩

end ResponsiveGrid.Stylesheet
