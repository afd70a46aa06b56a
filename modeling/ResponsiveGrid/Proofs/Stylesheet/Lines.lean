import Mathlib.Data.List.Basic
import ResponsiveGrid.Proofs.Decimal.Numeral
import ResponsiveGrid.Stylesheet.Build
set_option autoImplicit false

/-!
# Stylesheet: the lines of a text

A text is cut at its line breaks, and the lines of texts that are joined by line breaks are
the lines of these texts one after the other (`linesOf_joinLines`).  The text of a sheet is
therefore read section by section: nothing else than a blank statement or a text of its own
puts an empty line into a sheet.
-/

namespace ResponsiveGrid.Stylesheet

theorem linesOf_newline (text : List Char) : linesOf ('\n' :: text) = [] :: linesOf text := by
  simp [linesOf, splitLines]

theorem linesOf_cons {c : Char} (h : c ≠ '\n') (text : List Char) :
    linesOf (c :: text) = (c :: (splitLines text).1) :: (splitLines text).2 := by
  simp [linesOf, splitLines, h]

/-- Lines are cut at a line break. -/
theorem linesOf_append_newline (front back : List Char) :
    linesOf (front ++ '\n' :: back) = linesOf front ++ linesOf back := by
  induction front with
  | nil => exact linesOf_newline back
  | cons c front ih =>
    rw [List.cons_append]
    by_cases hc : c = '\n'
    · rw [hc, linesOf_newline, linesOf_newline, ih, List.cons_append]
    · rw [linesOf_cons hc, linesOf_cons hc]
      obtain ⟨hfirst, hmore⟩ := List.cons.inj ih
      rw [hfirst, hmore]
      rfl

theorem linesOf_of_not_mem {text : List Char} (h : '\n' ∉ text) : linesOf text = [text] := by
  induction text with
  | nil => rfl
  | cons c text ih =>
    rw [List.mem_cons, not_or] at h
    obtain ⟨hfirst, hmore⟩ := List.cons.inj (ih h.2)
    rw [linesOf_cons (fun hc => h.1 hc.symm), hfirst, hmore]

theorem linesOf_joinLines {texts : List (List Char)} (h : texts ≠ []) :
    linesOf (joinLines texts) = texts.flatMap linesOf := by
  induction texts with
  | nil => exact absurd rfl h
  | cons text rest ih =>
    cases rest with
    | nil => simp [joinLines]
    | cons next rest =>
      have hjoin : joinLines (text :: next :: rest) = text ++ '\n' :: joinLines (next :: rest) := by
        simp [joinLines, List.intercalate]
      rw [hjoin, linesOf_append_newline, ih (List.cons_ne_nil next rest)]
      rfl

/-- What stands before the first separator is told apart from what stands behind it. -/
theorem append_separator_inj {α : Type} {separator : α} {front front' back back' : List α}
    (h : separator ∉ front) (h' : separator ∉ front')
    (heq : front ++ separator :: back = front' ++ separator :: back') :
    front = front' ∧ back = back' := by
  induction front generalizing front' with
  | nil =>
    cases front' with
    | nil => exact ⟨rfl, List.tail_eq_of_cons_eq heq⟩
    | cons b front' => exact absurd (List.head_eq_of_cons_eq heq ▸ List.mem_cons_self) h'
  | cons a front ih =>
    cases front' with
    | nil => exact absurd (List.head_eq_of_cons_eq heq ▸ List.mem_cons_self) h
    | cons b front' =>
      obtain ⟨hhead, htail⟩ := List.cons.inj heq
      obtain ⟨hfront, hback⟩ := ih (fun hmem => h (List.mem_cons_of_mem _ hmem))
        (fun hmem => h' (List.mem_cons_of_mem _ hmem)) htail
      exact ⟨by rw [hhead, hfront], hback⟩

end ResponsiveGrid.Stylesheet
