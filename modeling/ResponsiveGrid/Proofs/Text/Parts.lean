import Mathlib.Data.List.Basic
import ResponsiveGrid.Text.Parts
set_option autoImplicit false

/-!
# Text: parts between separators

A text is cut at a separator in one equation, `parts_append`.  From it follows that pieces without a
separator are found again, whether separators stand between them (`parts_intercalate`) or behind
each of them (`parts_flatMap`).
-/

namespace ResponsiveGrid.Text

variable {separator : Char}

theorem parts_ne_nil (text : List Char) : parts separator text ≠ [] := by
  induction text with
  | nil => exact List.cons_ne_nil _ _
  | cons c text _ =>
    rw [parts]
    split
    · exact List.cons_ne_nil _ _
    · split <;> exact List.cons_ne_nil _ _

theorem parts_of_not_mem {text : List Char} (h : separator ∉ text) :
    parts separator text = [text] := by
  induction text with
  | nil => rfl
  | cons c text ih =>
    rw [List.mem_cons, not_or] at h
    rw [parts, if_neg fun hc => h.1 hc.symm, ih h.2]

/-- The parts of a text are those in front of a separator and those behind it. -/
theorem parts_append (front back : List Char) :
    parts separator (front ++ separator :: back) =
      parts separator front ++ parts separator back := by
  induction front with
  | nil => exact if_pos rfl
  | cons c front ih =>
    rw [List.cons_append, parts, ih, parts]
    split
    · rfl
    · cases hparts : parts separator front with
      | nil => exact absurd hparts (parts_ne_nil front)
      | cons part more => rfl

/-- The parts of joined pieces are the pieces. -/
theorem parts_intercalate {pieces : List (List Char)} (hne : pieces ≠ [])
    (h : ∀ piece ∈ pieces, separator ∉ piece) :
    parts separator (List.intercalate [separator] pieces) = pieces := by
  induction pieces with
  | nil => exact absurd rfl hne
  | cons piece rest ih =>
    cases rest with
    | nil =>
      rw [List.intercalate_singleton]
      exact parts_of_not_mem (h piece List.mem_cons_self)
    | cons next rest =>
      obtain ⟨hpiece, hrest⟩ := List.forall_mem_cons.1 h
      rw [List.intercalate_cons_cons, List.append_assoc, List.singleton_append, parts_append,
        parts_of_not_mem hpiece, ih (List.cons_ne_nil next rest) hrest, List.singleton_append]

/-- The parts of pieces that each have a separator behind them are the pieces, and nothing behind
the last separator. -/
theorem parts_flatMap {pieces : List (List Char)} (h : ∀ piece ∈ pieces, separator ∉ piece) :
    parts separator (pieces.flatMap (· ++ [separator])) = pieces ++ [[]] := by
  induction pieces with
  | nil => rfl
  | cons piece rest ih =>
    obtain ⟨hpiece, hrest⟩ := List.forall_mem_cons.1 h
    rw [List.flatMap_cons, List.append_assoc, List.singleton_append, parts_append,
      parts_of_not_mem hpiece, ih hrest]
    rfl

end ResponsiveGrid.Text
