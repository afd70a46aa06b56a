import ResponsiveGrid.Proofs.Json.Alternatives
import ResponsiveGrid.Proofs.Machine.Word
import ResponsiveGrid.Wire
set_option autoImplicit false

/-!
# Wire: layouts that are read back

The text of a layout does not name its form.  It is read back all the same
(`Layout.parse_texts`): both forms are an object around an object of columns, and the columns
of one form share no field with those of the other one.  The form that is tried first
therefore steps over all the fields of the second one and misses its own.

Layouts hold words, with a sign or without one (`Layout.Storable`).  Any words will do; that
a layout has been computed from an entry is not needed.
-/

namespace ResponsiveGrid

open Json

/-! ## Columns with a fixed width -/

namespace SketchColumns

/-- All numbers of columns with a fixed width fit the words that they are read to. -/
structure Storable (c : SketchColumns) : Prop where
  totalWidth : IsSigned c.totalWidth
  offset : IsSigned c.offset
  numberOfColumns : c.numberOfColumns ≤ largest32
  gutterWidth : c.gutterWidth ≤ largest32
  columnWidth : IsSigned c.columnWidth

theorem Storable.stored {c : SketchColumns} (h : c.Storable) : Stored c.toJson ofJson c := by
  have htotal := stored_integer h.totalWidth.1 h.totalWidth.2
  have hoffset := stored_integer h.offset.1 h.offset.2
  have hnumber := stored_natural h.numberOfColumns
  have houtside := stored_boolean c.gutterOnOutside
  have hgutter := stored_natural h.gutterWidth
  have hcolumn := stored_integer h.columnWidth.1 h.columnWidth.2
  refine stored_record (.field rfl rfl (htotal.map _) (.field rfl rfl (hoffset.map _)
    (.field rfl rfl (hnumber.map _) (.field rfl rfl (houtside.map _)
      (.field rfl rfl (hgutter.map _) (.field rfl rfl (hcolumn.map _) (.nil _))))))) ?_
  rfl

theorem Storable.whole {c : SketchColumns} (h : c.Storable) (depth : Nat) :
    Whole (depth + 1) c.toJson := by
  refine whole_object ?_
  simp only [List.forall_mem_cons, List.not_mem_nil, false_implies, implies_true, and_true]
  exact ⟨whole_integer h.totalWidth.1 h.totalWidth.2 depth,
    whole_integer h.offset.1 h.offset.2 depth, whole_natural h.numberOfColumns depth,
    whole_boolean c.gutterOnOutside depth, whole_natural h.gutterWidth depth,
    whole_integer h.columnWidth.1 h.columnWidth.2 depth⟩

end SketchColumns

/-! ## Stretched columns -/

namespace FigmaColumns

/-- All numbers of stretched columns fit the words that they are read to. -/
structure Storable (c : FigmaColumns) : Prop where
  count : c.count ≤ largest32
  margin : IsSigned c.margin
  gutter : c.gutter ≤ largest32

theorem Storable.stored {c : FigmaColumns} (h : c.Storable) : Stored c.toJson ofJson c := by
  have hcount := stored_natural h.count
  have hkind : Stored (.string "Stretch") (Shape.variant [("Stretch", ())]) () :=
    stored_variant rfl
  have hmargin := stored_integer h.margin.1 h.margin.2
  have hgutter := stored_natural h.gutter
  refine stored_record (.field rfl rfl (hcount.map _) (.field rfl rfl (hkind.map _)
    (.field rfl rfl (hmargin.map _) (.field rfl rfl (hgutter.map _) (.nil _))))) ?_
  rfl

theorem Storable.whole_fields {c : FigmaColumns} (h : c.Storable) (depth : Nat) :
    ∀ f ∈ [("count", natural c.count), ("type", .string "Stretch"), ("margin", .integer c.margin),
      ("gutter", natural c.gutter)], Whole depth f.2 := by
  simp only [List.forall_mem_cons, List.not_mem_nil, false_implies, implies_true, and_true]
  exact ⟨whole_natural h.count depth, whole_string "Stretch" depth,
    whole_integer h.margin.1 h.margin.2 depth, whole_natural h.gutter depth⟩

theorem Storable.whole {c : FigmaColumns} (h : c.Storable) (depth : Nat) :
    Whole (depth + 1) c.toJson :=
  whole_object (h.whole_fields depth)

theorem Storable.refused {c : FigmaColumns} (h : c.Storable) :
    Refused c.toJson SketchColumns.ofJson (.mismatch (.missingField "totalWidth")) := by
  refine refused_record (h.whole_fields 0) ?_ rfl
  simp only [List.forall_mem_cons, List.not_mem_nil, false_implies, implies_true, and_true]
  exact ⟨rfl, rfl, rfl, rfl⟩

end FigmaColumns

/-! ## Layouts -/

namespace Layout

section

variable {α : Type} {v : Json} {read : Shape α}

theorem stored_wrapped {x : α} (h : Stored v read x) (name : String) :
    Stored (.object [("columns", v)]) (wrapped name read) x :=
  stored_record (.field rfl rfl (h.map some) (.nil _)) rfl

theorem refused_wrapped {fault : Fault} (h : Refused v read fault) (name : String) :
    Refused (.object [("columns", v)]) (wrapped name read) fault :=
  refused_field rfl rfl (h.map some)

theorem whole_wrapped {depth : Nat} (h : Whole depth v) :
    Whole (depth + 1) (.object [("columns", v)]) :=
  whole_object (List.forall_mem_singleton.2 h)

end

/-- All numbers of a layout fit the words that they are read to. -/
def Storable : Layout → Prop
  | .sketch columns => columns.Storable
  | .figma columns => columns.Storable

/-- A layout with stretched columns is never taken for one with a fixed column width. -/
theorem refused {columns : FigmaColumns} (h : columns.Storable) :
    Refused (toJson (.figma columns)) sketchOfJson (.mismatch (.missingField "totalWidth")) :=
  (refused_wrapped h.refused "SketchLayoutSettings").map Layout.sketch

theorem Storable.stored {l : Layout} (h : l.Storable) : Stored l.toJson ofJson l := by
  -- a layout is two levels deep, and `depthLimit` allows 127
  cases l with
  | sketch columns =>
    have hfits := (stored_wrapped (SketchColumns.Storable.stored h) "SketchLayoutSettings").map
      Layout.sketch
    have hwhole : Whole depthLimit (toJson (.sketch columns)) :=
      whole_wrapped (SketchColumns.Storable.whole h 125)
    exact hfits.firstFitting hwhole "ExternalLayout" [figmaOfJson]
  | figma columns =>
    have hfits := (stored_wrapped (FigmaColumns.Storable.stored h) "FigmaLayoutGrid").map
      Layout.figma
    have hwhole : Whole depthLimit (toJson (.figma columns)) :=
      whole_wrapped (FigmaColumns.Storable.whole h 125)
    exact (refused h).firstFitting (hfits.firstFitting hwhole "ExternalLayout" [])

/-- Both texts of a layout stand for the layout, and neither text of stretched columns can be
read as columns with a fixed width. -/
theorem parse_texts (l : Layout) (h : l.Storable) :
    Json.parse ofJson l.text = .ok l ∧ Json.parse ofJson l.prettyText = .ok l ∧
      ∀ columns, l = .figma columns →
        Json.parse sketchOfJson l.text = .error (.mismatch (.missingField "totalWidth")) ∧
        Json.parse sketchOfJson l.prettyText = .error (.mismatch (.missingField "totalWidth")) := by
  refine ⟨h.stored.parse_compact, h.stored.parse_pretty, ?_⟩
  rintro columns rfl
  exact ⟨(refused h).parse_compact, (refused h).parse_pretty⟩

/-- The ends of the words are read back. -/
theorem parse_texts_at_ends :
    Json.parse ofJson (text (.figma ⟨4294967295, -9223372036854775808, 0⟩)) =
        .ok (.figma ⟨4294967295, -9223372036854775808, 0⟩) ∧
      Json.parse ofJson (prettyText (.sketch ⟨9223372036854775807, -9223372036854775808,
          4294967295, true, 0, -1⟩)) =
        .ok (.sketch ⟨9223372036854775807, -9223372036854775808, 4294967295, true, 0, -1⟩) := by
  have hfigma : Storable (.figma ⟨4294967295, -9223372036854775808, 0⟩) :=
    ⟨by decide, by decide, by decide⟩
  have hsketch : Storable (.sketch ⟨9223372036854775807, -9223372036854775808, 4294967295, true,
      0, -1⟩) := ⟨by decide, by decide, by decide, by decide, by decide⟩
  exact ⟨(parse_texts _ hfigma).1, (parse_texts _ hsketch).2.1⟩

end Layout

end ResponsiveGrid
