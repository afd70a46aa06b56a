import ResponsiveGrid.Proofs.Stylesheet.Lines
set_option autoImplicit false

/-!
# Stylesheet: printing a statement in one walk

A rule takes the finished texts of its children, cuts them at their line breaks and indents
every line, so that a line is indented once for every rule around it.  `Node.printAt` writes
the same text in one walk through the tree: it carries the depth along and indents every
line once, where it is written.  `render_eq_printAt` is that the two texts are the same, for
every tree and whatever line breaks its texts have in them.

What carries the induction is `linesAt_render`: the lines of a text, put at any depth, are
the lines that the walk writes at this depth.
-/

namespace ResponsiveGrid.Stylesheet

/-! ## The walk -/

/-- A line at a depth, two blanks for each level.  An empty line stays empty. -/
def lineAt (depth : Nat) (line : List Char) : List Char :=
  if line = [] then [] else List.replicate (2 * depth) ' ' ++ line

/-- The lines of a text at a depth. -/
def linesAt (depth : Nat) (text : List Char) : List (List Char) :=
  (linesOf text).map (lineAt depth)

mutual

/-- The lines of a statement at a depth.  The children of a rule stand between the line that
opens it and the line that closes it, one level deeper; a rule without children is one
text. -/
def Node.linesAt (depth : Nat) : Node → List (List Char)
  | .comment content => Stylesheet.linesAt depth ("// ".toList ++ content.toList)
  | .declaration property value =>
      Stylesheet.linesAt depth
        (property.toList ++ ": ".toList ++ Phrase.render value ++ ";".toList)
  | .variable name value =>
      Stylesheet.linesAt depth
        ("$".toList ++ name.toList ++ ": ".toList ++ Phrase.render value ++ ";".toList)
  | .verbatim content => Stylesheet.linesAt depth content.toList
  | .blank => [[]]
  | .rule header [] => Stylesheet.linesAt depth (Phrase.render header ++ " \x7b\x7d".toList)
  | .rule header (child :: children) =>
      Stylesheet.linesAt depth (Phrase.render header ++ " \x7b".toList) ++
        (allLinesAt (depth + 1) (child :: children) ++ Stylesheet.linesAt depth "\x7d".toList)

/-- The lines of statements at a depth, one statement behind the other. -/
def allLinesAt (depth : Nat) : List Node → List (List Char)
  | [] => []
  | node :: rest => node.linesAt depth ++ allLinesAt depth rest

end

/-- The text of a statement at a depth. -/
def Node.printAt (depth : Nat) (node : Node) : List Char := joinLines (node.linesAt depth)

/-! ## Lines of lines -/

theorem newline_not_mem_linesOf (text : List Char) : ∀ line ∈ linesOf text, '\n' ∉ line := by
  induction text with
  | nil => simp [linesOf, splitLines]
  | cons c text ih =>
    by_cases hc : c = '\n'
    · rw [hc, linesOf_newline]
      exact List.forall_mem_cons.2 ⟨List.not_mem_nil, ih⟩
    · obtain ⟨hfirst, hmore⟩ := List.forall_mem_cons.1 ih
      rw [linesOf_cons hc]
      refine List.forall_mem_cons.2 ⟨?_, hmore⟩
      rw [List.mem_cons, not_or]
      exact ⟨Ne.symm hc, hfirst⟩

theorem linesOf_joinLines_of_lines {lines : List (List Char)} (hne : lines ≠ [])
    (h : ∀ line ∈ lines, '\n' ∉ line) : linesOf (joinLines lines) = lines := by
  rw [linesOf_joinLines hne]
  calc lines.flatMap linesOf
      = lines.flatMap fun line => [line] :=
        List.flatMap_congr fun line hline => linesOf_of_not_mem (h line hline)
    _ = lines := List.flatMap_singleton' lines

theorem joinLines_linesOf (text : List Char) : joinLines (linesOf text) = text := by
  induction text with
  | nil => rfl
  | cons c text ih =>
    by_cases hc : c = '\n'
    · rw [hc, linesOf_newline]
      have hjoin : joinLines ([] :: linesOf text) = '\n' :: joinLines (linesOf text) := by
        simp [joinLines, linesOf, List.intercalate]
      rw [hjoin, ih]
    · have hjoin : joinLines ((c :: (splitLines text).1) :: (splitLines text).2) =
          c :: joinLines (linesOf text) := by
        unfold joinLines linesOf
        cases (splitLines text).2 <;> simp [List.intercalate]
      rw [linesOf_cons hc, hjoin, ih]

/-! ## Depths -/

theorem lineAt_zero (line : List Char) : lineAt 0 line = line := by
  unfold lineAt
  split
  · next h => exact h.symm
  · rfl

theorem lineAt_indentLine (depth : Nat) (line : List Char) :
    lineAt depth (indentLine line) = lineAt (depth + 1) line := by
  unfold indentLine lineAt
  by_cases hline : line = []
  · simp [hline]
  · have hblanks : List.replicate (2 * (depth + 1)) ' ' =
        List.replicate (2 * depth) ' ' ++ [' ', ' '] := by
      rw [Nat.mul_succ, List.replicate_add]
      rfl
    simp [hline, hblanks]

theorem linesOf_indent (text : List Char) : linesOf (indent text) = (linesOf text).map indentLine := by
  unfold indent
  apply linesOf_joinLines_of_lines
  · exact List.cons_ne_nil _ _
  · intro line hline
    obtain ⟨line, hmem, rfl⟩ := List.mem_map.1 hline
    have hbreak := newline_not_mem_linesOf text line hmem
    unfold indentLine
    split
    · exact List.not_mem_nil
    · simpa using hbreak

/-- The lines of an indented text stand one level deeper than those of the text. -/
theorem linesAt_indent (depth : Nat) (text : List Char) :
    linesAt depth (indent text) = linesAt (depth + 1) text := by
  unfold linesAt
  rw [linesOf_indent, List.map_map]
  exact List.map_congr_left fun line _ => lineAt_indentLine depth line

theorem linesAt_append_newline (depth : Nat) (front back : List Char) :
    linesAt depth (front ++ '\n' :: back) = linesAt depth front ++ linesAt depth back := by
  unfold linesAt
  rw [linesOf_append_newline, List.map_append]

theorem linesAt_joinLines (depth : Nat) {texts : List (List Char)} (h : texts ≠ []) :
    linesAt depth (joinLines texts) = texts.flatMap (linesAt depth) := by
  unfold linesAt
  rw [linesOf_joinLines h, List.map_flatMap]

/-! ## The two printers -/

mutual

/-- The lines of the text of a statement, put at a depth, are those that the walk writes
there. -/
theorem linesAt_render (node : Node) (depth : Nat) :
    linesAt depth node.render = node.linesAt depth := by
  match node with
  | .comment content => rfl
  | .declaration property value => simp [Node.render, Node.linesAt]
  | .variable name value => simp [Node.render, Node.linesAt]
  | .verbatim content => rfl
  | .blank => rfl
  | .rule header [] => rfl
  | .rule header (child :: children) =>
    have hne : renderIndented (child :: children) ≠ [] := List.cons_ne_nil _ _
    have htext : (Node.rule header (child :: children)).render =
        (Phrase.render header ++ " \x7b".toList) ++ '\n' ::
          (joinLines (renderIndented (child :: children)) ++ '\n' :: "\x7d".toList) := by
      simp [Node.render]
    rw [htext, linesAt_append_newline, linesAt_append_newline, linesAt_joinLines depth hne,
      linesAt_renderIndented (child :: children) depth]
    rfl

theorem linesAt_renderIndented (nodes : List Node) (depth : Nat) :
    (renderIndented nodes).flatMap (linesAt depth) = allLinesAt (depth + 1) nodes := by
  match nodes with
  | [] => rfl
  | node :: rest =>
    rw [renderIndented, List.flatMap_cons, linesAt_indent, linesAt_render node (depth + 1),
      linesAt_renderIndented rest depth, allLinesAt]

end

theorem linesAt_zero (text : List Char) : linesAt 0 text = linesOf text := by
  unfold linesAt
  calc (linesOf text).map (lineAt 0)
      = (linesOf text).map id := List.map_congr_left fun line _ => lineAt_zero line
    _ = linesOf text := List.map_id _

/-- Indenting children again and again writes what one walk by depth writes. -/
theorem render_eq_printAt (node : Node) : node.render = node.printAt 0 := by
  unfold Node.printAt
  rw [← linesAt_render node 0, linesAt_zero, joinLines_linesOf]

/-- Line breaks in a text and empty lines do not come in the way of the indentation. -/
example : (Node.rule [.text "a"] [.rule [.text "b"] [.verbatim "c\n\nd", .blank]]).printAt 0 =
    "a \x7b\n  b \x7b\n    c\n\n    d\n\n  \x7d\n\x7d".toList := by
  decide

end ResponsiveGrid.Stylesheet
