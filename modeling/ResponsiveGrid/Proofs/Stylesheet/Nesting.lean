import ResponsiveGrid.Proofs.Stylesheet.Determined
import ResponsiveGrid.Proofs.Stylesheet.Printing
import ResponsiveGrid.Proofs.Stylesheet.Rules
import ResponsiveGrid.Text.Blank
set_option autoImplicit false

/-!
# Stylesheet: lines and open blocks

A reader that knows nothing of statements goes through a text line by line and counts the
blocks that are open: a line that ends in a blank and an opening brace opens one, and a line
that is a closing brace closes one.  `LaidOut` says that such a reader finds every line as
deep as its blocks demand, that all blocks are closed at the end, and that no line ends in
white space.

A statement `Nests` when its lines leave as many blocks open as there were, at every depth.
A rule nests when its children do, and so `laidOut_generate` comes out of the kinds of
statements that sheets are made of, whatever the number of markers and runs is.
-/

namespace ResponsiveGrid.Stylesheet

/-! ## Counting blocks -/

/-- The number of open blocks behind a line, with `depth` open before it.  There is none
when the line does not start where it has to: two blanks in for every open block, and a
line that closes a block as far in as the block itself. -/
def openBehind (depth : Nat) (line : List Char) : Option Nat :=
  let margin := line.takeWhile Text.isBlank
  if line = [] then some depth
  else if line.dropWhile Text.isBlank = ['}'] then
    if 0 < depth ∧ margin = List.replicate (2 * (depth - 1)) ' ' then some (depth - 1) else none
  else if margin = List.replicate (2 * depth) ' ' then
    if [' ', '{'] <:+ line then some (depth + 1) else some depth
  else none

/-- A text that ends in a line break, whose lines have no white space at their ends and
stand as deep as the blocks that are open. -/
structure LaidOut (text : List Char) : Prop where
  ends : text.getLast? = some '\n'
  trimmed : ∀ line ∈ linesOf text, ∀ c ∈ line.getLast?, Text.isBlank c = false
  nested : (linesOf text).foldlM openBehind 0 = some 0

/-- Lines that stand inside so many blocks, and close all that they open. -/
structure Nests (depth : Nat) (lines : List (List Char)) : Prop where
  trimmed : ∀ line ∈ lines, ∀ c ∈ line.getLast?, Text.isBlank c = false
  nested : lines.foldlM openBehind depth = some depth

/-! ## Single lines -/

/-- A text that a line can start with: it does not break the line, and it does not start
with white space. -/
structure Begins (text : List Char) : Prop where
  unbroken : '\n' ∉ text
  first : text.head?.map Text.isBlank = some false

instance (text : List Char) : Decidable (Begins text) :=
  decidable_of_iff ('\n' ∉ text ∧ text.head?.map Text.isBlank = some false)
    ⟨fun h => ⟨h.1, h.2⟩, fun h => ⟨h.1, h.2⟩⟩

theorem Begins.exists_cons {text : List Char} (h : Begins text) :
    ∃ c rest, text = c :: rest ∧ Text.isBlank c = false := by
  obtain ⟨c, hc, hblank⟩ := Option.map_eq_some_iff.1 h.first
  obtain ⟨rest, hrest⟩ := List.head?_eq_some_iff.1 hc
  exact ⟨c, rest, hrest, hblank⟩

theorem Begins.append {front back : List Char} (h : Begins front) (hback : '\n' ∉ back) :
    Begins (front ++ back) where
  unbroken := by
    rw [List.mem_append, not_or]
    exact ⟨h.unbroken, hback⟩
  first := by
    obtain ⟨c, rest, rfl, hblank⟩ := h.exists_cons
    exact congrArg some hblank

theorem Begins.ne_nil {text : List Char} (h : Begins text) : text ≠ [] := by
  obtain ⟨c, rest, rfl, -⟩ := h.exists_cons
  exact List.cons_ne_nil c rest

/-- At a depth the text is one line, behind its margin. -/
theorem Begins.linesAt {text : List Char} (h : Begins text) (depth : Nat) :
    linesAt depth text = [List.replicate (2 * depth) ' ' ++ text] := by
  unfold Stylesheet.linesAt lineAt
  rw [linesOf_of_not_mem h.unbroken, List.map_singleton, if_neg h.ne_nil]

theorem Begins.margin {text : List Char} (h : Begins text) (n : Nat) :
    (List.replicate n ' ' ++ text).takeWhile Text.isBlank = List.replicate n ' ' ∧
      (List.replicate n ' ' ++ text).dropWhile Text.isBlank = text := by
  have hblanks : ∀ c ∈ List.replicate n ' ', Text.isBlank c = true := by
    intro c hc
    rw [List.eq_of_mem_replicate hc]
    rfl
  obtain ⟨c, rest, rfl, hblank⟩ := h.exists_cons
  have hstop : ¬ Text.isBlank c = true := Bool.eq_false_iff.1 hblank
  rw [List.takeWhile_append_of_pos hblanks, List.dropWhile_append_of_pos hblanks,
    List.takeWhile_cons_of_neg hstop, List.dropWhile_cons_of_neg hstop, List.append_nil]
  exact ⟨rfl, rfl⟩

/-- What a line that does not close a block does to the count. -/
theorem openBehind_of_begins {text : List Char} (h : Begins text) (hclose : text ≠ ['}'])
    (depth : Nat) : openBehind depth (List.replicate (2 * depth) ' ' ++ text) =
      if [' ', '{'] <:+ List.replicate (2 * depth) ' ' ++ text then some (depth + 1)
      else some depth := by
  obtain ⟨hmargin, hcontent⟩ := h.margin (2 * depth)
  have hne : List.replicate (2 * depth) ' ' ++ text ≠ [] :=
    List.append_ne_nil_of_right_ne_nil _ h.ne_nil
  unfold openBehind
  simp only [hmargin, hcontent, if_neg hne, if_neg hclose, if_true]

theorem nests_text {text : List Char} {c : Char} (h : Begins text) (hlast : text.getLast? = some c)
    (hblank : Text.isBlank c = false) (hopen : c ≠ '{') (hclose : text ≠ ['}']) (depth : Nat) :
    Nests depth (linesAt depth text) := by
  have hend : (List.replicate (2 * depth) ' ' ++ text).getLast? = some c := by
    rw [List.getLast?_append, hlast]
    rfl
  have hopens : ¬ [' ', '{'] <:+ List.replicate (2 * depth) ' ' ++ text := by
    rintro ⟨front, hfront⟩
    rw [← hfront, List.getLast?_append] at hend
    exact hopen (Option.some.inj hend).symm
  rw [h.linesAt]
  constructor
  · intro line hline d hd
    rw [List.mem_singleton.1 hline, hend] at hd
    cases hd
    exact hblank
  · rw [List.foldlM_cons, openBehind_of_begins h hclose, if_neg hopens]
    rfl

theorem openBehind_opening {header : List Char} (h : Begins header) (depth : Nat) :
    linesAt depth (header ++ " \x7b".toList) =
        [List.replicate (2 * depth) ' ' ++ (header ++ " \x7b".toList)] ∧
      openBehind depth (List.replicate (2 * depth) ' ' ++ (header ++ " \x7b".toList)) =
        some (depth + 1) := by
  have hbegins : Begins (header ++ " \x7b".toList) := h.append (by decide)
  have hclose : header ++ " \x7b".toList ≠ ['}'] := by
    intro heq
    have hlast := congrArg List.getLast? heq
    rw [List.getLast?_append] at hlast
    cases hlast
  have hopens : [' ', '{'] <:+ List.replicate (2 * depth) ' ' ++ (header ++ " \x7b".toList) :=
    ⟨_, List.append_assoc _ _ _⟩
  refine ⟨hbegins.linesAt depth, ?_⟩
  rw [openBehind_of_begins hbegins hclose, if_pos hopens]

theorem openBehind_closing (depth : Nat) :
    linesAt depth "\x7d".toList = [List.replicate (2 * depth) ' ' ++ ['}']] ∧
      openBehind (depth + 1) (List.replicate (2 * depth) ' ' ++ ['}']) = some depth := by
  have hbegins : Begins ['}'] := by decide
  obtain ⟨hmargin, hcontent⟩ := hbegins.margin (2 * depth)
  refine ⟨hbegins.linesAt depth, ?_⟩
  unfold openBehind
  simp [hmargin, hcontent]

/-! ## Statements -/

theorem nests_nil (depth : Nat) : Nests depth [] := ⟨List.forall_mem_nil _, rfl⟩

/-- Lines that nest can stand behind each other. -/
theorem Nests.append {depth : Nat} {front back : List (List Char)} (h : Nests depth front)
    (hback : Nests depth back) : Nests depth (front ++ back) where
  trimmed := List.forall_mem_append.2 ⟨h.trimmed, hback.trimmed⟩
  nested := by
    rw [List.foldlM_append, h.nested]
    exact hback.nested

theorem nests_allLinesAt {depth : Nat} {nodes : List Node}
    (h : ∀ node ∈ nodes, Nests depth (node.linesAt depth)) :
    Nests depth (allLinesAt depth nodes) := by
  induction nodes with
  | nil => exact nests_nil depth
  | cons node rest ih =>
    rw [allLinesAt]
    exact (h node List.mem_cons_self).append (ih fun n hn => h n (List.mem_cons_of_mem _ hn))

theorem nests_blank (depth : Nat) : Nests depth (Node.blank.linesAt depth) := by
  refine ⟨?_, rfl⟩
  intro line hline c hc
  rw [List.mem_singleton.1 hline] at hc
  cases hc

theorem nests_comment {content : String} {c : Char} (h : '\n' ∉ content.toList)
    (hlast : content.toList.getLast? = some c) (hblank : Text.isBlank c = false) (hopen : c ≠ '{')
    (depth : Nat) : Nests depth ((Node.comment content).linesAt depth) := by
  have hbegins : Begins "// ".toList := by decide
  refine nests_text (hbegins.append h) ?_ hblank hopen ?_ depth
  · rw [List.getLast?_append, hlast]
    rfl
  · intro heq
    cases List.head_eq_of_cons_eq (heq : '/' :: _ = _)

theorem nests_semicolon {front : List Char} (h : Begins front) (depth : Nat) :
    Nests depth (linesAt depth (front ++ ";".toList)) := by
  have hlast : (front ++ ";".toList).getLast? = some ';' := by
    rw [List.getLast?_append]
    rfl
  refine nests_text (h.append (by decide)) hlast rfl (by decide) ?_ depth
  intro heq
  rw [heq] at hlast
  cases hlast

theorem newline_not_mem_render {phrase : Phrase} (h : ∀ piece ∈ phrase, '\n' ∉ piece.render) :
    '\n' ∉ Phrase.render phrase := by
  unfold Phrase.render
  rw [List.mem_flatMap]
  rintro ⟨piece, hpiece, hmem⟩
  exact h piece hpiece hmem

theorem nests_declaration {property : String} {value : Phrase} (h : Begins property.toList)
    (hvalue : ∀ piece ∈ value, '\n' ∉ piece.render) (depth : Nat) :
    Nests depth ((Node.declaration property value).linesAt depth) :=
  nests_semicolon ((h.append (by decide)).append (newline_not_mem_render hvalue)) depth

theorem nests_variable {name value : String} (h : '\n' ∉ name.toList) (hvalue : '\n' ∉ value.toList)
    (depth : Nat) : Nests depth ((Node.variable name [.text value]).linesAt depth) := by
  have hdollar : Begins "$".toList := by decide
  have hphrase : '\n' ∉ Phrase.render [.text value] := by
    rw [Phrase.render, List.flatMap_singleton]
    exact hvalue
  exact nests_semicolon (((hdollar.append h).append (by decide)).append hphrase) depth

/-- A rule nests when its children do, one level deeper. -/
theorem nests_rule {header : Phrase} {children : List Node} (h : Begins (Phrase.render header))
    {depth : Nat} (hchildren : ∀ node ∈ children, Nests (depth + 1) (node.linesAt (depth + 1))) :
    Nests depth ((Node.rule header children).linesAt depth) := by
  cases children with
  | nil =>
    have hlast : (Phrase.render header ++ " \x7b\x7d".toList).getLast? = some '}' := by
      rw [List.getLast?_append]
      rfl
    refine nests_text (h.append (by decide)) hlast rfl (by decide) ?_ depth
    intro heq
    have hlength := congrArg List.length heq
    simp at hlength
  | cons child rest =>
    have hinner := nests_allLinesAt hchildren
    obtain ⟨hopening, hopen⟩ := openBehind_opening h depth
    obtain ⟨hclosing, hclose⟩ := openBehind_closing depth
    rw [Node.linesAt, hopening, hclosing]
    constructor
    · simp only [List.forall_mem_append, List.forall_mem_singleton]
      refine ⟨?_, hinner.trimmed, ?_⟩
      · intro c hc
        rw [List.getLast?_append, List.getLast?_append] at hc
        cases hc
        rfl
      · intro c hc
        rw [List.getLast?_append] at hc
        cases hc
        rfl
    · rw [List.singleton_append, List.foldlM_cons, hopen, Option.bind_eq_bind, Option.bind_some,
        List.foldlM_append, hinner.nested, Option.bind_eq_bind, Option.bind_some, List.foldlM_cons,
        hclose]
      rfl

/-! ## The rules of a system -/

section Rules

variable {s : Grid}

theorem begins_media (name : String) (h : '\n' ∉ name.toList) :
    Begins (Phrase.render [.text "@media #\x7b", .variable name, .text "\x7d"]) := by
  have hopening : Begins "@media #\x7b$".toList := by decide
  have hrender : Phrase.render [.text "@media #\x7b", .variable name, .text "\x7d"] =
      "@media #\x7b$".toList ++ name.toList ++ "\x7d".toList := by
    simp [Phrase.render, Piece.render]
  rw [hrender]
  exact (hopening.append h).append (by decide)

theorem newline_not_mem_use {track : Track} {key : Key} {w : Variable}
    (h : (Variables.collect s (markers s)).get? track key = some w) : '\n' ∉ w.use.render := by
  have htrack : track ∈ Track.all := by cases track <;> decide
  have hmem : w ∈ (Variables.collect s (markers s)).all :=
    List.mem_flatMap.2 ⟨track, htrack, List.mem_map_of_mem (Variables.mem_of_get? h)⟩
  have hname := not_mem_variable_name (.inr (.inl rfl)) hmem
  show '\n' ∉ '$' :: w.name.toList
  rw [List.mem_cons, not_or]
  exact ⟨by decide, hname⟩

/-- Everything that the four rules are put together from nests. -/
theorem compositional_nests : Compositional (Variables.collect s (markers s))
    fun node => ∀ depth, Nests depth (node.linesAt depth) where
  blank := nests_blank
  plain := by
    have hproperties : ∀ property ∈ ruleProperties, Begins property.toList := by decide
    have hvalues : ∀ value ∈ plainValues, '\n' ∉ value.toList := by decide
    intro property hproperty value hvalue
    exact nests_declaration (hproperties property hproperty)
      (List.forall_mem_singleton.2 (hvalues value hvalue))
  use := by
    have hproperties : ∀ property ∈ ruleProperties, Begins property.toList := by decide
    intro property hproperty track key w hw
    exact nests_declaration (hproperties property hproperty)
      (List.forall_mem_singleton.2 (newline_not_mem_use hw))
  half := by
    have hproperties : ∀ property ∈ ruleProperties, Begins property.toList := by decide
    have hendings : ∀ ending ∈ halfEndings, '\n' ∉ (" / 2" ++ ending).toList := by decide
    intro property hproperty ending hending key w hw
    exact nests_declaration (hproperties property hproperty)
      (List.forall_mem_cons.2 ⟨newline_not_mem_use hw,
        List.forall_mem_singleton.2 (hendings ending hending)⟩)
  block := by
    intro tracks key hkey condition hcondition body hbody depth
    cases key with
    | root => cases hcondition
    | marker n =>
      cases hcondition
      exact nests_rule (begins_media _ (not_mem_name (.inr (.inl rfl)) (.marker n)))
        fun node hnode => hbody node hnode (depth + 1)
  rule := by
    have hselectors : ∀ selector ∈ ruleSelectors, Begins (Phrase.render [.text selector]) := by
      decide
    intro selector hselector children hchildren depth
    exact nests_rule (hselectors selector hselector)
      fun node hnode => hchildren node hnode (depth + 1)

theorem begins_fractionSelector (key : Key) {kind : String} (hkind : '\n' ∉ kind.toList) :
    Begins (Phrase.render (fractionSelector key kind)) := by
  have hopening : Begins ".col.-".toList := by decide
  have hrender : Phrase.render (fractionSelector key kind) =
      ".col.-".toList ++ key.label.toList ++ kind.toList ++
        "#\x7b$numerator\x7dof#\x7b$denominator\x7d".toList := by
    simp [fractionSelector, Phrase.render, Piece.render]
  rw [hrender]
  exact ((hopening.append (not_mem_label (.inr (.inl rfl)) key)).append hkind).append (by decide)

theorem nests_fractionLoop {key : Key} {columns : Variable} {kind property : String}
    (hcolumns : (Variables.collect s (markers s)).get? .columns key = some columns)
    (hkind : '\n' ∉ kind.toList) (hproperty : Begins property.toList) (depth : Nat) :
    Nests depth ((fractionLoop key columns kind property).linesAt depth) := by
  have hdenominators : Begins (Phrase.render [.text "@for ", .variable "denominator",
      .text " from 1 through ", columns.use]) := by
    have hopening : Begins "@for $denominator from 1 through ".toList := by decide
    have hrender : Phrase.render [.text "@for ", .variable "denominator",
        .text " from 1 through ", columns.use] =
        "@for $denominator from 1 through ".toList ++ columns.use.render := by
      simp [Phrase.render, Piece.render]
    rw [hrender]
    exact hopening.append (newline_not_mem_use hcolumns)
  have hnumerators : Begins (Phrase.render [.text "@for ", .variable "numerator",
      .text " from 1 through ", .variable "denominator"]) := by decide
  have hshare : ∀ depth, Nests depth ((Node.declaration property share).linesAt depth) :=
    nests_declaration hproperty (by decide)
  unfold fractionLoop
  refine nests_rule hdenominators (List.forall_mem_singleton.2 ?_)
  refine nests_rule hnumerators (List.forall_mem_singleton.2 ?_)
  refine nests_rule (begins_fractionSelector key hkind) ?_
  cases key with
  | root => exact List.forall_mem_singleton.2 (hshare _)
  | marker n =>
    refine List.forall_mem_singleton.2 (nests_rule ?_ (List.forall_mem_singleton.2 (hshare _)))
    exact begins_media _ (not_mem_name (.inr (.inl rfl)) (.marker n))

theorem nests_rules : ∀ node ∈ rules (Variables.collect s (markers s)),
    ∀ depth, Nests depth (node.linesAt depth) := by
  refine compositional_nests.rules (nests_comment (by decide) rfl rfl (by decide))
    (nests_comment (by decide) rfl rfl (by decide)) fun key hkey columns hcolumns => ?_
  exact ⟨nests_fractionLoop hcolumns (by decide) (by decide),
    nests_fractionLoop hcolumns (by decide) (by decide)⟩

end Rules

/-! ## The text of a sheet -/

/-- A function is written like a rule with one statement in it. -/
theorem nests_function {function : String} (header line : String) (h : Begins header.toList)
    (hline : Begins line.toList) (hlast : line.toList.getLast? = some ';')
    (hfunction : function.toList = (Node.rule [.text header] [.verbatim line]).render)
    (depth : Nat) : Nests depth ((Node.verbatim function).linesAt depth) := by
  have hheader : Begins (Phrase.render [.text header]) := by
    rw [Phrase.render, List.flatMap_singleton]
    exact h
  have hclose : line.toList ≠ ['}'] := by
    intro heq
    rw [heq] at hlast
    cases hlast
  rw [← linesAt_render, Node.render, hfunction, linesAt_render]
  exact nests_rule hheader
    (List.forall_mem_singleton.2 (nests_text hline hlast rfl (by decide) hclose (depth + 1)))

theorem nests_heading : ∀ node ∈ heading, ∀ depth, Nests depth (node.linesAt depth) := by
  have hem : ∀ depth, Nests depth ((Node.verbatim emFunction).linesAt depth) :=
    nests_function "@function em($px, $context: 16)" "@return ($px / $context * 1em);"
      (by decide) (by decide) rfl rfl
  have hrem : ∀ depth, Nests depth ((Node.verbatim remFunction).linesAt depth) :=
    nests_function "@function rem($px)" "@return ($px / 16 * 1rem);" (by decide) (by decide) rfl rfl
  unfold heading
  simp only [List.forall_mem_cons]
  exact ⟨nests_comment (by decide) rfl rfl (by decide), hem, nests_blank, hrem, nests_blank,
    nests_comment (by decide) rfl rfl (by decide), List.forall_mem_nil _⟩

theorem nests_build (s : Grid) : ∀ node ∈ build s, ∀ depth, Nests depth (node.linesAt depth) := by
  have hmarkers : ∀ node ∈ (markers s).map Marker.node, ∀ depth,
      Nests depth (node.linesAt depth) := by
    intro node hnode
    obtain ⟨m, -, rfl⟩ := List.mem_map.1 hnode
    exact nests_variable (not_mem_name (.inr (.inl rfl)) m.key) (newline_not_mem_binding m)
  have hvariables : ∀ node ∈ (Variables.collect s (markers s)).all.map Variable.node, ∀ depth,
      Nests depth (node.linesAt depth) := by
    intro node hnode
    obtain ⟨v, hv, rfl⟩ := List.mem_map.1 hnode
    exact nests_variable (not_mem_variable_name (.inr (.inl rfl)) hv) (newline_not_mem_value hv)
  rw [build_eq]
  simp only [List.forall_mem_append, List.forall_mem_cons]
  exact ⟨nests_heading, hmarkers, nests_blank, nests_comment (by decide) rfl rfl (by decide),
    hvariables, nests_blank, nests_rules⟩

/-- The lines of the text of a sheet are those of its statements. -/
theorem linesOf_generate_eq (s : Grid) : linesOf (generate s).toList = allLinesAt 0 (build s) := by
  have hne : (build s).map Node.render ≠ [] := by
    rw [build_eq]
    exact List.cons_ne_nil _ _
  have hall : ∀ nodes : List Node, nodes.flatMap (fun node => linesOf node.render) =
      allLinesAt 0 nodes := by
    intro nodes
    induction nodes with
    | nil => rfl
    | cons node rest ih =>
      rw [List.flatMap_cons, ih, ← linesAt_zero, linesAt_render, allLinesAt]
  unfold generate Sheet.render
  rw [String.toList_ofList, linesOf_joinLines hne, List.flatMap_map, hall]

theorem getLast?_joinLines {texts : List (List Char)} (h : texts ≠ []) :
    (joinLines (texts ++ [[]])).getLast? = some '\n' := by
  induction texts with
  | nil => exact absurd rfl h
  | cons text rest ih =>
    cases rest with
    | nil =>
      have hjoin : joinLines [text, []] = text ++ ['\n'] := by simp [joinLines, List.intercalate]
      rw [List.singleton_append, hjoin, List.getLast?_append]
      rfl
    | cons next rest =>
      have hjoin : joinLines (text :: next :: rest ++ [[]]) =
          (text ++ ['\n']) ++ joinLines (next :: rest ++ [[]]) := by
        simp [joinLines, List.intercalate]
      rw [hjoin, List.getLast?_append, ih (List.cons_ne_nil next rest)]
      rfl

/-- The text of the sheet of every system is laid out. -/
theorem laidOut_generate (s : Grid) : LaidOut (generate s).toList := by
  have hnests := nests_allLinesAt fun node hnode => nests_build s node hnode 0
  rw [← linesOf_generate_eq] at hnests
  refine ⟨?_, hnests.trimmed, hnests.nested⟩
  have hlast : ∃ front, front ≠ [] ∧ build s = front ++ [.blank] := ⟨_, by simp, rfl⟩
  obtain ⟨front, hfront, hbuild⟩ := hlast
  have hne : front.map Node.render ≠ [] := fun h => hfront (List.map_eq_nil_iff.1 h)
  unfold generate Sheet.render
  rw [String.toList_ofList, hbuild, List.map_append]
  exact getLast?_joinLines hne

end ResponsiveGrid.Stylesheet
