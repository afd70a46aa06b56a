import ResponsiveGrid.Command.Run
import ResponsiveGrid.Proofs.Decimal.Text
import ResponsiveGrid.Proofs.Grid.Neighbours
import ResponsiveGrid.Proofs.Text.Parts
set_option autoImplicit false

/-!
# Command: the table of breakpoints

The table has a line of headings and a line for each entry.  It is read here like any other
text: cut into lines, and behind the first character, the mark, each line cut into words.
`Lists` is what a reader finds, and `lists_table` that this is so for the table of every system.

The entry that is marked is looked up by its width and recognized by its identity.  That the
mark stands where the width lies, and nowhere else, rests on identities being different and on
widths lying in one range each.
-/

namespace ResponsiveGrid.Command

/-! ## What is promised -/

/-- The words of a line: what stands between its blanks. -/
def wordsOf (line : List Char) : List (List Char) := (Text.parts ' ' line).filter (· ≠ [])

/-- Whether a line is marked. -/
def isMarked (line : List Char) : Bool := line.head? == some '>'

/-- The words above the columns of the table. -/
def headings : List String := ["#", "range", "columns", "gutter", "margin", "max", "width", "root"]

/-- A range in words: both ends, or the least width and a plus sign. -/
def rangeWords (r : WidthRange) : List String :=
  match r.maxWidth with
  | some m => [toString r.minWidth, "–", toString m]
  | none => [toString r.minWidth, "+"]

/-- A content width as a word. -/
def capWord : Option Nat → String
  | some w => Unit.rem (Float.ofNat w)
  | none => "none"

/-- An entry in words: its index, its range, and then its fields. -/
def entryWords (index : Nat) (e : Entry) : List String :=
  let s := e.settings
  [toString index] ++ rangeWords e.range ++
    [toString s.columns, Unit.rem (Float.ofNat s.gutter), Unit.rem (Float.ofNat s.margin),
      capWord s.contentMaxWidth, Unit.percentage s.scale]

/-- What the line of an entry shows when a width may have been given. -/
structure Shows (width : Option Nat) (index : Nat) (e : Entry) (line : List Char) : Prop where
  /-- behind the mark stand the index, the range and the fields, and nothing else -/
  words : wordsOf line.tail = (entryWords index e).map String.toList
  /-- the label of the range stands in one piece between blanks -/
  label : ∃ front back, line = front ++ ' ' :: (e.range.label.toList ++ ' ' :: back)
  /-- the line is marked exactly when a width was given and the range of the entry has it in it,
  and starts with a blank otherwise -/
  mark : line.head? = some (if ∃ w ∈ width, e.range.Mem w then '>' else ' ')

/-- A text lists the entries of a system. -/
structure Lists (s : Grid) (width : Option Nat) (text : String) (lines : List (List Char)) :
    Prop where
  /-- the text is these lines, each with a line break behind it -/
  lines_eq : Text.parts '\n' text.toList = lines ++ [[]]
  length : lines.length = s.size + 1
  /-- the first line has the headings and no mark -/
  head : ∃ line, lines.head? = some line ∧ line.head? = some ' ' ∧
    wordsOf line.tail = headings.map String.toList
  /-- the other lines show the entries, one each and in order -/
  shows_entry : ∀ index e, s.get? index = some e →
    ∃ line, lines[index + 1]? = some line ∧ Shows width index e line
  /-- with a width and at least one entry one line is marked -/
  one_marked : width.isSome → 0 < s.size → lines.countP isMarked = 1
  /-- without a width and without entries none is -/
  none_marked : width = none ∨ s.size = 0 → lines.countP isMarked = 0

/-! ## Words of a line -/

/-- A text is one word of one line. -/
structure IsWord (text : List Char) : Prop where
  ne_nil : text ≠ []
  blank : ' ' ∉ text
  newline : '\n' ∉ text

instance (text : List Char) : Decidable (IsWord text) :=
  decidable_of_iff (text ≠ [] ∧ ' ' ∉ text ∧ '\n' ∉ text)
    ⟨fun ⟨hne, hblank, hnewline⟩ => ⟨hne, hblank, hnewline⟩,
      fun h => ⟨h.ne_nil, h.blank, h.newline⟩⟩

/-- The words of a line are those in front of a blank and those behind it. -/
theorem wordsOf_append (front back : List Char) :
    wordsOf (front ++ ' ' :: back) = wordsOf front ++ wordsOf back := by
  unfold wordsOf
  rw [Text.parts_append, List.filter_append]

theorem wordsOf_blanks (n : Nat) (text : List Char) :
    wordsOf (List.replicate n ' ' ++ text) = wordsOf text := by
  induction n with
  | zero => rfl
  | succ n ih => exact (wordsOf_append [] _).trans ih

theorem wordsOf_word {text : List Char} (h : IsWord text) : wordsOf text = [text] := by
  unfold wordsOf
  rw [Text.parts_of_not_mem h.blank, List.filter_singleton]
  simp [h.ne_nil]

theorem toList_padded (width : Nat) (text : String) :
    (padded width text).toList = text.toList ++ List.replicate (width - text.length) ' ' := by
  unfold padded
  rw [String.toList_append, String.toList_ofList]

/-- In front of a blank, a text that is filled up is the text and blanks. -/
theorem padded_append (width : Nat) (text : String) (back : List Char) :
    (padded width text).toList ++ ' ' :: back =
      text.toList ++ ' ' :: (List.replicate (width - text.length) ' ' ++ back) := by
  have hswap : ∀ n,
      List.replicate n ' ' ++ ' ' :: back = ' ' :: (List.replicate n ' ' ++ back) := by
    intro n
    rw [← List.singleton_append, ← List.append_assoc, ← List.replicate_succ', List.replicate_succ,
      List.cons_append]
  rw [toList_padded, List.append_assoc, hswap]

/-! ## Words of an entry -/

theorem isWord_natural (n : Nat) : IsWord (toString n).toList := by
  rw [Nat.toString_eq_repr, Nat.toList_repr]
  have hdigit : ∀ c, c.isDigit = false → c ∉ Nat.toDigits 10 n := by
    intro c hc h
    rw [Decimal.isDigit_of_mem_toDigits h] at hc
    cases hc
  exact ⟨Nat.toDigits_ne_nil, hdigit _ rfl, hdigit _ rfl⟩

theorem isWord_plain (x : Float) {unit : List Char} (h : IsWord unit) :
    IsWord (Decimal.plain x ++ unit) := by
  have hplain : ∀ c, c = ' ' ∨ c = '\n' → c ∉ Decimal.plain x := by
    rintro c (rfl | rfl) hc <;> rcases Decimal.mem_plain hc with h | h | h <;> cases h
  refine ⟨?_, ?_, ?_⟩
  · exact List.append_ne_nil_of_right_ne_nil _ h.ne_nil
  · exact List.not_mem_append (hplain _ (.inl rfl)) h.blank
  · exact List.not_mem_append (hplain _ (.inr rfl)) h.newline

theorem isWord_rem (pixels : Float) : IsWord (Unit.rem pixels).toList := by
  unfold Unit.rem
  rw [String.toList_ofList]
  exact isWord_plain _ (by decide)

theorem isWord_percentage (ratio : Float) : IsWord (Unit.percentage ratio).toList := by
  unfold Unit.percentage
  rw [String.toList_ofList]
  exact isWord_plain _ (by decide)

theorem isWord_capWord (cap : Option Nat) : IsWord (capWord cap).toList := by
  cases cap with
  | none => decide
  | some w => exact isWord_rem _

theorem toList_label_some {r : WidthRange} {m : Nat} (h : r.maxWidth = some m) :
    r.label.toList =
      (toString r.minWidth).toList ++ ' ' :: ("–".toList ++ ' ' :: (toString m).toList) := by
  unfold WidthRange.label
  rw [h]
  simp only [String.toList_append, List.append_assoc]
  rfl

theorem toList_label_none {r : WidthRange} (h : r.maxWidth = none) :
    r.label.toList = (toString r.minWidth).toList ++ ' ' :: "+".toList := by
  unfold WidthRange.label
  rw [h]
  simp only [String.toList_append]
  rfl

/-- The label of a range shows the range in words. -/
theorem wordsOf_label (r : WidthRange) :
    wordsOf r.label.toList = (rangeWords r).map String.toList := by
  have hmin := wordsOf_word (isWord_natural r.minWidth)
  unfold rangeWords
  cases h : r.maxWidth with
  | none =>
    rw [toList_label_none h, wordsOf_append, hmin]
    rfl
  | some m =>
    rw [toList_label_some h, wordsOf_append, wordsOf_append, hmin, wordsOf_word (isWord_natural m)]
    rfl

theorem newline_not_mem_label (r : WidthRange) : '\n' ∉ r.label.toList := by
  have hmin := (isWord_natural r.minWidth).newline
  cases h : r.maxWidth with
  | none =>
    rw [toList_label_none h]
    exact List.not_mem_append hmin (by decide)
  | some m =>
    have hmax := (isWord_natural m).newline
    have hdash : '\n' ∉ " – ".toList := by decide
    rw [toList_label_some h]
    exact List.not_mem_append hmin (List.not_mem_append hdash hmax)

/-! ## Lines -/

/-- A line of the table without its line break: the mark, cells that are filled up, and a last
one that is not. -/
def lineText (mark : Char) (cells : List (Nat × String)) (last : String) : List Char :=
  mark :: ' ' ::
    (cells.flatMap (fun cell => (padded cell.1 cell.2).toList ++ [' ']) ++ last.toList)

theorem toList_tableLine {mark : String} {c : Char} (h : mark.toList = [c])
    (index range columns gutter margin maxWidth root : String) :
    (tableLine mark index range columns gutter margin maxWidth root).toList =
      lineText c [(3, index), (12, range), (8, columns), (9, gutter), (9, margin), (10, maxWidth)]
        root ++ ['\n'] := by
  have hblank : " ".toList = [' '] := rfl
  have hbreak : "\n".toList = ['\n'] := rfl
  unfold tableLine lineText
  simp only [String.toList_append, h, hblank, hbreak, List.flatMap_cons, List.flatMap_nil,
    List.append_assoc, List.cons_append, List.nil_append]

/-- The words of a line are those of its cells. -/
theorem wordsOf_tail_lineText (mark : Char) (cells : List (Nat × String)) (last : String) :
    wordsOf (lineText mark cells last).tail =
      cells.flatMap (fun cell => wordsOf cell.2.toList) ++ wordsOf last.toList := by
  have hfirst : ∀ text, wordsOf (' ' :: text) = wordsOf text := fun text => wordsOf_blanks 1 text
  unfold lineText
  rw [List.tail_cons, hfirst]
  induction cells with
  | nil => rfl
  | cons cell rest ih =>
    rw [List.flatMap_cons, List.append_assoc, List.append_assoc, List.singleton_append,
      padded_append, wordsOf_append, wordsOf_blanks, ih, List.flatMap_cons, List.append_assoc]

/-- Each cell but the last stands in one piece between blanks. -/
theorem cell_lineText {cells : List (Nat × String)} {width : Nat} {text : String}
    (h : (width, text) ∈ cells) (mark : Char) (last : String) :
    ∃ front back, lineText mark cells last = front ++ ' ' :: (text.toList ++ ' ' :: back) := by
  have hcells : ∃ front back,
      ' ' :: (cells.flatMap (fun cell => (padded cell.1 cell.2).toList ++ [' ']) ++ last.toList) =
        front ++ ' ' :: (text.toList ++ ' ' :: back) := by
    -- the blank behind a cell is the one in front of the next
    induction cells with
    | nil => cases h
    | cons first rest ih =>
      rw [List.flatMap_cons, List.append_assoc, List.append_assoc, List.singleton_append]
      rcases List.mem_cons.1 h with rfl | h
      · rw [padded_append]
        exact ⟨[], _, rfl⟩
      · obtain ⟨front, back, heq⟩ := ih h
        refine ⟨' ' :: (padded first.1 first.2).toList ++ front, back, ?_⟩
        rw [heq, ← List.cons_append, List.append_assoc]
  obtain ⟨front, back, heq⟩ := hcells
  refine ⟨mark :: front, back, ?_⟩
  rw [lineText, heq, List.cons_append]

theorem isMarked_lineText (mark : Char) (cells : List (Nat × String)) (last : String) :
    isMarked (lineText mark cells last) = (mark == '>') := rfl

theorem newline_not_mem_lineText {mark : Char} {cells : List (Nat × String)} {last : String}
    (hmark : mark ≠ '\n') (hcells : ∀ cell ∈ cells, '\n' ∉ cell.2.toList)
    (hlast : '\n' ∉ last.toList) : '\n' ∉ lineText mark cells last := by
  have hpadded : ∀ cell ∈ cells, '\n' ∉ (padded cell.1 cell.2).toList ++ [' '] := by
    intro cell hcell
    rw [toList_padded]
    simp [hcells cell hcell]
  refine List.not_mem_cons_of_ne_of_not_mem (Ne.symm hmark) ?_
  refine List.not_mem_cons_of_ne_of_not_mem (by decide) (List.not_mem_append ?_ hlast)
  intro h
  obtain ⟨cell, hcell, hnewline⟩ := List.mem_flatMap.1 h
  exact hpadded cell hcell hnewline

/-! ## The lines of the table -/

/-- The line of the headings. -/
def headText : List Char :=
  lineText ' ' [(3, "#"), (12, "range"), (8, "columns"), (9, "gutter"), (9, "margin"),
    (10, "max width")] "root"

/-- The line of an entry. -/
def rowText (mark : Char) (index : Nat) (e : Entry) : List Char :=
  let s := e.settings
  lineText mark [(3, toString index), (12, e.range.label), (8, toString s.columns),
    (9, Unit.rem (Float.ofNat s.gutter)), (9, Unit.rem (Float.ofNat s.margin)),
    (10, capWord s.contentMaxWidth)] (Unit.percentage s.scale)

theorem newline_not_mem_headText : '\n' ∉ headText := by
  decide

theorem wordsOf_headText : wordsOf headText.tail = headings.map String.toList := by
  decide

theorem newline_not_mem_rowText {mark : Char} (h : mark ≠ '\n') (index : Nat) (e : Entry) :
    '\n' ∉ rowText mark index e := by
  refine newline_not_mem_lineText h ?_ (isWord_percentage _).newline
  simp only [List.forall_mem_cons]
  exact ⟨(isWord_natural _).newline, newline_not_mem_label _, (isWord_natural _).newline,
    (isWord_rem _).newline, (isWord_rem _).newline, (isWord_capWord _).newline,
    List.forall_mem_nil _⟩

theorem wordsOf_rowText (mark : Char) (index : Nat) (e : Entry) :
    wordsOf (rowText mark index e).tail = (entryWords index e).map String.toList := by
  unfold rowText entryWords
  simp only [wordsOf_tail_lineText, List.flatMap_cons, List.flatMap_nil, wordsOf_label,
    wordsOf_word (isWord_natural _), wordsOf_word (isWord_rem _),
    wordsOf_word (isWord_capWord _), wordsOf_word (isWord_percentage _), List.map_append,
    List.append_assoc]
  rfl

theorem label_rowText (mark : Char) (index : Nat) (e : Entry) :
    ∃ front back, rowText mark index e = front ++ ' ' :: (e.range.label.toList ++ ' ' :: back) :=
  cell_lineText (List.mem_cons_of_mem _ List.mem_cons_self) mark _

theorem toList_tableHead : tableHead.toList = headText ++ ['\n'] := toList_tableLine rfl ..

theorem toList_entryLine (matched : Option Id) (index : Nat) (e : Entry) :
    (entryLine matched index e).toList =
      rowText (if matched = some e.id then '>' else ' ') index e ++ ['\n'] := by
  unfold entryLine
  split
  · exact toList_tableLine rfl ..
  · exact toList_tableLine rfl ..

theorem entryLines_eq (matched : Option Id) (index : Nat) (entries : List Entry) :
    entryLines matched index entries =
      (entries.zipIdx index).map fun p => entryLine matched p.2 p.1 := by
  induction entries generalizing index with
  | nil => rfl
  | cons e rest ih => rw [entryLines, ih, List.zipIdx_cons, List.map_cons]

/-- The mark of an entry when a width may have been given. -/
def markOf (width : Option Nat) (e : Entry) : Char :=
  if ∃ w ∈ width, e.range.Mem w then '>' else ' '

/-- The lines of the table. -/
def tableLines (s : Grid) (width : Option Nat) : List (List Char) :=
  headText :: s.entries.zipIdx.map fun p => rowText (markOf width p.1) p.2 p.1

section

variable {s : Grid} {width : Option Nat} {e : Entry}

/-- The entry that is looked up by a width has the identity of an entry of the system exactly when
the range of that entry has the width in it. -/
theorem matched_eq_some_iff (h : e ∈ s.entries) :
    (width.bind s.matchFor).map Entry.id = some e.id ↔ ∃ w ∈ width, e.range.Mem w := by
  rw [Option.map_eq_some_iff]
  constructor
  · rintro ⟨d, hd, hid⟩
    obtain ⟨w, hw, hmatch⟩ := Option.bind_eq_some_iff.1 hd
    obtain ⟨hmem, hrange⟩ := Grid.matchFor_eq_some_iff.1 hmatch
    rw [Grid.eq_of_id hmem h hid] at hrange
    exact ⟨w, hw, hrange⟩
  · rintro ⟨w, hw, hrange⟩
    exact ⟨e, Option.bind_eq_some_iff.2 ⟨w, hw, Grid.matchFor_eq_some_iff.2 ⟨h, hrange⟩⟩, rfl⟩

/-- The table is its lines, each with a line break behind it. -/
theorem toList_table (s : Grid) (width : Option Nat) :
    (table s width).toList = (tableLines s width).flatMap (· ++ ['\n']) := by
  have hrows : ∀ p ∈ s.entries.zipIdx,
      (entryLine ((width.bind s.matchFor).map Entry.id) p.2 p.1).toList =
        rowText (markOf width p.1) p.2 p.1 ++ ['\n'] := by
    intro p hp
    rw [toList_entryLine, markOf]
    simp only [matched_eq_some_iff (List.fst_mem_of_mem_zipIdx hp)]
  unfold table tableLines
  rw [String.toList_join, List.flatMap_cons, List.flatMap_cons, toList_tableHead, entryLines_eq,
    List.flatMap_map, List.flatMap_map]
  exact congrArg _ (List.flatMap_congr hrows)

theorem newline_not_mem_tableLines {line : List Char} (h : line ∈ tableLines s width) :
    '\n' ∉ line := by
  rcases List.mem_cons.1 h with rfl | h
  · exact newline_not_mem_headText
  · obtain ⟨p, -, rfl⟩ := List.mem_map.1 h
    refine newline_not_mem_rowText ?_ p.2 p.1
    unfold markOf
    split <;> decide

theorem shows_rowText (width : Option Nat) (index : Nat) (e : Entry) :
    Shows width index e (rowText (markOf width e) index e) where
  words := wordsOf_rowText _ index e
  label := label_rowText _ index e
  mark := rfl

/-! ## Marks -/

/-- As many lines are marked as entries have the width in their ranges. -/
theorem countP_tableLines (s : Grid) (width : Option Nat) :
    (tableLines s width).countP isMarked =
      s.entries.countP fun e => decide (∃ w ∈ width, e.range.Mem w) := by
  have hhead : ¬isMarked headText = true := by decide
  have hrow : (isMarked ∘ fun p : Entry × Nat => rowText (markOf width p.1) p.2 p.1) =
      (fun e : Entry => decide (∃ w ∈ width, e.range.Mem w)) ∘ Prod.fst := by
    funext p
    rw [Function.comp_apply, rowText, isMarked_lineText, markOf]
    by_cases h : ∃ w ∈ width, p.1.range.Mem w
    · rw [if_pos h]
      exact (decide_eq_true h).symm
    · rw [if_neg h]
      exact (decide_eq_false h).symm
  rw [tableLines, List.countP_cons_of_neg hhead, List.countP_map, hrow, ← List.countP_map,
    List.zipIdx_map_fst]

/-- A width lies in the range of one entry. -/
theorem countP_mem (h : s.entries ≠ []) (w : Nat) :
    (s.entries.countP fun e => decide (∃ v ∈ some w, e.range.Mem v)) = 1 := by
  obtain ⟨e, honly, -⟩ := s.matchFor_unique h w
  have hmatches : (fun e : Entry => decide (∃ v ∈ some w, e.range.Mem v)) =
      fun e => e.range.matches? w := by
    funext e
    simp [← WidthRange.matches?_iff]
  rw [hmatches, List.countP_eq_length_filter, honly]
  rfl

/-! ## The table -/

theorem lists_tableLines (s : Grid) (width : Option Nat) :
    Lists s width (table s width) (tableLines s width) where
  lines_eq := by
    rw [toList_table, Text.parts_flatMap fun _ => newline_not_mem_tableLines]
  length := by
    rw [tableLines, List.length_cons, List.length_map, List.length_zipIdx]
    rfl
  head := ⟨headText, rfl, rfl, wordsOf_headText⟩
  shows_entry := by
    intro index e he
    have hrow : s.entries.zipIdx[index]? = some (e, index) := by
      have hentry : s.entries[index]? = some e := he
      rw [List.getElem?_zipIdx, hentry, Option.map_some, Nat.zero_add]
    refine ⟨rowText (markOf width e) index e, ?_, shows_rowText width index e⟩
    rw [tableLines, List.getElem?_cons_succ, List.getElem?_map, hrow]
    rfl
  one_marked := by
    intro hwidth hsize
    obtain ⟨w, rfl⟩ := Option.isSome_iff_exists.1 hwidth
    rw [countP_tableLines, countP_mem (List.ne_nil_of_length_pos hsize)]
  none_marked := by
    rintro (rfl | hsize)
    · rw [countP_tableLines]
      simp
    · rw [countP_tableLines, List.eq_nil_of_length_eq_zero hsize]
      rfl

/-- Inspecting a system lists its entries.  Exactly the entry whose range has the given width in it
is marked: one where there are entries and a width, and else none. -/
theorem lists_table (s : Grid) (width : Option Nat) :
    (∃ lines, Lists s width (table s width) lines) ∧
      ∀ d c source, answer d c (.inspect source width) =
        (loadGrid d c source).map fun found => .print (table found.1 width) := by
  refine ⟨⟨tableLines s width, lists_tableLines s width⟩, fun d c source => ?_⟩
  rw [answer]
  cases loadGrid d c source with
  | error fault => rfl
  | ok found => rfl

example : (tableLines (Grid.reset 1).1 (some 800)).map isMarked =
    [false, false, true, false, false, false] := by decide

end

end ResponsiveGrid.Command
