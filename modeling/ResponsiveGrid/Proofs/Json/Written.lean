import ResponsiveGrid.Json.Shape
import ResponsiveGrid.Proofs.Json.Reading
set_option autoImplicit false

/-!
# Json: arrays and objects that were written

Arrays and objects are read back item by item and field by field.  The two texts of a value
differ in the blanks between its parts only, and so `written_array` and `written_object`
prove both of them from the same lemmas about one item or field and what follows it.
-/

namespace ResponsiveGrid.Json

/-! ## Items -/

/-- Items that were all read. -/
def Items.of : List Outline → Items
  | [] => .close none
  | o :: os => .item o (Items.of os)

/-- A reader finds items where their text stands, and goes on behind the closing bracket. -/
def ReadsItems (items : Items) (text : List Char) : Prop :=
  ∀ fuel rest, 2 * text.length + 1 ≤ fuel → readItems fuel (text ++ rest) = (items, .ok rest)

theorem Reads.last {o : Outline} {text b : List Char} (h : Reads o text) (hb : Blank b) :
    ReadsItems (Items.of [o]) (text ++ (b ++ [']'])) := by
  intro fuel rest hfuel
  simp only [List.length_append, List.length_singleton] at hfuel
  obtain ⟨fuel, rfl⟩ : ∃ k, fuel = k + 1 := ⟨fuel - 1, by omega⟩
  have hrest : Delimits (b ++ ']' :: rest) := delimits_append hb (delimits_cons (by decide))
  have hread := h fuel (b ++ ']' :: rest) hrest (by omega)
  rw [List.append_assoc, List.append_assoc, List.singleton_append, readItems, hread]
  simp only
  rw [skipBlanks_append hb, skipBlanks_cons (by decide)]
  simp only [Char.reduceEq, if_false, if_true]
  rfl

theorem Reads.next {o : Outline} {os : List Outline} {text u : List Char} (h : Reads o text)
    (hu : ReadsItems (Items.of os) u) : ReadsItems (Items.of (o :: os)) (text ++ ',' :: u) := by
  intro fuel rest hfuel
  simp only [List.length_append, List.length_cons] at hfuel
  obtain ⟨fuel, rfl⟩ : ∃ k, fuel = k + 1 := ⟨fuel - 1, by omega⟩
  have hrest : Delimits (',' :: (u ++ rest)) := delimits_cons (by decide)
  have hread := h fuel (',' :: (u ++ rest)) hrest (by omega)
  rw [List.append_assoc, List.cons_append, readItems, hread]
  simp only
  rw [skipBlanks_cons (by decide)]
  simp only
  rw [if_pos trivial, hu fuel rest (by omega)]
  rfl

theorem ReadsItems.first {items : Items} {text : List Char} (h : ReadsItems items text)
    (rest : List Char) : ∃ c s, skipBlanks (text ++ rest) = c :: s ∧ c ≠ ']' := by
  have hread := h (2 * text.length + 1 + 1) rest (by omega)
  rw [readItems, readValue] at hread
  cases hskip : skipBlanks (text ++ rest) with
  | nil =>
    rw [hskip] at hread
    cases hread
  | cons c s =>
    refine ⟨c, s, rfl, ?_⟩
    rintro rfl
    rw [hskip] at hread
    cases hread

/-- An array is read as the items that are found behind its bracket. -/
theorem reads_array {items : Items} {text : List Char} (h : ReadsItems items text) :
    Reads (.array items) ('[' :: text) := by
  intro fuel rest _ hfuel
  rw [List.length_cons] at hfuel
  obtain ⟨fuel, rfl⟩ : ∃ k, fuel = k + 1 := ⟨fuel - 1, by omega⟩
  obtain ⟨c, s, hskip, hc⟩ := h.first rest
  have hitems : readItems fuel (c :: s) = (items, .ok rest) := by
    rw [← hskip, readItems_congr (skipBlanks_skipBlanks (text ++ rest))]
    exact h fuel rest (by omega)
  rw [List.cons_append, readValue, skipBlanks_cons (by decide)]
  simp only [Char.reduceEq, Char.reduceIsDigit, Bool.false_eq_true, if_false, if_true, hskip]
  split
  · next heq =>
    injection heq with heq _
    exact absurd heq hc
  · next heq => cases heq
  · rw [hitems]

/-! ## Fields -/

/-- Fields that were all read. -/
def Fields.of : List (String × Outline) → Fields
  | [] => .close none
  | (name, o) :: fields => .field (.ok name.toList) o (Fields.of fields)

/-- A reader finds fields where their text stands, and goes on behind the closing brace. -/
def ReadsFields (fields : Fields) (text : List Char) : Prop :=
  ∀ fuel rest, 2 * text.length + 1 ≤ fuel → readFields fuel (text ++ rest) = (fields, .ok rest)

theorem ReadsFields.indent {fields : Fields} {b text : List Char} (hb : Blank b)
    (h : ReadsFields fields text) : ReadsFields fields (b ++ text) := by
  intro fuel rest hfuel
  rw [List.length_append] at hfuel
  rw [List.append_assoc, readFields_congr (skipBlanks_append hb (text ++ rest))]
  exact h fuel rest (by omega)

theorem readFields_quoted {o : Outline} {behind text : List Char} (name : String) {fuel : Nat}
    (h : readValue fuel text = (o, .ok behind)) :
    readFields (fuel + 1) (quoted name ++ ':' :: text) =
      match skipBlanks behind with
      | [] => (.field (.ok name.toList) o (.close (some .truncated)), .error .truncated)
      | c :: rest =>
          if c = ',' then
            let (fields, behind) := readFields fuel rest
            (.field (.ok name.toList) o fields, behind)
          else if c = '}' then (.field (.ok name.toList) o (.close none), .ok rest)
          else (.field (.ok name.toList) o (.close (some .malformed)), .error .malformed) := by
  obtain ⟨hread, hskip⟩ := readString_quoted name.toList (':' :: text)
  have htext : quoted name ++ ':' :: text =
      '"' :: (name.toList.flatMap escaped ++ '"' :: ':' :: text) := by
    unfold quoted
    rw [List.cons_append, List.append_assoc, List.singleton_append]
  rw [htext, readFields, skipBlanks_cons (by decide)]
  simp only [hread, hskip]
  rw [skipBlanks_cons (by decide)]
  cases hbehind : skipBlanks behind with
  | nil => simp only [h, hbehind]
  | cons c rest => simp only [h, hbehind]

theorem Reads.lastField {o : Outline} {text b : List Char} (h : Reads o text) (hb : Blank b)
    (name : String) :
    ReadsFields (Fields.of [(name, o)]) (quoted name ++ ':' :: (text ++ (b ++ ['}']))) := by
  intro fuel rest hfuel
  simp only [List.length_append, List.length_cons] at hfuel
  obtain ⟨fuel, rfl⟩ : ∃ k, fuel = k + 1 := ⟨fuel - 1, by omega⟩
  have hrest : Delimits (b ++ '}' :: rest) := delimits_append hb (delimits_cons (by decide))
  have hread := h fuel (b ++ '}' :: rest) hrest (by omega)
  rw [List.append_assoc, List.cons_append, List.append_assoc, List.append_assoc,
    List.singleton_append, readFields_quoted name hread, skipBlanks_append hb,
    skipBlanks_cons (by decide)]
  rfl

theorem Reads.nextField {o : Outline} {fields : List (String × Outline)} {text u : List Char}
    (h : Reads o text) (hu : ReadsFields (Fields.of fields) u) (name : String) :
    ReadsFields (Fields.of ((name, o) :: fields)) (quoted name ++ ':' :: (text ++ ',' :: u)) := by
  intro fuel rest hfuel
  simp only [List.length_append, List.length_cons] at hfuel
  obtain ⟨fuel, rfl⟩ : ∃ k, fuel = k + 1 := ⟨fuel - 1, by omega⟩
  have hrest : Delimits (',' :: (u ++ rest)) := delimits_cons (by decide)
  have hread := h fuel (',' :: (u ++ rest)) hrest (by omega)
  rw [List.append_assoc, List.cons_append, List.append_assoc, List.cons_append,
    readFields_quoted name hread, skipBlanks_cons (by decide)]
  simp only
  rw [if_pos trivial, hu fuel rest (by omega)]
  rfl

theorem ReadsFields.first {fields : Fields} {text : List Char} (h : ReadsFields fields text)
    (rest : List Char) : ∃ c s, skipBlanks (text ++ rest) = c :: s ∧ c ≠ '}' := by
  have hread := h (2 * text.length + 1 + 1) rest (by omega)
  rw [readFields] at hread
  cases hskip : skipBlanks (text ++ rest) with
  | nil =>
    rw [hskip] at hread
    cases hread
  | cons c s =>
    refine ⟨c, s, rfl, ?_⟩
    rintro rfl
    rw [hskip] at hread
    cases hread

/-- An object is read as the fields that are found behind its brace. -/
theorem reads_object {fields : Fields} {text : List Char} (h : ReadsFields fields text) :
    Reads (.object fields) ('{' :: text) := by
  intro fuel rest _ hfuel
  rw [List.length_cons] at hfuel
  obtain ⟨fuel, rfl⟩ : ∃ k, fuel = k + 1 := ⟨fuel - 1, by omega⟩
  obtain ⟨c, s, hskip, hc⟩ := h.first rest
  have hfields : readFields fuel (c :: s) = (fields, .ok rest) := by
    rw [← hskip, readFields_congr (skipBlanks_skipBlanks (text ++ rest))]
    exact h fuel rest (by omega)
  rw [List.cons_append, readValue, skipBlanks_cons (by decide)]
  simp only [Char.reduceEq, Char.reduceIsDigit, Bool.false_eq_true, if_false, if_true, hskip]
  split
  · next heq =>
    injection heq with heq _
    exact absurd heq hc
  · rw [hfields]

/-! ## Both texts of a value -/

/-- Both texts of a value are read as an outline, the second one at every level. -/
def Written (v : Json) (o : Outline) : Prop := Reads o v.compact ∧ ∀ depth, Reads o (v.prettyAt depth)

theorem Written.unique {v : Json} {o o' : Outline} (h : Written v o) (h' : Written v o') : o = o' :=
  h.1.unique h'.1

theorem written_natural {n : Nat} (hn : n ≤ largest64) :
    Written (natural n) (.number (.ok (.integer n))) :=
  ⟨reads_natural hn, fun _ => reads_natural hn⟩

theorem written_integer {n : Int} (hlow : -9223372036854775808 ≤ n)
    (hhigh : n ≤ 9223372036854775807) : Written (.integer n) (.number (.ok (.integer n))) :=
  ⟨reads_integer hlow hhigh, fun _ => reads_integer hlow hhigh⟩

theorem written_boolean (b : Bool) : Written (.boolean b) (.boolean b) :=
  ⟨reads_boolean b, fun _ => reads_boolean b⟩

theorem written_string (s : String) : Written (.string s) (.string (.ok s.toList)) :=
  ⟨reads_quoted s, fun _ => reads_quoted s⟩

theorem readsItems_compact {v : Json} {o : Outline} {vs : List Json} {os : List Outline}
    (hv : Written v o) (h : List.Forall₂ Written vs os) :
    ReadsItems (Items.of (o :: os)) (compactItems (v :: vs)) := by
  induction h generalizing v o with
  | nil =>
    show ReadsItems (Items.of [o]) (v.compact ++ [']'])
    exact hv.1.last (b := []) (by decide)
  | cons hw _ ih =>
    exact hv.1.next (ih hw)

theorem readsItems_pretty {v : Json} {o : Outline} {vs : List Json} {os : List Outline}
    (hv : Written v o) (h : List.Forall₂ Written vs os) (depth : Nat) :
    ReadsItems (Items.of (o :: os))
      (newline (depth + 1) ++ prettyAt (depth + 1) v ++ prettyItems depth vs) := by
  induction h generalizing v o with
  | nil =>
    exact ((hv.2 (depth + 1)).indent (blank_newline (depth + 1))).last (blank_newline depth)
  | cons hw _ ih =>
    exact ((hv.2 (depth + 1)).indent (blank_newline (depth + 1))).next (ih hw)

theorem written_array {vs : List Json} {os : List Outline} (h : List.Forall₂ Written vs os) :
    Written (.array vs) (.array (Items.of os)) := by
  cases h with
  | nil =>
    have hempty : Reads (.array (Items.of [])) ['[', ']'] := by
      intro fuel rest _ hfuel
      rw [List.length_cons, List.length_singleton] at hfuel
      obtain ⟨fuel, rfl⟩ : ∃ k, fuel = k + 1 := ⟨fuel - 1, by omega⟩
      have hclose : skipBlanks (']' :: rest) = ']' :: rest := skipBlanks_cons (by decide)
      rw [List.cons_append, List.singleton_append, readValue, skipBlanks_cons (by decide)]
      simp only [hclose]
      rfl
    exact ⟨hempty, fun _ => hempty⟩
  | cons hv h =>
    exact ⟨reads_array (readsItems_compact hv h),
      fun depth => reads_array (readsItems_pretty hv h depth)⟩

/-- A field and what is read of it. -/
def WrittenField (field : String × Json) (read : String × Outline) : Prop :=
  field.1 = read.1 ∧ Written field.2 read.2

theorem readsFields_compact {f : String × Json} {g : String × Outline}
    {fs : List (String × Json)} {gs : List (String × Outline)} (hf : WrittenField f g)
    (h : List.Forall₂ WrittenField fs gs) :
    ReadsFields (Fields.of (g :: gs)) (compactFields (f :: fs)) := by
  induction h generalizing f g with
  | nil =>
    obtain ⟨name, v⟩ := f
    obtain ⟨_, o⟩ := g
    obtain ⟨rfl, hv⟩ := hf
    show ReadsFields (Fields.of [(name, o)]) (quoted name ++ ':' :: (v.compact ++ ['}']))
    exact hv.1.lastField (b := []) (by decide) name
  | cons hw _ ih =>
    obtain ⟨name, v⟩ := f
    obtain ⟨_, o⟩ := g
    obtain ⟨rfl, hv⟩ := hf
    exact hv.1.nextField (ih hw) name

theorem readsFields_pretty (name : String) {v : Json} {o : Outline}
    {fs : List (String × Json)} {gs : List (String × Outline)} (hv : Written v o)
    (h : List.Forall₂ WrittenField fs gs) (depth : Nat) :
    ReadsFields (Fields.of ((name, o) :: gs))
      (newline (depth + 1) ++ quoted name ++ ':' :: ' ' :: prettyAt (depth + 1) v
        ++ prettyFields depth fs) := by
  induction h generalizing name v o with
  | nil =>
    have hvalue := (hv.2 (depth + 1)).indent (b := [' ']) (by decide)
    rw [List.append_assoc, List.append_assoc]
    exact (hvalue.lastField (blank_newline depth) name).indent (blank_newline (depth + 1))
  | @cons f g fs gs hw _ ih =>
    obtain ⟨name', w⟩ := f
    obtain ⟨_, o'⟩ := g
    obtain ⟨rfl, hw⟩ := hw
    have hvalue := (hv.2 (depth + 1)).indent (b := [' ']) (by decide)
    rw [List.append_assoc, List.append_assoc]
    exact (hvalue.nextField (ih name' hw) name).indent (blank_newline (depth + 1))

theorem written_object {f : String × Json} {g : String × Outline} {fs : List (String × Json)}
    {gs : List (String × Outline)} (h : List.Forall₂ WrittenField (f :: fs) (g :: gs)) :
    Written (.object (f :: fs)) (.object (Fields.of (g :: gs))) := by
  obtain ⟨hf, htail⟩ := List.forall₂_cons.1 h
  refine ⟨reads_object (readsFields_compact hf htail), fun depth => ?_⟩
  obtain ⟨name, v⟩ := f
  obtain ⟨_, o⟩ := g
  obtain ⟨rfl, hv⟩ := hf
  exact reads_object (readsFields_pretty name hv htail depth)

/-- A shape is imposed on the whole of a text that can be read.  Blanks behind it do not matter. -/
theorem parse_append {α : Type} (read : Shape α) {o : Outline} {text b : List Char}
    (h : Reads o text) (hb : Blank b) : parse read (String.ofList (text ++ b)) = read o := by
  have hrest : Delimits b := List.append_nil b ▸ delimits_append hb delimits_nil
  have hfuel : 2 * text.length ≤ 2 * (text ++ b).length + 2 := by
    rw [List.length_append]
    omega
  have hread := h (2 * (text ++ b).length + 2) b hrest hfuel
  have hblanks : skipBlanks b = [] := by
    have hskip := skipBlanks_append hb []
    rwa [List.append_nil] at hskip
  have houtline : outlineOf (text ++ b) = (o, none) := by
    unfold outlineOf
    rw [hread]
    simp only [hblanks, if_true]
  unfold parse
  rw [String.toList_ofList, houtline]
  simp only
  cases read o <;> rfl

theorem Written.parse_compact {α : Type} {v : Json} {o : Outline} (h : Written v o)
    (read : Shape α) : parse read (String.ofList v.compact) = read o := by
  have hparse := parse_append read h.1 (b := []) (List.forall_mem_nil _)
  rwa [List.append_nil] at hparse

theorem Written.parse_pretty {α : Type} {v : Json} {o : Outline} (h : Written v o)
    (read : Shape α) : parse read (String.ofList v.pretty) = read o := by
  have hparse := parse_append read (h.2 0) (b := []) (List.forall_mem_nil _)
  rwa [List.append_nil] at hparse

end ResponsiveGrid.Json
