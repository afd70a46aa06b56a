import Mathlib.Data.List.Basic
import ResponsiveGrid.Proofs.Stylesheet.Names
import ResponsiveGrid.Stylesheet.Build
set_option autoImplicit false

/-!
# Stylesheet: what a sheet says at a width

A sheet is read the way a browser reads it.  A rule has its own declarations and, behind
them, those of its blocks in the order of the source, as far as their conditions hold; of
the declarations of one property the last one counts; and a variable stands for the value
that it is declared with.  `Sheet.computed?` is this reading.

A property of a rule `Follows` a field when every block says what the field is from its
marker on.  `computed?_of_follows` is what the order of blocks is good for: the last block
in force is that of the run the width lies in.
-/

namespace ResponsiveGrid.Stylesheet

/-! ## Reading a sheet -/

namespace Node

/-- The name and the value of a variable that a statement declares. -/
def binding? : Node → Option (String × String)
  | .variable name value => some (name, String.ofList (Phrase.render value))
  | _ => none

/-- The property and the value that a statement declares. -/
def declaration? : Node → Option (String × Phrase)
  | .declaration property value => some (property, value)
  | _ => none

/-- The name of the marker that a block depends on, and the statements of the block. -/
def block? : Node → Option (String × List Node)
  | .rule [.text opening, .variable name, .text closing] body =>
      if opening = "@media #\x7b" ∧ closing = "\x7d" then some (name, body) else none
  | _ => none

/-- The statements of a rule for a selector. -/
def ruleFor? (selector : String) : Node → Option (List Node)
  | .rule [.text header] body => if header = selector then some body else none
  | _ => none

end Node

/-- The declarations among statements. -/
def declarations (nodes : List Node) : List (String × Phrase) := nodes.filterMap Node.declaration?

/-- The text in front of the width in the condition of a marker. -/
def conditionOpening : List Char := "\"(min-width: #\x7bem(".toList

/-- The text behind the width in the condition of a marker. -/
def conditionClosing : List Char := ")\x7d)\"".toList

/-- The width in the condition of a marker. -/
def widthOf? (condition : List Char) : Option Nat :=
  match conditionOpening.isPrefixOf? condition with
  | none => none
  | some rest =>
      if rest.dropWhile Char.isDigit = conditionClosing then
        some (Nat.ofDigitChars 10 (rest.takeWhile Char.isDigit) 0)
      else none

namespace Sheet

/-- The variables that a sheet declares. -/
def bindings (sheet : Sheet) : List (String × String) := sheet.filterMap Node.binding?

/-- The value of a variable. -/
def lookup? (sheet : Sheet) (name : String) : Option String :=
  (sheet.bindings.find? fun b => b.1 == name).map Prod.snd

/-- The text of a phrase with the values of its variables in it. -/
def resolve? (sheet : Sheet) : Phrase → Option String
  | [] => some ""
  | .text content :: rest => (sheet.resolve? rest).map (content ++ ·)
  | .variable name :: rest =>
      match sheet.lookup? name, sheet.resolve? rest with
      | some value, some text => some (value ++ text)
      | _, _ => none

/-- Whether the condition of a marker holds at a width. -/
def holds (sheet : Sheet) (width : Nat) (name : String) : Bool :=
  match sheet.lookup? name with
  | none => false
  | some condition => (widthOf? condition.toList).any (· ≤ width)

/-- The declarations of a block, when its condition holds. -/
def ofBlock (sheet : Sheet) (width : Nat) (node : Node) : List (String × Phrase) :=
  match node.block? with
  | none => []
  | some (name, body) => if sheet.holds width name then declarations body else []

/-- The declarations of the statements of a rule that are in force at a width: its own,
and behind them those of its blocks. -/
def inForce (sheet : Sheet) (width : Nat) (body : List Node) : List (String × Phrase) :=
  declarations body ++ body.flatMap (sheet.ofBlock width)

/-- The value of a property for a selector at a width: the last one declared. -/
def computed? (sheet : Sheet) (width : Nat) (selector property : String) : Option String :=
  let body := sheet.filterMap (Node.ruleFor? selector)
  let declared := body.flatMap (sheet.inForce width)
  match (declared.filter fun d => d.1 == property).getLast? with
  | none => none
  | some d => sheet.resolve? d.2

end Sheet

/-! ## The parts of the sheet of a system -/

/-- What stands in front of the markers of every sheet. -/
def heading : List Node :=
  [.comment "Unit", .verbatim emFunction, .blank, .verbatim remFunction, .blank,
    .comment "Media Query"]

/-- What stands behind the variables of a sheet. -/
def rules (v : Variables) : List Node :=
  [.comment "Base", rootRule v, .blank, .comment "Component", containerRule v, .blank, rowRule v,
    .blank, colRule v, .blank] ++
  (separated (fractionLoops v "s" "width") ++
    .blank :: (separated (fractionLoops v "o" "margin-left") ++ [.blank]))

/-- The markers and the variables of a sheet stand between its heading and its rules. -/
theorem build_eq (s : Grid) :
    build s = heading ++ ((markers s).map Marker.node ++ .blank :: .comment "Grid" ::
      ((Variables.collect s (markers s)).all.map Variable.node ++
        .blank :: rules (Variables.collect s (markers s)))) := by
  simp only [build, heading, rules, List.append_assoc, List.cons_append, List.nil_append]

theorem filterMap_separated {β : Type} (f : Node → Option β) (hblank : f .blank = none)
    (nodes : List Node) : (separated nodes).filterMap f = nodes.filterMap f := by
  unfold separated
  split
  · simp [hblank]
  · induction nodes with
    | nil => rfl
    | cons node rest ih =>
      cases rest with
      | nil => rfl
      | cons next rest =>
        rw [List.intersperse_cons_cons, List.filterMap_cons, List.filterMap_cons_none hblank,
          ih (by simp), List.filterMap_cons (l := next :: rest)]

/-- What is read off the statements of a sheet comes from its markers, its variables, its
rules and its loops. -/
theorem filterMap_build {β : Type} (f : Node → Option β) (hcomment : ∀ c, f (.comment c) = none)
    (hverbatim : ∀ c, f (.verbatim c) = none) (hblank : f .blank = none) (s : Grid) :
    let v := Variables.collect s (markers s)
    (build s).filterMap f =
      ((markers s).map Marker.node).filterMap f ++ (v.all.map Variable.node).filterMap f ++
        [rootRule v, containerRule v, rowRule v, colRule v].filterMap f ++
        (fractionLoops v "s" "width").filterMap f ++
        (fractionLoops v "o" "margin-left").filterMap f := by
  intro v
  unfold build
  simp only [List.filterMap_append, List.filterMap_cons, List.filterMap_nil, hcomment, hverbatim,
    hblank, filterMap_separated f hblank, List.nil_append, List.append_nil, List.append_assoc]
  cases f (rootRule v) <;> cases f (containerRule v) <;> cases f (rowRule v) <;>
    cases f (colRule v) <;> rfl

/-! ## The variables of a sheet -/

/-- The binding of a marker. -/
def Marker.binding (m : Marker) : String × String :=
  let width := m.minWidth
  (m.key.name, s!"\"(min-width: #\x7bem({width})\x7d)\"")

/-- The binding of a variable. -/
def Variable.binding (v : Variable) : String × String := (v.name, v.value)

theorem binding?_text (name content : String) :
    (Node.variable name [.text content]).binding? = some (name, content) := by
  have hrender : String.ofList (Phrase.render [.text content]) = content := by
    simp [Phrase.render, Piece.render]
  show some (name, String.ofList (Phrase.render [.text content])) = _
  rw [hrender]

theorem binding?_marker (m : Marker) : m.node.binding? = some m.binding :=
  binding?_text _ _

theorem binding?_variable (v : Variable) : v.node.binding? = some v.binding :=
  binding?_text _ _

theorem filterMap_binding?_loops (v : Variables) (kind property : String) :
    (fractionLoops v kind property).filterMap Node.binding? = [] := by
  rw [List.filterMap_eq_nil_iff]
  intro node hnode
  obtain ⟨key, -, hkey⟩ := List.mem_filterMap.1 hnode
  obtain ⟨columns, -, rfl⟩ := Option.map_eq_some_iff.1 hkey
  rfl

/-- The sheet of a system declares its markers and the variables of its runs. -/
theorem bindings_build (s : Grid) :
    Sheet.bindings (build s) = (markers s).map Marker.binding ++
      (Variables.collect s (markers s)).all.map Variable.binding := by
  unfold Sheet.bindings
  rw [filterMap_build Node.binding? (fun _ => rfl) (fun _ => rfl) rfl,
    filterMap_binding?_loops, filterMap_binding?_loops, List.filterMap_map, List.filterMap_map]
  have hmarkers : Node.binding? ∘ Marker.node = some ∘ Marker.binding :=
    funext binding?_marker
  have hvariables : Node.binding? ∘ Variable.node = some ∘ Variable.binding :=
    funext binding?_variable
  rw [hmarkers, hvariables, List.filterMap_eq_map, List.filterMap_eq_map]
  simp [rootRule, containerRule, rowRule, colRule, Node.binding?]

theorem find?_binding {bindings : List (String × String)} (h : (bindings.map Prod.fst).Nodup)
    {b : String × String} (hb : b ∈ bindings) :
    bindings.find? (fun c => c.1 == b.1) = some b := by
  obtain ⟨front, back, hsplit⟩ := List.append_of_mem hb
  have hfront : front.find? (fun c => c.1 == b.1) = none := by
    rw [hsplit, List.map_append, List.nodup_append] at h
    rw [List.find?_eq_none]
    intro c hc heq
    refine h.2.2 c.1 (List.mem_map_of_mem hc) b.1 ?_ (eq_of_beq heq)
    simp
  rw [hsplit, List.find?_append, hfront]
  simp

theorem nodup_bindings (s : Grid) : ((Sheet.bindings (build s)).map Prod.fst).Nodup := by
  rw [bindings_build, List.map_append, List.map_map, List.map_map, List.nodup_append]
  refine ⟨nodup_marker_names s, nodup_variable_names s, ?_⟩
  intro name hname other hother
  obtain ⟨m, hm, rfl⟩ := List.mem_map.1 hname
  obtain ⟨v, hv, rfl⟩ := List.mem_map.1 hother
  exact marker_name_ne_variable_name hm hv

theorem lookup?_marker {s : Grid} {m : Marker} (h : m ∈ markers s) :
    Sheet.lookup? (build s) m.key.name = some m.binding.2 := by
  have hmem : m.binding ∈ Sheet.bindings (build s) := by
    rw [bindings_build]
    exact List.mem_append_left _ (List.mem_map_of_mem h)
  have hfind := find?_binding (nodup_bindings s) hmem
  unfold Sheet.lookup?
  exact congrArg (Option.map Prod.snd) hfind

theorem lookup?_variable {s : Grid} {v : Variable}
    (h : v ∈ (Variables.collect s (markers s)).all) :
    Sheet.lookup? (build s) v.name = some v.value := by
  have hmem : v.binding ∈ Sheet.bindings (build s) := by
    rw [bindings_build]
    exact List.mem_append_right _ (List.mem_map_of_mem h)
  have hfind := find?_binding (nodup_bindings s) hmem
  unfold Sheet.lookup?
  exact congrArg (Option.map Prod.snd) hfind

theorem isPrefixOf?_append (front back : List Char) :
    front.isPrefixOf? (front ++ back) = some back := by
  induction front with
  | nil => rfl
  | cons c front ih => simp [List.isPrefixOf?, ih]

theorem toList_binding (m : Marker) : m.binding.2.toList =
    conditionOpening ++ (Nat.toDigits 10 m.minWidth ++ conditionClosing) := by
  simp only [Marker.binding, String.toList_append, Nat.toString_eq_repr, Nat.toList_repr,
    List.append_assoc]
  rfl

theorem widthOf?_binding (m : Marker) : widthOf? m.binding.2.toList = some m.minWidth := by
  have hdigits : ∀ c ∈ Nat.toDigits 10 m.minWidth, c.isDigit = true :=
    fun c hc => Decimal.isDigit_of_mem_toDigits hc
  have hdrop : conditionClosing.dropWhile Char.isDigit = conditionClosing := rfl
  have htake : conditionClosing.takeWhile Char.isDigit = [] := rfl
  unfold widthOf?
  rw [toList_binding, isPrefixOf?_append]
  simp only
  rw [List.dropWhile_append_of_pos hdigits, List.takeWhile_append_of_pos hdigits, hdrop, htake,
    if_pos rfl, List.append_nil, Nat.ofDigitChars_ten_toDigits]

/-! ## Conditions -/

theorem markerOf_mem {s : Grid} {b : Stretch × Nat} (h : b ∈ (outline s).tail) :
    markerOf b ∈ markers s := by
  rw [markers_eq]
  exact List.mem_map_of_mem h

/-- The condition of a marker holds from the start of its stretch on. -/
theorem holds_marker {s : Grid} {b : Stretch × Nat} (h : b ∈ (outline s).tail) (width : Nat) :
    Sheet.holds (build s) width (Key.numbered b.2).name = reached width b := by
  have hlookup := lookup?_marker (markerOf_mem h)
  have hlookup : Sheet.lookup? (build s) (Key.numbered b.2).name =
    some (markerOf b).binding.2 := hlookup
  unfold Sheet.holds
  rw [hlookup]
  simp only
  rw [widthOf?_binding]
  rfl

/-- Whether what stands under a key is in force at a width. -/
def Key.inForce (sheet : Sheet) (width : Nat) : Key → Bool
  | .root => true
  | .marker n => sheet.holds width (Key.marker n).name

theorem outline_eq_cons {s : Grid} {b : Stretch × Nat} (h : b ∈ outline s) :
    b.2 = 0 ∧ b.1.start = 0 ∨ b ∈ (outline s).tail := by
  have htiles : s.entries ≠ [] → Tiles 0 s.entries := s.tiles
  unfold outline at *
  cases hentries : s.entries with
  | nil => rw [hentries] at h; cases h
  | cons e rest =>
    rw [hentries] at h htiles
    rw [stretches, List.zipIdx_cons] at *
    rcases List.mem_cons.1 h with rfl | h
    · exact .inl ⟨rfl, minWidth_of_tiles (htiles (List.cons_ne_nil e rest))⟩
    · exact .inr h

/-- What stands under the key of a stretch is in force once the stretch is reached. -/
theorem inForce_numbered {s : Grid} {b : Stretch × Nat} (h : b ∈ outline s) (width : Nat) :
    (Key.numbered b.2).inForce (build s) width = reached width b := by
  rcases outline_eq_cons h with ⟨hnumber, hstart⟩ | htail
  · rw [hnumber]
    simp [Key.numbered, Key.inForce, reached, hstart]
  · have hholds := holds_marker htail width
    rw [numbered_of_mem_tail htail] at *
    exact hholds

/-- The last run in force at a width has the value of the entry that is looked up for the
width. -/
theorem last_run {s : Grid} {width : Nat} {e : Entry} (h : s.matchFor width = some e)
    (track : Track) :
    ∃ key, (((Variables.collect s (markers s)).runs track).filter fun run =>
        run.1.inForce (build s) width).getLast? =
      some (key, variableFor track key (track.valueIn e.settings)) := by
  obtain ⟨b, hb, hvalue⟩ := last_turn h track
  have hreached : (turns track (outline s)).filter
      ((fun run : Key × Variable => run.1.inForce (build s) width) ∘ runOf track) =
      (turns track (outline s)).filter (reached width) :=
    List.filter_congr fun c hc => inForce_numbered ((turns_sublist track _).mem hc) width
  refine ⟨Key.numbered b.2, ?_⟩
  rw [runs_eq, List.filter_map, List.getLast?_map, hreached, hb, ← hvalue]
  rfl

/-! ## Rules with a block per marker -/

theorem declarations_blocks {later : List Key} (hlater : ∀ key ∈ later, key ≠ .root)
    (parts : Key → List Node) :
    declarations (later.flatMap fun key => blockFor key (parts key)) = [] := by
  unfold declarations
  rw [List.filterMap_eq_nil_iff]
  intro node hnode
  obtain ⟨key, hkey, hnode⟩ := List.mem_flatMap.1 hnode
  cases key with
  | root => exact absurd rfl (hlater _ hkey)
  | marker n =>
    rcases List.mem_cons.1 hnode with rfl | hnode
    · rfl
    · rw [List.mem_singleton.1 hnode]
      rfl

/-- What the blocks of a rule add at a width: the declarations under the keys in force. -/
theorem flatMap_ofBlock_blocks (sheet : Sheet) (width : Nat) {later : List Key}
    (hlater : ∀ key ∈ later, key ≠ .root) (parts : Key → List Node) :
    (later.flatMap fun key => blockFor key (parts key)).flatMap (sheet.ofBlock width) =
      (later.filter (Key.inForce sheet width)).flatMap fun key => declarations (parts key) := by
  induction later with
  | nil => rfl
  | cons key rest ih =>
    have hrest := ih fun k hk => hlater k (List.mem_cons_of_mem _ hk)
    rw [List.flatMap_cons, List.flatMap_append, hrest]
    cases key with
    | root => exact absurd rfl (hlater _ List.mem_cons_self)
    | marker n =>
      have hblock : (blockFor (.marker n) (parts (.marker n))).flatMap (sheet.ofBlock width) =
          if sheet.holds width (Key.marker n).name then declarations (parts (.marker n))
          else [] := List.append_nil _
      rw [hblock]
      by_cases hholds : (Key.marker n).inForce sheet width = true
      · rw [List.filter_cons_of_pos hholds, List.flatMap_cons]
        exact congrArg (· ++ _) (if_pos hholds)
      · rw [List.filter_cons_of_neg hholds]
        exact congrArg (· ++ _) (if_neg hholds)

/-- What is in force of a rule at a width: its own declarations, and behind them those
under the keys in force. -/
theorem inForce_body (sheet : Sheet) (width : Nat) {own : List Node}
    (hown : ∀ node ∈ own, node.block? = none) {later : List Key}
    (hlater : ∀ key ∈ later, key ≠ .root) (parts : Key → List Node) :
    sheet.inForce width (own ++ later.flatMap fun key => blockFor key (parts key)) =
      declarations own ++
        (later.filter (Key.inForce sheet width)).flatMap fun key => declarations (parts key) := by
  have hblocks := declarations_blocks hlater parts
  have hnone : own.flatMap (sheet.ofBlock width) = [] := by
    rw [List.flatMap_eq_nil_iff]
    intro node hnode
    unfold Sheet.ofBlock
    rw [hown node hnode]
  unfold Sheet.inForce declarations at *
  rw [List.filterMap_append, hblocks, List.append_nil, List.flatMap_append, hnone,
    List.nil_append, flatMap_ofBlock_blocks sheet width hlater]
  rfl

/-- The keys behind the root of some fields. -/
def laterKeys (s : Grid) (tracks : List Track) : List Key :=
  ((Variables.collect s (markers s)).keys tracks).tail

/-- A rule of a sheet that goes by the keys of some fields and says about a property, under
each key, what one of these fields is from there on. -/
structure Follows (s : Grid) (selector property : String) (track : Track)
    (value : Variable → Phrase) where
  tracks : List Track
  own : List Node
  parts : Key → List Node
  rule : (build s).filterMap (Node.ruleFor? selector) =
    [own ++ (laterKeys s tracks).flatMap fun key => blockFor key (parts key)]
  mem_tracks : track ∈ tracks
  block?_own : ∀ node ∈ own, node.block? = none
  own_eq : (declarations own).filter (fun d => d.1 == property) =
    (declarations (parts .root)).filter fun d => d.1 == property
  parts_eq : ∀ key, (declarations (parts key)).filter (fun d => d.1 == property) =
    (((Variables.collect s (markers s)).get? track key).map fun v => (property, value v)).toList

/-- A property that follows a field has the value of this field in the entry that is looked
up for the width. -/
theorem computed?_of_follows {s : Grid} {selector property : String} {track : Track}
    {value : Variable → Phrase} (f : Follows s selector property track value) {width : Nat}
    {e : Entry} (h : s.matchFor width = some e) :
    ∃ v ∈ (Variables.collect s (markers s)).all,
      v.value = (track.valueIn e.settings).expression ∧
      Sheet.computed? (build s) width selector property = Sheet.resolve? (build s) (value v) := by
  let v := Variables.collect s (markers s)
  have hentries : s.entries ≠ [] := by
    intro hempty
    simp [Grid.matchFor, hempty] at h
  obtain ⟨hroot, hlater⟩ := Variables.keys_eq_root_cons (root_mem_keys hentries f.mem_tracks)
  have hlater : ∀ key ∈ laterKeys s f.tracks, key ≠ .root := hlater
  obtain ⟨key, hlast⟩ := last_run h track
  have hdeclared : (Sheet.inForce (build s) width (f.own ++ (laterKeys s f.tracks).flatMap
        fun key => blockFor key (f.parts key))).filter (fun d => d.1 == property) =
      ((v.runs track).filter fun run => run.1.inForce (build s) width).map fun run =>
        (property, value run.2) := by
    let kept : Key → List (String × Phrase) := fun key =>
      (declarations (f.parts key)).filter fun d => d.1 == property
    have hkeys : (v.keys f.tracks).filter (Key.inForce (build s) width) =
        .root :: (laterKeys s f.tracks).filter (Key.inForce (build s) width) := by
      rw [hroot]
      rfl
    have hruns := Variables.filterMap_get?_keys (ascending_collect s) f.mem_tracks
      (Key.inForce (build s) width)
    have hkept : ∀ keys : List Key, keys.flatMap kept =
        (keys.filterMap (v.get? track)).map fun w => (property, value w) := by
      intro keys
      rw [List.map_filterMap, List.filterMap_eq_flatMap_toList]
      exact List.flatMap_congr fun key _ => f.parts_eq key
    rw [inForce_body _ _ f.block?_own hlater, List.filter_append, f.own_eq, List.filter_flatMap]
    calc kept .root ++ ((laterKeys s f.tracks).filter (Key.inForce (build s) width)).flatMap kept
        = ((v.keys f.tracks).filter (Key.inForce (build s) width)).flatMap kept := by
          rw [hkeys, List.flatMap_cons]
      _ = (((v.runs track).filter fun run => run.1.inForce (build s) width).map Prod.snd).map
            fun w => (property, value w) := by rw [hkept, hruns]
      _ = _ := List.map_map
  refine ⟨variableFor track key (track.valueIn e.settings), ?_, rfl, ?_⟩
  · have hrun := List.mem_of_mem_filter (List.mem_of_getLast? hlast)
    have htrack : track ∈ Track.all := by cases track <;> decide
    exact List.mem_flatMap.2 ⟨track, htrack, List.mem_map_of_mem hrun⟩
  · unfold Sheet.computed?
    rw [f.rule]
    simp only [List.flatMap_cons, List.flatMap_nil, List.append_nil]
    rw [hdeclared, List.getLast?_map, hlast]
    rfl

end ResponsiveGrid.Stylesheet
