import ResponsiveGrid.Proofs.Stylesheet.Cascade
set_option autoImplicit false

/-!
# Stylesheet: the sheet of a system means the system

Four rules of a sheet change with the width: those of the root, of containers, of rows and
of columns.  Each property that a field drives follows this field in the sense of
`Follows`, which is shown rule by rule here.  `computed_build` collects what that means for
the whole sheet: what is read from it at a width are the fields of the entry that is looked
up for the width.
-/

namespace ResponsiveGrid.Stylesheet

/-! ## The four rules -/

theorem filterMap_ruleFor?_build (s : Grid) (selector : String) :
    let v := Variables.collect s (markers s)
    (build s).filterMap (Node.ruleFor? selector) =
      [rootRule v, containerRule v, rowRule v, colRule v].filterMap (Node.ruleFor? selector) := by
  intro v
  have hmarkers : ((markers s).map Marker.node).filterMap (Node.ruleFor? selector) = [] := by
    rw [List.filterMap_map, List.filterMap_eq_nil_iff]
    intro _ _
    exact rfl
  have hvariables : (v.all.map Variable.node).filterMap (Node.ruleFor? selector) = [] := by
    rw [List.filterMap_map, List.filterMap_eq_nil_iff]
    intro _ _
    exact rfl
  have hloops : ∀ kind property,
      (fractionLoops v kind property).filterMap (Node.ruleFor? selector) = [] := by
    intro kind property
    rw [List.filterMap_eq_nil_iff]
    intro node hnode
    obtain ⟨key, -, hkey⟩ := List.mem_filterMap.1 hnode
    obtain ⟨columns, -, rfl⟩ := Option.map_eq_some_iff.1 hkey
    rfl
  rw [filterMap_build _ (fun _ => rfl) (fun _ => rfl) rfl, hmarkers, hvariables, hloops, hloops,
    List.nil_append, List.append_nil, List.append_nil, List.nil_append]

theorem flatMap_keys {s : Grid} (h : s.entries ≠ []) {tracks : List Track} {track : Track}
    (ht : track ∈ tracks) (parts : Key → List Node) :
    (((Variables.collect s (markers s)).keys tracks).flatMap fun key => blockFor key (parts key)) =
      parts .root ++ (laterKeys s tracks).flatMap fun key => blockFor key (parts key) := by
  rw [(Variables.keys_eq_root_cons (root_mem_keys h ht)).1, List.flatMap_cons]
  rfl

/-- The font size of the root follows the scale. -/
def followsFontSize {s : Grid} (h : s.entries ≠ []) :
    Follows s "html" "font-size" .scale fun v => [v.use] where
  tracks := [.scale]
  own := match (Variables.collect s (markers s)).get? .scale .root with
    | none => []
    | some scale => [.declaration "font-size" [scale.use]]
  parts key := match (Variables.collect s (markers s)).get? .scale key with
    | none => []
    | some scale => [.declaration "font-size" [scale.use]]
  rule := by
    rw [filterMap_ruleFor?_build]
    simp only [rootRule, flatMap_keys h List.mem_cons_self]
    rfl
  mem_tracks := List.mem_cons_self
  block?_own := by
    intro node hnode
    split at hnode
    · cases hnode
    · rw [List.mem_singleton.1 hnode]
      rfl
  own_eq := rfl
  parts_eq := by
    intro key
    cases (Variables.collect s (markers s)).get? .scale key <;> rfl

theorem block?_halfGutter {v : Variables} {key : Key} {side rest : String} :
    ∀ node ∈ halfGutter v key side rest, node.block? = none := by
  intro node hnode
  unfold halfGutter at hnode
  split at hnode
  · cases hnode
  · rcases List.mem_cons.1 hnode with rfl | hnode
    · rfl
    · rw [List.mem_singleton.1 hnode]
      rfl

theorem filter_halfGutter {v : Variables} {key : Key} {side rest property : String}
    (h : property = side ++ "-right" ∨ property = side ++ "-left") :
    (declarations (halfGutter v key side rest)).filter (fun d => d.1 == property) =
      ((v.get? .gutter key).map fun g =>
        (property, [g.use, Piece.text (" / 2" ++ rest)])).toList := by
  have hsides : side ++ "-right" ≠ side ++ "-left" := by
    intro heq
    have hchars := congrArg String.toList heq
    simp at hchars
  unfold halfGutter declarations
  cases v.get? .gutter key with
  | none => rfl
  | some g =>
    rcases h with rfl | rfl
    · simp [Node.declaration?, hsides.symm]
    · simp [Node.declaration?, hsides]

/-- The outer distances of a row follow the gutter. -/
def followsRowMargin {s : Grid} (h : s.entries ≠ []) {property : String}
    (hp : property = "margin-right" ∨ property = "margin-left") :
    Follows s ".row" property .gutter fun v => [v.use, .text (" / 2" ++ " * -1")] where
  tracks := [.gutter]
  own := plainDeclaration "display" "flex" :: plainDeclaration "flex-wrap" "wrap" ::
    halfGutter (Variables.collect s (markers s)) .root "margin" " * -1"
  parts key := halfGutter (Variables.collect s (markers s)) key "margin" " * -1"
  rule := by
    rw [filterMap_ruleFor?_build]
    simp only [rowRule, flatMap_keys h List.mem_cons_self]
    rfl
  mem_tracks := List.mem_cons_self
  block?_own := by
    intro node hnode
    rcases List.mem_cons.1 hnode with rfl | hnode
    · rfl
    · rcases List.mem_cons.1 hnode with rfl | hnode
      · rfl
      · exact block?_halfGutter node hnode
  own_eq := by
    rcases hp with rfl | rfl <;> rfl
  parts_eq := fun key => filter_halfGutter hp

/-- The inner distances of a column follow the gutter. -/
def followsColPadding {s : Grid} (h : s.entries ≠ []) {property : String}
    (hp : property = "padding-right" ∨ property = "padding-left") :
    Follows s ".col" property .gutter fun v => [v.use, .text (" / 2" ++ "")] where
  tracks := [.gutter]
  own := plainDeclaration "box-sizing" "border-box" ::
    halfGutter (Variables.collect s (markers s)) .root "padding" ""
  parts key := halfGutter (Variables.collect s (markers s)) key "padding" ""
  rule := by
    rw [filterMap_ruleFor?_build]
    simp only [colRule, flatMap_keys h List.mem_cons_self]
    rfl
  mem_tracks := List.mem_cons_self
  block?_own := by
    intro node hnode
    rcases List.mem_cons.1 hnode with rfl | hnode
    · rfl
    · exact block?_halfGutter node hnode
  own_eq := by
    rcases hp with rfl | rfl <;> rfl
  parts_eq := fun key => filter_halfGutter hp

/-! ## The rule for containers -/

/-- What a container declares everywhere, in the order in which it is put together. -/
def containerParts (v : Variables) : List Node :=
  plainDeclaration "box-sizing" "border-box" :: plainDeclaration "margin-right" "auto" ::
    plainDeclaration "margin-left" "auto" :: containerDeclarations v .root

/-- What a container declares everywhere, in the order in which it is written. -/
def containerOwn (v : Variables) : List Node :=
  (containerParts v).mergeSort fun a b => decide (containerRank a ≤ containerRank b)

/-- Under the keys of markers a container grows by their blocks. -/
theorem foldl_extendContainer (v : Variables) {later : List Key}
    (h : ∀ key ∈ later, key ≠ .root) (children : List Node) :
    later.foldl (extendContainer v) children =
      children ++ later.flatMap fun key => blockFor key (containerDeclarations v key) := by
  induction later generalizing children with
  | nil => simp
  | cons key rest ih =>
    have hkey : key ≠ .root := h key List.mem_cons_self
    have hstep : extendContainer v children key =
        children ++ blockFor key (containerDeclarations v key) := if_neg hkey
    rw [List.foldl_cons, hstep, ih fun k hk => h k (List.mem_cons_of_mem _ hk), List.flatMap_cons,
      List.append_assoc]

/-- The statements of the rule for containers: the declarations, in order, and the blocks. -/
theorem containerRule_eq {s : Grid} (h : s.entries ≠ []) :
    containerRule (Variables.collect s (markers s)) =
      .rule [.text ".container"] (containerOwn (Variables.collect s (markers s)) ++
        (laterKeys s [.contentMaxWidth, .gutter]).flatMap fun key =>
          blockFor key (containerDeclarations (Variables.collect s (markers s)) key)) := by
  have htrack : Track.contentMaxWidth ∈ [Track.contentMaxWidth, Track.gutter] :=
    List.mem_cons_self
  obtain ⟨hroot, hlater⟩ := Variables.keys_eq_root_cons (root_mem_keys h htrack)
  unfold containerRule
  rw [hroot, List.foldl_cons, foldl_extendContainer _ hlater]
  rfl

theorem filter_containerDeclarations_width (v : Variables) (key : Key) :
    (declarations (containerDeclarations v key)).filter (fun d => d.1 == "max-width") =
      ((v.get? .contentMaxWidth key).map fun cap => ("max-width", [cap.use])).toList := by
  unfold containerDeclarations halfGutter declarations
  cases v.get? .contentMaxWidth key <;> cases v.get? .gutter key <;> rfl

theorem filter_containerDeclarations_padding (v : Variables) (key : Key) {property : String}
    (h : property = "padding-right" ∨ property = "padding-left") :
    (declarations (containerDeclarations v key)).filter (fun d => d.1 == property) =
      ((v.get? .gutter key).map fun g => (property, [g.use, Piece.text (" / 2" ++ "")])).toList := by
  unfold containerDeclarations halfGutter declarations
  rcases h with rfl | rfl <;> cases v.get? .contentMaxWidth key <;> cases v.get? .gutter key <;> rfl

/-- Of what a container says at most once, the order does not matter. -/
theorem filter_containerOwn {v : Variables} {property : String} {said : Option (String × Phrase)}
    (h : (declarations (containerParts v)).filter (fun d => d.1 == property) = said.toList) :
    (declarations (containerOwn v)).filter (fun d => d.1 == property) = said.toList := by
  have hperm : (containerOwn v).Perm (containerParts v) := List.mergeSort_perm _ _
  have hsaid := (hperm.filterMap Node.declaration?).filter fun d => d.1 == property
  change ((declarations (containerOwn v)).filter _).Perm ((declarations (containerParts v)).filter _)
    at hsaid
  rw [h] at hsaid
  cases said with
  | none => exact hsaid.eq_nil
  | some d => exact List.perm_singleton.1 hsaid

theorem block?_containerOwn {v : Variables} : ∀ node ∈ containerOwn v, node.block? = none := by
  intro node hnode
  have hnode : node ∈ containerParts v := (List.mergeSort_perm _ _).mem_iff.1 hnode
  unfold containerParts containerDeclarations plainDeclaration at hnode
  rcases List.mem_cons.1 hnode with rfl | hnode
  · rfl
  · rcases List.mem_cons.1 hnode with rfl | hnode
    · rfl
    · rcases List.mem_cons.1 hnode with rfl | hnode
      · rfl
      · rcases List.mem_append.1 hnode with hnode | hnode
        · split at hnode
          · cases hnode
          · rw [List.mem_singleton.1 hnode]
            rfl
        · exact block?_halfGutter node hnode

/-- A property of containers follows a field when their declarations do. -/
def followsContainer {s : Grid} (h : s.entries ≠ []) {property : String} {track : Track}
    {value : Variable → Phrase} (ht : track ∈ [Track.contentMaxWidth, Track.gutter])
    (hbase : (declarations (containerParts (Variables.collect s (markers s)))).filter
        (fun d => d.1 == property) =
      (declarations (containerDeclarations (Variables.collect s (markers s)) .root)).filter
        fun d => d.1 == property)
    (hparts : ∀ key, (declarations (containerDeclarations (Variables.collect s (markers s))
        key)).filter (fun d => d.1 == property) =
      (((Variables.collect s (markers s)).get? track key).map fun v =>
        (property, value v)).toList) :
    Follows s ".container" property track value where
  tracks := [.contentMaxWidth, .gutter]
  own := containerOwn (Variables.collect s (markers s))
  parts := containerDeclarations (Variables.collect s (markers s))
  rule := by
    rw [filterMap_ruleFor?_build]
    simp only [containerRule_eq h]
    rfl
  mem_tracks := ht
  block?_own := block?_containerOwn
  own_eq := by
    rw [hparts] at hbase ⊢
    exact filter_containerOwn hbase
  parts_eq := hparts

/-! ## What the sheet of a system means -/

theorem resolve?_use {s : Grid} {v : Variable} (h : v ∈ (Variables.collect s (markers s)).all) :
    Sheet.resolve? (build s) [v.use] = some v.value := by
  have hlookup := lookup?_variable h
  simp only [Sheet.resolve?, Variable.use, hlookup]
  rw [String.append_empty]

theorem resolve?_use_text {s : Grid} {v : Variable}
    (h : v ∈ (Variables.collect s (markers s)).all) (content : String) :
    Sheet.resolve? (build s) [v.use, .text content] = some (v.value ++ content) := by
  have hlookup := lookup?_variable h
  simp only [Sheet.resolve?, Variable.use, hlookup, Option.map_some]
  rw [String.append_empty]

theorem computed?_use {s : Grid} {selector property : String} {track : Track}
    (f : Follows s selector property track fun v => [v.use]) {width : Nat} {e : Entry}
    (h : s.matchFor width = some e) :
    Sheet.computed? (build s) width selector property =
      some (track.valueIn e.settings).expression := by
  obtain ⟨v, hv, hvalue, hcomputed⟩ := computed?_of_follows f h
  rw [hcomputed, resolve?_use hv, hvalue]

theorem computed?_use_text {s : Grid} {selector property content : String} {track : Track}
    (f : Follows s selector property track fun v => [v.use, .text content]) {width : Nat}
    {e : Entry} (h : s.matchFor width = some e) :
    Sheet.computed? (build s) width selector property =
      some ((track.valueIn e.settings).expression ++ content) := by
  obtain ⟨v, hv, hvalue, hcomputed⟩ := computed?_of_follows f h
  rw [hcomputed, resolve?_use_text hv, hvalue]

/-- The sheet of a system means the system: at every width it says what the entry that is
looked up for the width is set to. -/
theorem computed_build (s : Grid) (h : s.entries ≠ []) (width : Nat) :
    ∃ e, s.matchFor width = some e ∧
      let read := Sheet.computed? (build s) width
      let scale := String.ofList (Decimal.plain e.settings.scale)
      let cap := match e.settings.contentMaxWidth with
        | some px => s!"rem({px})"
        | none => "none"
      let gutter := s!"rem({e.settings.gutter})"
      read "html" "font-size" = some s!"percentage({scale})" ∧
      read ".container" "max-width" = some cap ∧
      read ".container" "padding-right" = some (gutter ++ " / 2") ∧
      read ".container" "padding-left" = some (gutter ++ " / 2") ∧
      read ".col" "padding-right" = some (gutter ++ " / 2") ∧
      read ".col" "padding-left" = some (gutter ++ " / 2") ∧
      read ".row" "margin-right" = some (gutter ++ " / 2 * -1") ∧
      read ".row" "margin-left" = some (gutter ++ " / 2 * -1") := by
  obtain ⟨e, -, hmatch, -⟩ := s.matchFor_unique h width
  refine ⟨e, hmatch, ?_, ?_, ?_, ?_, ?_, ?_, ?_, ?_⟩
  · exact computed?_use (followsFontSize h) hmatch
  · have hcap := computed?_use (followsContainer h List.mem_cons_self rfl
      (filter_containerDeclarations_width _)) hmatch
    rw [hcap]
    cases hwidth : e.settings.contentMaxWidth <;> simp [Track.valueIn, hwidth, TrackValue.expression]
  · exact computed?_use_text (followsContainer h (by decide) rfl fun key =>
      filter_containerDeclarations_padding _ key (.inl rfl)) hmatch
  · exact computed?_use_text (followsContainer h (by decide) rfl fun key =>
      filter_containerDeclarations_padding _ key (.inr rfl)) hmatch
  · exact computed?_use_text (followsColPadding h (.inl rfl)) hmatch
  · exact computed?_use_text (followsColPadding h (.inr rfl)) hmatch
  · exact computed?_use_text (followsRowMargin h (.inl rfl)) hmatch
  · exact computed?_use_text (followsRowMargin h (.inr rfl)) hmatch

/-- What the sheet of the default system says at the width of a small desktop. -/
theorem computed_build_default :
    (Grid.reset 1).1.entries ≠ [] ∧ ∃ e, (Grid.reset 1).1.matchFor 1100 = some e ∧
      Sheet.computed? (build (Grid.reset 1).1) 1100 ".container" "max-width" =
        some "rem(1024)" := by
  have hentries : (Grid.reset 1).1.entries ≠ [] := by decide
  refine ⟨hentries, ?_⟩
  obtain ⟨e, hmatch, -, hcap, -⟩ := computed_build (Grid.reset 1).1 hentries 1100
  have hwidth : ((Grid.reset 1).1.matchFor 1100).map (fun e => e.settings.contentMaxWidth) =
      some (some 1024) := by decide
  rw [hmatch] at hwidth
  have hwidth : e.settings.contentMaxWidth = some 1024 := Option.some.inj hwidth
  refine ⟨e, hmatch, ?_⟩
  rw [hcap, hwidth]
  rfl

end ResponsiveGrid.Stylesheet
