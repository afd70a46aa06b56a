import ResponsiveGrid.Proofs.Stylesheet.Cascade
import ResponsiveGrid.Proofs.Stylesheet.Lines
import ResponsiveGrid.Proofs.Stylesheet.Values
set_option autoImplicit false

/-!
# Stylesheet: the text of a sheet and the layout determine each other

The sheet of a system is computed from its stretches alone, and two systems that look the
same at every width have the same stretches.  In the other direction the text gives back
the markers and the variables, line by line, and these say what the system looks like at
every width.  `generate_eq_iff` puts the two together.
-/

namespace ResponsiveGrid.Stylesheet

/-! ## From the layout to the text -/

/-- No stretch looks like the one before, the first of which is given by its look. -/
def Turning : Look → List Stretch → Prop
  | _, [] => True
  | previous, b :: rest => b.look ≠ previous ∧ Turning b.look rest

theorem turning_bends (a : Entry) (rest : List Entry) :
    Turning (look a.settings) (bends (a :: rest)) := by
  induction rest generalizing a with
  | nil => trivial
  | cons b rest ih =>
    rw [bends_cons_cons]
    split
    · next hdiffers =>
      refine ⟨fun heq => ?_, ih b⟩
      have hsame : look a.settings = look b.settings := Eq.symm heq
      rw [differs_eq_false_iff.2 hsame] at hdiffers
      cases hdiffers
    · next hdiffers =>
      rw [differs_eq_false_iff.1 (Bool.eq_false_iff.2 hdiffers)]
      exact ih b

/-- A stretch below all others of two lists shows in the look at its start. -/
theorem lookAt_ne_of_lt {first : Look} {b : Stretch} {bs cs : List Stretch}
    (hturn : b.look ≠ first) (hbs : ∀ d ∈ bs, b.start < d.start)
    (hcs : ∀ d ∈ cs, b.start < d.start) :
    lookAt first (b :: bs) b.start ≠ lookAt first cs b.start := by
  rw [lookAt_cons (Nat.le_refl _), lookAt_of_lt hbs, lookAt_of_lt hcs]
  exact hturn

theorem forall_start_lt {low : Nat} {c : Stretch} {cs : List Stretch} (h : low < c.start)
    (hcs : ∀ d ∈ cs, c.start < d.start) : ∀ d ∈ c :: cs, low < d.start := by
  intro d hd
  rcases List.mem_cons.1 hd with rfl | hd
  · exact h
  · exact Nat.lt_trans h (hcs d hd)

/-- Stretches in ascending order are determined by the looks at all widths up to their
last start. -/
theorem eq_of_lookAt_eq {first : Look} {bs cs : List Stretch} {limit : Nat}
    (hb : bs.Pairwise fun b c => b.start < c.start) (hc : cs.Pairwise fun b c => b.start < c.start)
    (hbturn : Turning first bs) (hcturn : Turning first cs)
    (hblimit : ∀ b ∈ bs, b.start ≤ limit) (hclimit : ∀ c ∈ cs, c.start ≤ limit)
    (h : ∀ width ≤ limit, lookAt first bs width = lookAt first cs width) : bs = cs := by
  induction bs generalizing first cs with
  | nil =>
    cases cs with
    | nil => rfl
    | cons c cs =>
      have hlook := h c.start (hclimit c List.mem_cons_self)
      exact absurd hlook.symm
        (lookAt_ne_of_lt hcturn.1 (List.pairwise_cons.1 hc).1 fun _ hd => absurd hd List.not_mem_nil)
  | cons b bs ih =>
    obtain ⟨hbs, hbtail⟩ := List.pairwise_cons.1 hb
    have hbstart := hblimit b List.mem_cons_self
    cases cs with
    | nil =>
      exact absurd (h b.start hbstart)
        (lookAt_ne_of_lt hbturn.1 hbs fun _ hd => absurd hd List.not_mem_nil)
    | cons c cs =>
      obtain ⟨hcs, hctail⟩ := List.pairwise_cons.1 hc
      have hcstart := hclimit c List.mem_cons_self
      have hstarts : b.start = c.start := by
        rcases Nat.lt_trichotomy b.start c.start with hlt | heq | hlt
        · exact absurd (h b.start hbstart)
            (lookAt_ne_of_lt hbturn.1 hbs (forall_start_lt hlt hcs))
        · exact heq
        · exact absurd (h c.start hcstart).symm
            (lookAt_ne_of_lt hcturn.1 hcs (forall_start_lt hlt hbs))
      have hlooks : b.look = c.look := by
        have hlook := h b.start hbstart
        rw [lookAt_cons (Nat.le_refl _), lookAt_of_lt hbs, hstarts, lookAt_cons (Nat.le_refl _),
          lookAt_of_lt hcs] at hlook
        exact hlook
      have hsame : b = c := by
        cases b
        cases c
        simp_all
      subst hsame
      refine congrArg (b :: ·) (ih hbtail hctail hbturn.2 hcturn.2
        (fun d hd => hblimit d (List.mem_cons_of_mem _ hd))
        (fun d hd => hclimit d (List.mem_cons_of_mem _ hd)) fun width hwidth => ?_)
      by_cases hle : b.start ≤ width
      · have heq := h width hwidth
        rw [lookAt_cons hle, lookAt_cons hle] at heq
        exact heq
      · have hlt : width < b.start := Nat.lt_of_not_le hle
        rw [lookAt_of_lt fun d hd => Nat.lt_trans hlt (hbs d hd),
          lookAt_of_lt fun d hd => Nat.lt_trans hlt (hcs d hd)]

theorem start_le_of_mem_bends {entries : List Entry} : ∀ b ∈ bends entries, b.start ≤ 9998 := by
  induction entries with
  | nil => simp [bends]
  | cons a rest ih =>
    cases rest with
    | nil => simp [bends]
    | cons b rest =>
      intro c hc
      rw [bends_cons_cons] at hc
      split at hc
      · rcases List.mem_cons.1 hc with rfl | hc
        · exact b.range.minWidth_le
        · exact ih c hc
      · exact ih c hc

/-- Two systems look the same at all widths. -/
def SameLayout (s t : Grid) : Prop :=
  ∀ width ≤ largest32, ∃ d e, s.matchFor width = some d ∧ t.matchFor width = some e ∧
    look d.settings = look e.settings

/-- Systems that look the same at all widths have the same stretches. -/
theorem outline_eq_of_sameLayout {s t : Grid} (h : SameLayout s t) : outline s = outline t := by
  obtain ⟨d, e, hd, he, hlook⟩ := h 0 (Nat.zero_le _)
  unfold SameLayout Grid.matchFor at h
  unfold Grid.matchFor at hd he
  unfold outline
  cases hs : s.entries with
  | nil => rw [hs] at hd; cases hd
  | cons a rest =>
    cases ht : t.entries with
    | nil => rw [ht] at he; cases he
    | cons b others =>
      have hstiles := s.tiles (by simp [hs])
      have httiles := t.tiles (by simp [ht])
      rw [hs] at hstiles hd h
      rw [ht] at httiles he h
      have hamin := minWidth_of_tiles hstiles
      have hbmin := minWidth_of_tiles httiles
      have hsame : ∀ width ≤ largest32, lookAt (look a.settings) (bends (a :: rest)) width =
          lookAt (look b.settings) (bends (b :: others)) width := by
        intro width hwidth
        obtain ⟨d, e, hd, he, hlook⟩ := h width hwidth
        obtain ⟨d', hd', hdlook⟩ := last_bend hstiles (Nat.zero_le width)
        obtain ⟨e', he', helook⟩ := last_bend httiles (Nat.zero_le width)
        cases hd.symm.trans hd'
        cases he.symm.trans he'
        rw [hdlook, helook, hlook]
      have hfirst : look a.settings = look b.settings := by
        have hzero := hsame 0 (Nat.zero_le _)
        rw [lookAt_of_lt (lt_start_of_mem_bends hstiles),
          lookAt_of_lt (lt_start_of_mem_bends httiles)] at hzero
        exact hzero
      have hlimit : (9998 : Nat) ≤ largest32 := by decide
      have hbends : bends (a :: rest) = bends (b :: others) := by
        refine eq_of_lookAt_eq (pairwise_start_bends hstiles) (pairwise_start_bends httiles)
          (turning_bends a rest) (hfirst ▸ turning_bends b others) start_le_of_mem_bends
          start_le_of_mem_bends fun width hwidth => ?_
        rw [hsame width (Nat.le_trans hwidth hlimit), hfirst]
      rw [stretches, stretches, hbends, hfirst, hamin, hbmin]

theorem build_eq_of_outline_eq {s t : Grid} (h : outline s = outline t) : build s = build t := by
  have hmarkers : markers s = markers t := by rw [markers_eq, markers_eq, h]
  have hcollect : Variables.collect s (markers s) = Variables.collect t (markers t) := by
    have hruns : (Variables.collect s (markers s)).runs = (Variables.collect t (markers t)).runs := by
      funext track
      rw [runs_eq, runs_eq, h]
    exact congrArg Variables.mk hruns
  simp only [build]
  rw [hcollect, hmarkers]

/-! ## From the text to the variables -/

theorem render_variable (name value : String) :
    (Node.variable name [.text value]).render =
      '$' :: (name.toList ++ [':'] ++ ' ' :: (value.toList ++ [';'])) := by
  simp [Node.render, Phrase.render, Piece.render]

/-- Variables whose names have no blanks are told apart by their texts. -/
theorem render_variable_inj {name name' value value' : String} (h : ' ' ∉ name.toList)
    (h' : ' ' ∉ name'.toList)
    (heq : (Node.variable name [.text value]).render =
      (Node.variable name' [.text value']).render) : name = name' ∧ value = value' := by
  rw [render_variable, render_variable] at heq
  have hname : ' ' ∉ name.toList ++ [':'] := by simp [h]
  have hname' : ' ' ∉ name'.toList ++ [':'] := by simp [h']
  obtain ⟨hnames, hvalues⟩ := append_separator_inj hname hname' (List.tail_eq_of_cons_eq heq)
  exact ⟨String.toList_inj.1 (List.append_cancel_right hnames),
    String.toList_inj.1 (List.append_cancel_right hvalues)⟩

theorem linesOf_variable {name value : String} (h : '\n' ∉ name.toList)
    (h' : '\n' ∉ value.toList) :
    linesOf (Node.variable name [.text value]).render =
      [(Node.variable name [.text value]).render] := by
  refine linesOf_of_not_mem ?_
  rw [render_variable]
  simp [h, h']

theorem newline_not_mem_binding (m : Marker) : '\n' ∉ m.binding.2.toList := by
  have hdigits : '\n' ∉ Nat.toDigits 10 m.minWidth := not_mem_toDigits rfl _
  have hopening : '\n' ∉ conditionOpening := by decide
  have hclosing : '\n' ∉ conditionClosing := by decide
  rw [toList_binding]
  simp [hdigits, hopening, hclosing]

theorem render_marker_inj {m n : Marker} (h : m.node.render = n.node.render) : m = n := by
  obtain ⟨hname, hcondition⟩ := render_variable_inj (not_mem_name (.inl rfl) m.key)
    (not_mem_name (.inl rfl) n.key) h
  have hkey := Key.name_inj hname
  have hwidth : some m.minWidth = some n.minWidth := by
    rw [← widthOf?_binding m, ← widthOf?_binding n]
    exact congrArg (fun c => widthOf? (String.toList c)) hcondition
  cases m
  cases n
  simp_all

theorem newline_not_mem_value {s : Grid} {v : Variable}
    (h : v ∈ (Variables.collect s (markers s)).all) : '\n' ∉ v.value.toList := by
  obtain ⟨track, key, value, rfl⟩ := exists_variableFor h
  exact not_mem_expression (.inl rfl) value

theorem not_mem_variable_name {s : Grid} {v : Variable} {c : Char}
    (hc : c = ' ' ∨ c = '\n' ∨ c = '$') (h : v ∈ (Variables.collect s (markers s)).all) :
    c ∉ v.name.toList := by
  obtain ⟨track, key, value, rfl⟩ := exists_variableFor h
  exact not_mem_variableFor hc track key value

/-- The lines of the text of a sheet: those of the heading, one for each marker, one for
each variable, and those behind them, with empty lines in between. -/
theorem linesOf_generate (s : Grid) :
    ∃ behind, linesOf (generate s).toList =
      heading.flatMap (fun node => linesOf node.render) ++
        ((markers s).map (fun m => m.node.render) ++ [] :: "// Grid".toList ::
          ((Variables.collect s (markers s)).all.map (fun v => v.node.render) ++ [] :: behind)) := by
  have hbuild := build_eq s
  have hne : (build s).map Node.render ≠ [] := by
    rw [hbuild]
    exact List.cons_ne_nil _ _
  have hmarkers : (markers s).flatMap (fun m => linesOf m.node.render) =
      (markers s).map fun m => m.node.render := by
    rw [List.map_eq_flatMap]
    exact List.flatMap_congr fun m _ =>
      linesOf_variable (not_mem_name (.inr (.inl rfl)) _) (newline_not_mem_binding m)
  have hvariables : (Variables.collect s (markers s)).all.flatMap
      (fun v => linesOf v.node.render) =
      (Variables.collect s (markers s)).all.map fun v => v.node.render := by
    rw [List.map_eq_flatMap]
    exact List.flatMap_congr fun v hv =>
      linesOf_variable (not_mem_variable_name (.inr (.inl rfl)) hv) (newline_not_mem_value hv)
  refine ⟨(rules (Variables.collect s (markers s))).flatMap fun node => linesOf node.render, ?_⟩
  unfold generate Sheet.render
  rw [String.toList_ofList, linesOf_joinLines hne, List.flatMap_map, hbuild, List.flatMap_append,
    List.flatMap_append, List.flatMap_map, hmarkers, List.flatMap_cons, List.flatMap_cons,
    List.flatMap_append, List.flatMap_map, hvariables, List.flatMap_cons]
  rfl

theorem eq_of_map_eq {α β : Type} {f : α → β} {l m : List α} (h : l.map f = m.map f)
    (hf : ∀ a ∈ l, ∀ b ∈ m, f a = f b → a = b) : l = m := by
  induction l generalizing m with
  | nil => exact (List.map_eq_nil_iff.1 h.symm).symm
  | cons a l ih =>
    cases m with
    | nil => cases h
    | cons b m =>
      obtain ⟨hhead, htail⟩ := List.cons.inj h
      rw [hf a List.mem_cons_self b List.mem_cons_self hhead, ih htail fun c hc d hd =>
        hf c (List.mem_cons_of_mem _ hc) d (List.mem_cons_of_mem _ hd)]

/-- The text of a sheet has its markers and its variables in it. -/
theorem variables_eq_of_generate_eq {s t : Grid} (h : generate s = generate t) :
    markers s = markers t ∧
      (Variables.collect s (markers s)).all = (Variables.collect t (markers t)).all := by
  obtain ⟨behind, hs⟩ := linesOf_generate s
  obtain ⟨others, ht⟩ := linesOf_generate t
  rw [h, ht] at hs
  have hmarker : ∀ u : Grid, [] ∉ (markers u).map fun m => m.node.render := by
    intro u hmem
    obtain ⟨m, -, hm⟩ := List.mem_map.1 hmem
    cases hm
  have hvariable : ∀ u : Grid, [] ∉
      (Variables.collect u (markers u)).all.map fun v => v.node.render := by
    intro u hmem
    obtain ⟨v, -, hv⟩ := List.mem_map.1 hmem
    cases hv
  obtain ⟨hmarkers, hrest⟩ :=
    append_separator_inj (hmarker t) (hmarker s) (List.append_cancel_left hs)
  obtain ⟨hvariables, -⟩ :=
    append_separator_inj (hvariable t) (hvariable s) (List.tail_eq_of_cons_eq hrest)
  constructor
  · exact eq_of_map_eq hmarkers.symm fun m _ n _ heq => render_marker_inj heq
  · apply eq_of_map_eq hvariables.symm
    intro v hv w hw heq
    obtain ⟨hname, hvalue⟩ := render_variable_inj (not_mem_variable_name (.inl rfl) hv)
      (not_mem_variable_name (.inl rfl) hw) heq
    cases v
    cases w
    simp_all

/-! ## From the variables to the layout -/

/-- The variables of one field are those whose names end in its letter. -/
theorem filter_all (s : Grid) (track : Track) :
    ((Variables.collect s (markers s)).all.filter fun v =>
        v.name.toList.getLast? == some track.letter) =
      ((Variables.collect s (markers s)).runs track).map Prod.snd := by
  have hone : ∀ other : Track,
      (((Variables.collect s (markers s)).runs other).map Prod.snd).filter (fun v =>
        v.name.toList.getLast? == some track.letter) =
      if other = track then ((Variables.collect s (markers s)).runs other).map Prod.snd else [] := by
    intro other
    have hletter : ∀ v ∈ ((Variables.collect s (markers s)).runs other).map Prod.snd,
        v.name.toList.getLast? = some other.letter := by
      intro v hv
      obtain ⟨run, hrun, rfl⟩ := List.mem_map.1 hv
      obtain ⟨b, -, rfl⟩ := mem_runs hrun
      exact getLast?_variableFor _ _ _
    split
    · next heq =>
      rw [List.filter_eq_self]
      intro v hv
      rw [hletter v hv, heq]
      exact beq_self_eq_true _
    · next hne =>
      rw [List.filter_eq_nil_iff]
      intro v hv heq
      rw [hletter v hv] at heq
      exact hne (Track.letter_inj (Option.some.inj (eq_of_beq heq)))
  unfold Variables.all
  rw [List.filter_flatMap, List.flatMap_congr fun other _ => hone other]
  cases track <;> simp [Track.all]

/-- The variables of a sheet say which runs its fields have. -/
theorem runs_eq_of_all_eq {s t : Grid}
    (h : (Variables.collect s (markers s)).all = (Variables.collect t (markers t)).all)
    (track : Track) :
    (Variables.collect s (markers s)).runs track = (Variables.collect t (markers t)).runs track := by
  refine eq_of_map_eq (f := Prod.snd) ?_ fun r hr q hq heq => ?_
  · rw [← filter_all, ← filter_all, h]
  · obtain ⟨b, -, rfl⟩ := mem_runs hr
    obtain ⟨c, -, rfl⟩ := mem_runs hq
    have hkey := (variableFor_name_inj (congrArg Variable.name heq)).2
    exact Prod.ext hkey heq

/-- Systems whose sheets have the same markers and variables look the same at every
width. -/
theorem look_eq_of_variables_eq {s t : Grid} (hmarkers : markers s = markers t)
    (hall : (Variables.collect s (markers s)).all = (Variables.collect t (markers t)).all)
    {width : Nat} {d e : Entry} (hd : s.matchFor width = some d)
    (he : t.matchFor width = some e) : look d.settings = look e.settings := by
  have hbindings : Sheet.bindings (build s) = Sheet.bindings (build t) := by
    rw [bindings_build, bindings_build, hall, hmarkers]
  have hforce : ∀ key : Key, key.inForce (build s) width = key.inForce (build t) width := by
    intro key
    cases key with
    | root => rfl
    | marker n =>
      unfold Key.inForce Sheet.holds Sheet.lookup?
      rw [hbindings]
  funext track
  obtain ⟨key, hs⟩ := last_run hd track
  obtain ⟨other, ht⟩ := last_run he track
  rw [runs_eq_of_all_eq hall track, List.filter_congr fun run _ => hforce run.1, ht] at hs
  have hvariable := congrArg Prod.snd (Option.some.inj hs)
  have hvalue := congrArg Variable.value hvariable
  exact (expression_inj e.valid d.valid hvalue).symm

theorem all_eq_nil_iff (s : Grid) :
    (Variables.collect s (markers s)).all = [] ↔ s.entries = [] := by
  constructor
  · intro h
    apply Decidable.byContradiction
    intro hne
    have hroot := root_mem_keys hne (List.mem_cons_self : Track.scale ∈ [Track.scale])
    obtain ⟨track, -, v, hv⟩ := Variables.mem_keys.1 hroot
    have htrack : track ∈ Track.all := by cases track <;> decide
    have hmem : v ∈ (Variables.collect s (markers s)).all :=
      List.mem_flatMap.2 ⟨track, htrack, List.mem_map_of_mem hv⟩
    rw [h] at hmem
    cases hmem
  · intro h
    have hruns : ∀ track, (Variables.collect s (markers s)).runs track = [] := by
      intro track
      rw [runs_eq, outline, h]
      rfl
    unfold Variables.all
    simp [hruns]

theorem generate_eq_of_outline_eq {s t : Grid} (h : outline s = outline t) :
    generate s = generate t := by
  unfold generate
  rw [build_eq_of_outline_eq h]

/-- Two systems have the same text exactly when both are empty, or neither is and the
tracked fields agree at every width. -/
theorem generate_eq_iff (s t : Grid) :
    generate s = generate t ↔
      s.entries = [] ∧ t.entries = [] ∨
        s.entries ≠ [] ∧ t.entries ≠ [] ∧ ∀ width ≤ largest32, ∃ d e,
          s.matchFor width = some d ∧ t.matchFor width = some e ∧
          d.settings.contentMaxWidth = e.settings.contentMaxWidth ∧
          d.settings.columns = e.settings.columns ∧ d.settings.gutter = e.settings.gutter ∧
          d.settings.margin = e.settings.margin ∧ d.settings.scale = e.settings.scale := by
  constructor
  · intro h
    obtain ⟨hmarkers, hall⟩ := variables_eq_of_generate_eq h
    have hempty : s.entries = [] ↔ t.entries = [] := by
      rw [← all_eq_nil_iff, hall, all_eq_nil_iff]
    by_cases hs : s.entries = []
    · exact .inl ⟨hs, hempty.1 hs⟩
    · have ht : t.entries ≠ [] := fun ht => hs (hempty.2 ht)
      refine .inr ⟨hs, ht, ?_⟩
      intro width _
      obtain ⟨d, -, hd, -⟩ := s.matchFor_unique hs width
      obtain ⟨e, -, he, -⟩ := t.matchFor_unique ht width
      exact ⟨d, e, hd, he, look_eq_iff.1 (look_eq_of_variables_eq hmarkers hall hd he)⟩
  · rintro (⟨hs, ht⟩ | ⟨-, -, h⟩)
    · exact generate_eq_of_outline_eq (by rw [outline, outline, hs, ht])
    · refine generate_eq_of_outline_eq (outline_eq_of_sameLayout fun width hwidth => ?_)
      obtain ⟨d, e, hd, he, hfields⟩ := h width hwidth
      exact ⟨d, e, hd, he, look_eq_iff.2 hfields⟩

end ResponsiveGrid.Stylesheet
