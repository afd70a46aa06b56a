import Mathlib.Data.List.Basic
import ResponsiveGrid.Proofs.Decimal.Numeral
import ResponsiveGrid.Proofs.Stylesheet.Keys
set_option autoImplicit false

/-!
# Stylesheet: names tell variables apart

The name of a variable is the label of its key and the name of its field.  The five names
of fields end in five different letters, and the name of a marker ends in a digit, so the
last character of a name says what kind of variable it is; what is in front of the name of
the field then says which key.  No two variables of a sheet have the same name:
`nodup_marker_names`, `nodup_variable_names`, `marker_name_ne_variable_name`.
-/

namespace ResponsiveGrid.Stylesheet

/-! ## Characters of names -/

namespace Key

theorem toList_name_marker (n : Nat) :
    (Key.marker n).name.toList = 'm' :: 'q' :: Nat.toDigits 10 n := by
  simp only [name, String.toList_append, Nat.toString_eq_repr, Nat.toList_repr]
  rfl

theorem toList_label_marker (n : Nat) :
    (Key.marker n).label.toList = 'm' :: 'q' :: (Nat.toDigits 10 n ++ ['\\', ':']) := by
  simp only [label, String.toList_append, Nat.toString_eq_repr, Nat.toList_repr,
    List.append_assoc]
  rfl

theorem label_inj {a b : Key} (h : a.label = b.label) : a = b := by
  have hchars := congrArg String.toList h
  cases a with
  | root =>
    cases b with
    | root => rfl
    | marker n => rw [toList_label_marker] at hchars; cases hchars
  | marker m =>
    cases b with
    | root => rw [toList_label_marker] at hchars; cases hchars
    | marker n =>
      rw [toList_label_marker, toList_label_marker, List.cons_inj_right, List.cons_inj_right,
        List.append_cancel_right_eq] at hchars
      rw [Decimal.toDigits_inj hchars]

/-- Keys are told apart by their names. -/
theorem name_inj {a b : Key} (h : a.name = b.name) : a = b := by
  have hroot : Key.root.name.toList = 'r' :: ['o', 'o', 't'] := rfl
  have hchars := congrArg String.toList h
  cases a with
  | root =>
    cases b with
    | root => rfl
    | marker n =>
      rw [hroot, toList_name_marker] at hchars
      cases List.head_eq_of_cons_eq hchars
  | marker m =>
    cases b with
    | root =>
      rw [hroot, toList_name_marker] at hchars
      cases List.head_eq_of_cons_eq hchars
    | marker n =>
      rw [toList_name_marker, toList_name_marker, List.cons_inj_right,
        List.cons_inj_right] at hchars
      rw [Decimal.toDigits_inj hchars]

end Key

/-- The letter that the names of the variables of a field end in. -/
def Track.letter : Track → Char
  | .contentMaxWidth => 'h'
  | .columns => 's'
  | .gutter => 'r'
  | .margin => 'n'
  | .scale => 'e'

theorem Track.letter_inj {a b : Track} (h : a.letter = b.letter) : a = b := by
  revert h
  cases a <;> cases b <;> decide

theorem getLast?_variableFor (track : Track) (key : Key) (value : TrackValue) :
    (variableFor track key value).name.toList.getLast? = some track.letter := by
  unfold variableFor
  rw [String.toList_append, List.getLast?_append]
  cases track <;> rfl

/-- A variable's name says which field it is for and under which key. -/
theorem variableFor_name_inj {track track' : Track} {key key' : Key} {value value' : TrackValue}
    (h : (variableFor track key value).name = (variableFor track' key' value').name) :
    track = track' ∧ key = key' := by
  have hletter := getLast?_variableFor track key value
  rw [h, getLast?_variableFor] at hletter
  have htrack := Track.letter_inj (Option.some.inj hletter).symm
  subst htrack
  refine ⟨rfl, Key.label_inj ?_⟩
  unfold variableFor at h
  simpa using h

theorem name_marker_ne (n : Nat) (track : Track) (key : Key) (value : TrackValue) :
    (Key.marker n).name ≠ (variableFor track key value).name := by
  intro h
  obtain ⟨c, hc, hdigit⟩ := Decimal.getLast?_toDigits n
  have hletter := getLast?_variableFor track key value
  rw [← h, Key.toList_name_marker, List.getLast?_cons_of_ne_nil, List.getLast?_cons_of_ne_nil,
    hc] at hletter
  · rw [Option.some.inj hletter] at hdigit
    revert hdigit
    cases track <;> decide
  · exact Nat.toDigits_ne_nil
  · simp

/-! ## Names of a sheet -/

/-- Every run of a system is that of one of its stretches. -/
theorem mem_runs {s : Grid} {track : Track} {run : Key × Variable}
    (h : run ∈ (Variables.collect s (markers s)).runs track) :
    ∃ b ∈ outline s, run = runOf track b := by
  rw [runs_eq] at h
  obtain ⟨b, hb, rfl⟩ := List.mem_map.1 h
  exact ⟨b, (turns_sublist track _).mem hb, rfl⟩

theorem exists_variableFor {s : Grid} {v : Variable}
    (h : v ∈ (Variables.collect s (markers s)).all) :
    ∃ track key value, v = variableFor track key value := by
  obtain ⟨track, -, hv⟩ := List.mem_flatMap.1 h
  obtain ⟨run, hrun, rfl⟩ := List.mem_map.1 hv
  obtain ⟨b, -, rfl⟩ := mem_runs hrun
  exact ⟨track, Key.numbered b.2, b.1.look track, rfl⟩

theorem numbered_of_mem_tail {s : Grid} {b : Stretch × Nat} (h : b ∈ (outline s).tail) :
    Key.numbered b.2 = .marker b.2 := by
  have hpos : 0 < b.2 := by
    unfold outline at h
    cases hstretches : stretches s.entries with
    | nil => rw [hstretches] at h; cases h
    | cons first rest =>
      rw [hstretches, List.zipIdx_cons, List.tail_cons] at h
      exact List.le_snd_of_mem_zipIdx h
  cases hb : b.2 with
  | zero => omega
  | succ n => rfl

theorem nodup_marker_names (s : Grid) : ((markers s).map fun m => m.key.name).Nodup := by
  have hnumbers := (pairwise_number_outline s).sublist (List.tail_sublist _)
  rw [markers_eq, List.map_map]
  refine List.pairwise_map.2 (hnumbers.imp_of_mem ?_)
  intro b c hb hc hlt heq
  have heq : (Key.numbered b.2).name = (Key.numbered c.2).name := heq
  rw [numbered_of_mem_tail hb, numbered_of_mem_tail hc] at heq
  exact Nat.ne_of_lt hlt (Key.marker.inj (Key.name_inj heq))

theorem nodup_variable_names (s : Grid) :
    ((Variables.collect s (markers s)).all.map Variable.name).Nodup := by
  have hasc := ascending_collect s
  unfold Variables.all
  rw [List.map_flatMap, List.nodup_flatMap]
  constructor
  · intro track _
    rw [List.map_map]
    refine List.pairwise_map.2 ((hasc track).imp_of_mem ?_)
    intro r t hr ht hbefore heq
    obtain ⟨b, -, rfl⟩ := mem_runs hr
    obtain ⟨c, -, rfl⟩ := mem_runs ht
    have hkey := (variableFor_name_inj heq).2
    exact Nat.ne_of_lt hbefore (congrArg Key.rank hkey)
  · have htracks : Track.all.Nodup := by decide
    refine htracks.imp_of_mem ?_
    intro track other _ _ hne name hname hother
    obtain ⟨v, hv, rfl⟩ := List.mem_map.1 hname
    obtain ⟨r, hr, rfl⟩ := List.mem_map.1 hv
    obtain ⟨w, hw, heq⟩ := List.mem_map.1 hother
    obtain ⟨t, ht, rfl⟩ := List.mem_map.1 hw
    obtain ⟨b, -, rfl⟩ := mem_runs hr
    obtain ⟨c, -, rfl⟩ := mem_runs ht
    exact hne (variableFor_name_inj heq).1.symm

theorem marker_name_ne_variable_name {s : Grid} {m : Marker} {v : Variable}
    (hm : m ∈ markers s) (hv : v ∈ (Variables.collect s (markers s)).all) :
    m.key.name ≠ v.name := by
  rw [markers_eq] at hm
  obtain ⟨b, hb, rfl⟩ := List.mem_map.1 hm
  obtain ⟨track, key, value, rfl⟩ := exists_variableFor hv
  show (Key.numbered b.2).name ≠ _
  rw [numbered_of_mem_tail hb]
  exact name_marker_ne _ _ _ _

end ResponsiveGrid.Stylesheet
