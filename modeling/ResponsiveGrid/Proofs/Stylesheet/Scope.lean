import ResponsiveGrid.Proofs.Stylesheet.Rules
import ResponsiveGrid.Proofs.Stylesheet.Values
set_option autoImplicit false

/-!
# Stylesheet: every use is in scope

What a text uses is read off its characters: a name behind each dollar sign (`usesIn`).
`Scoped` walks through a sheet from top to bottom the way a compiler for style sheets
does.  A variable is in scope behind its declaration and a counter inside its loop;
conditions of blocks use markers, values and ends of loops use variables of fields or
counters, and selectors use counters.

`wellScoped_build` is that the sheet of every system passes, that no two of its variables
have the same name, and that its variables are the markers and the runs of the system.
-/

namespace ResponsiveGrid.Stylesheet

/-! ## Uses in a text -/

/-- Whether a character is a part of a name as it stands. -/
def isNamePart (c : Char) : Bool := c.isAlphanum || c == '-' || c == '_'

/-- The name that a text starts with.  A backslash makes the character behind it a part of
the name. -/
def nameAtStart : List Char → List Char
  | '\\' :: c :: rest => '\\' :: c :: nameAtStart rest
  | c :: rest => if isNamePart c then c :: nameAtStart rest else []
  | [] => []

/-- The names behind the dollar signs of a text. -/
def usesIn : List Char → List String
  | [] => []
  | c :: rest =>
      if c = '$' then String.ofList (nameAtStart rest) :: usesIn rest else usesIn rest

/-! ## Scopes -/

/-- The names that may be used at a place of a sheet. -/
structure Scope where
  markers : List String
  fields : List String
  counters : List String
  deriving DecidableEq, Repr, Inhabited

namespace Scope

/-- Nothing is in scope at the start of a sheet. -/
def empty : Scope := ⟨[], [], []⟩

/-- What a statement adds for the statements behind it.  A variable that stands for a
condition on the width is a marker. -/
def declare (scope : Scope) : Node → Scope
  | .variable name value =>
      if (widthOf? (Phrase.render value)).isSome then
        { scope with markers := scope.markers ++ [name] }
      else { scope with fields := scope.fields ++ [name] }
  | _ => scope

/-- What is in scope behind statements. -/
def behind (scope : Scope) (nodes : List Node) : Scope := nodes.foldl declare scope

/-- What is in scope inside a loop. -/
def inLoop (scope : Scope) (counter : String) : Scope :=
  { scope with counters := counter :: scope.counters }

/-- The names that stand for values. -/
def values (scope : Scope) : List String := scope.fields ++ scope.counters

/-- All names in scope. -/
def names (scope : Scope) : List String := scope.markers ++ scope.values

theorem mem_names_inLoop {scope : Scope} {counter name : String} :
    name ∈ (scope.inLoop counter).names ↔ name = counter ∨ name ∈ scope.names := by
  simp only [names, values, inLoop, List.mem_append, List.mem_cons]
  grind

end Scope

/-- The counters of the loops over fractions. -/
def fractionCounters : List String := ["numerator", "denominator"]

mutual

/-- Every use in a statement is in scope. -/
inductive Scoped : Scope → Node → Prop
  | comment {scope : Scope} {content : String}
      (h : ∀ name ∈ usesIn content.toList, name ∉ fractionCounters) :
      Scoped scope (.comment content)
  /-- functions use their own parameters -/
  | verbatim {scope : Scope} {content : String}
      (h : ∀ name ∈ usesIn content.toList, name ∉ fractionCounters) :
      Scoped scope (.verbatim content)
  | blank {scope : Scope} : Scoped scope .blank
  | declaration {scope : Scope} {property : String} {value : Phrase}
      (hproperty : usesIn property.toList = [])
      (hvalue : ∀ name ∈ usesIn (Phrase.render value), name ∈ scope.values) :
      Scoped scope (.declaration property value)
  | variable {scope : Scope} {name : String} {value : Phrase}
      (hvalue : ∀ name ∈ usesIn (Phrase.render value), name ∈ scope.fields) :
      Scoped scope (.variable name value)
  /-- a loop binds a new counter for its body -/
  | loop {scope : Scope} {header : Phrase} {children : List Node} {counter : String}
      {bounds : List String} (hkind : "@for ".toList <+: Phrase.render header)
      (huses : usesIn (Phrase.render header) = counter :: bounds)
      (hbounds : ∀ name ∈ bounds, name ∈ scope.values) (hnew : counter ∉ scope.names)
      (hchildren : AllScoped (scope.inLoop counter) children) :
      Scoped scope (.rule header children)
  | media {scope : Scope} {header : Phrase} {children : List Node}
      (hkind : "@media ".toList <+: Phrase.render header)
      (huses : ∀ name ∈ usesIn (Phrase.render header), name ∈ scope.markers)
      (hchildren : AllScoped scope children) : Scoped scope (.rule header children)
  | selector {scope : Scope} {header : Phrase} {children : List Node}
      (hkind : (Phrase.render header).head? ≠ some '@')
      (huses : ∀ name ∈ usesIn (Phrase.render header), name ∈ scope.counters)
      (hchildren : AllScoped scope children) : Scoped scope (.rule header children)

/-- Every use in statements is in scope, each statement behind those in front of it. -/
inductive AllScoped : Scope → List Node → Prop
  | nil {scope : Scope} : AllScoped scope []
  | cons {scope : Scope} {node : Node} {rest : List Node} (hnode : Scoped scope node)
      (hrest : AllScoped (scope.declare node) rest) : AllScoped scope (node :: rest)

end

mutual

/-- The names of the variables that are declared in a statement, at any depth. -/
def Node.declared : Node → List String
  | .variable name _ => [name]
  | .rule _ children => declaredIn children
  | _ => []

/-- The names of the variables that are declared in statements, at any depth. -/
def declaredIn : List Node → List String
  | [] => []
  | node :: rest => node.declared ++ declaredIn rest

end

/-- A sheet declares every name once and before it is used. -/
structure WellScoped (sheet : Sheet) : Prop where
  distinct : (declaredIn sheet).Nodup
  inScope : AllScoped .empty sheet

/-! ## Names in texts -/

/-- Characters of names in front of a text belong to the name. -/
theorem nameAtStart_append {front : List Char} (h : ∀ c ∈ front, isNamePart c = true)
    (rest : List Char) : nameAtStart (front ++ rest) = front ++ nameAtStart rest := by
  induction front with
  | nil => rfl
  | cons c front ih =>
    have hc : isNamePart c = true := h c List.mem_cons_self
    have hescape : c ≠ '\\' := by
      rintro rfl
      exact absurd hc (by decide)
    have hfront := ih fun d hd => h d (List.mem_cons_of_mem _ hd)
    rw [List.cons_append, nameAtStart.eq_2 _ _ (fun _ _ h _ => hescape h), if_pos hc, hfront]
    rfl

/-- Behind a text without dollar signs the same variables are used as without it. -/
theorem usesIn_append {front : List Char} (h : '$' ∉ front) (rest : List Char) :
    usesIn (front ++ rest) = usesIn rest := by
  induction front with
  | nil => rfl
  | cons c front ih =>
    obtain ⟨hc, hfront⟩ := not_or.1 (mt List.mem_cons.2 h)
    rw [List.cons_append, usesIn, if_neg (Ne.symm hc), ih hfront]

theorem usesIn_eq_nil {text : List Char} (h : '$' ∉ text) : usesIn text = [] := by
  have huses := usesIn_append h []
  rwa [List.append_nil] at huses

/-- A name is read as it is written, up to where it ends. -/
structure IsName (name : String) : Prop where
  whole : ∀ rest, nameAtStart rest = [] → nameAtStart (name.toList ++ rest) = name.toList
  plain : '$' ∉ name.toList

theorem isName_of_parts {name : String} (h : name.toList.all isNamePart = true) :
    IsName name where
  whole := by
    intro rest hrest
    rw [nameAtStart_append (List.all_eq_true.1 h), hrest, List.append_nil]
  plain := fun hdollar => absurd (List.all_eq_true.1 h '$' hdollar) (by decide)

theorem isNamePart_of_mem_numbered {n : Nat} {c : Char}
    (h : c ∈ 'm' :: 'q' :: Nat.toDigits 10 n) : isNamePart c = true := by
  rcases List.mem_cons.1 h with rfl | h
  · rfl
  · rcases List.mem_cons.1 h with rfl | h
    · rfl
    · have hdigit := Decimal.isDigit_of_mem_toDigits h
      simp [isNamePart, Char.isAlphanum, hdigit]

theorem isName_key (key : Key) : IsName key.name := by
  apply isName_of_parts
  cases key with
  | root => rfl
  | marker n =>
    rw [Key.toList_name_marker]
    exact List.all_eq_true.2 fun c hc => isNamePart_of_mem_numbered hc

/-- What a key puts before a name belongs to the name. -/
theorem nameAtStart_label (key : Key) (rest : List Char) :
    nameAtStart (key.label.toList ++ rest) = key.label.toList ++ nameAtStart rest := by
  cases key with
  | root => rfl
  | marker n =>
    have hnumbered : nameAtStart (('m' :: 'q' :: Nat.toDigits 10 n) ++ '\\' :: ':' :: rest) =
        ('m' :: 'q' :: Nat.toDigits 10 n) ++ nameAtStart ('\\' :: ':' :: rest) :=
      nameAtStart_append (fun c hc => isNamePart_of_mem_numbered hc) _
    rw [Key.toList_label_marker]
    simpa [nameAtStart] using hnumbered

theorem isName_variableFor (track : Track) (key : Key) (value : TrackValue) :
    IsName (variableFor track key value).name where
  whole := by
    intro rest hrest
    have hparts : track.variableName.toList.all isNamePart = true := by
      cases track <;> rfl
    unfold variableFor
    rw [String.toList_append, List.append_assoc, nameAtStart_label,
      nameAtStart_append (List.all_eq_true.1 hparts), hrest, List.append_nil]
  plain := not_mem_variableFor (.inr (.inr rfl)) track key value

theorem isName_fractionCounter {name : String} (h : name ∈ fractionCounters) : IsName name := by
  rcases List.mem_pair.1 h with rfl | rfl
  · exact isName_of_parts rfl
  · exact isName_of_parts rfl

/-! ## Uses in phrases -/

theorem usesIn_text {content : String} (h : '$' ∉ content.toList) (rest : Phrase) :
    usesIn (Phrase.render (.text content :: rest)) = usesIn (Phrase.render rest) :=
  usesIn_append h _

/-- A variable in a phrase is used when a name cannot go on behind it. -/
theorem usesIn_variable {name : String} (h : IsName name) {rest : Phrase}
    (hrest : nameAtStart (Phrase.render rest) = []) :
    usesIn (Phrase.render (.variable name :: rest)) = name :: usesIn (Phrase.render rest) := by
  have hrender : Phrase.render (.variable name :: rest) =
      '$' :: (name.toList ++ Phrase.render rest) := rfl
  rw [hrender, usesIn, if_pos rfl, h.whole _ hrest, usesIn_append h.plain, String.ofList_toList]

theorem usesIn_half {name rest : String} (h : IsName name) (hrest : '$' ∉ rest.toList) :
    usesIn (Phrase.render [.variable name, .text (" / 2" ++ rest)]) = [name] := by
  have hslash : Phrase.render [.text (" / 2" ++ rest)] = ' ' :: '/' :: ' ' :: '2' :: rest.toList := by
    simp only [Phrase.render, Piece.render, String.toList_append, List.flatMap_cons,
      List.flatMap_nil, List.append_nil]
    rfl
  have hends : nameAtStart (Phrase.render [.text (" / 2" ++ rest)]) = [] := by
    rw [hslash]
    rfl
  have hplain : '$' ∉ (" / 2" ++ rest).toList := by
    rw [String.toList_append]
    exact fun hmem => (List.mem_append.1 hmem).elim (by decide) hrest
  rw [usesIn_variable h hends, usesIn_text hplain]
  rfl

theorem usesIn_media {name : String} (h : IsName name) :
    usesIn (Phrase.render [.text "@media #\x7b", .variable name, .text "\x7d"]) = [name] := by
  rw [usesIn_text (by decide), usesIn_variable h rfl]
  rfl

theorem usesIn_fractionSelector (key : Key) {kind : String} (hkind : '$' ∉ kind.toList) :
    usesIn (Phrase.render (fractionSelector key kind)) = fractionCounters := by
  have hplain : '$' ∉ (".col.-" ++ key.label ++ kind ++ "#\x7b").toList := by
    have hfront : '$' ∉ ".col.-".toList := by decide
    have hback : '$' ∉ "#\x7b".toList := by decide
    simp only [String.toList_append, List.mem_append, not_or]
    exact ⟨⟨⟨hfront, not_mem_label (.inr (.inr rfl)) key⟩, hkind⟩, hback⟩
  unfold fractionSelector
  rw [usesIn_text hplain]
  rfl

theorem usesIn_denominators {name : String} (h : IsName name) :
    usesIn (Phrase.render [.text "@for ", .variable "denominator", .text " from 1 through ",
      .variable name]) = ["denominator", name] := by
  have hdenominator : IsName "denominator" := isName_fractionCounter (by decide)
  rw [usesIn_text (by decide), usesIn_variable hdenominator rfl, usesIn_text (by decide),
    usesIn_variable h rfl]
  rfl

theorem usesIn_numerators : usesIn (Phrase.render [.text "@for ", .variable "numerator",
    .text " from 1 through ", .variable "denominator"]) = ["numerator", "denominator"] := rfl

theorem usesIn_share : usesIn (Phrase.render share) = fractionCounters := rfl

theorem head?_fractionSelector (key : Key) (kind : String) :
    (Phrase.render (fractionSelector key kind)).head? ≠ some '@' := by
  simp [fractionSelector, Phrase.render, Piece.render, String.toList_append]

/-! ## Statements that declare nothing -/

/-- Every use in a statement is in scope, and the statement declares nothing. -/
structure Closed (scope : Scope) (node : Node) : Prop where
  inScope : Scoped scope node
  silent : node.declared = []

theorem Closed.declare {scope : Scope} {node : Node} (h : Closed scope node) :
    scope.declare node = scope := by
  unfold Scope.declare
  split
  · cases h.silent
  · rfl

/-- Statements that declare nothing can stand in any order. -/
theorem allScoped_of_closed {scope : Scope} {nodes : List Node}
    (h : ∀ node ∈ nodes, Closed scope node) : AllScoped scope nodes := by
  induction nodes with
  | nil => exact .nil
  | cons node rest ih =>
    have hnode := h node List.mem_cons_self
    refine .cons hnode.inScope ?_
    rw [hnode.declare]
    exact ih fun d hd => h d (List.mem_cons_of_mem _ hd)

theorem declaredIn_eq_flatMap (nodes : List Node) :
    declaredIn nodes = nodes.flatMap Node.declared := by
  induction nodes with
  | nil => rfl
  | cons node rest ih => rw [declaredIn, List.flatMap_cons, ih]

theorem declaredIn_of_closed {scope : Scope} {nodes : List Node}
    (h : ∀ node ∈ nodes, Closed scope node) : declaredIn nodes = [] := by
  rw [declaredIn_eq_flatMap, List.flatMap_eq_nil_iff]
  exact fun node hnode => (h node hnode).silent

theorem closed_blank {scope : Scope} : Closed scope .blank := ⟨.blank, rfl⟩

theorem closed_comment {scope : Scope} {content : String} (h : '$' ∉ content.toList) :
    Closed scope (.comment content) := by
  refine ⟨.comment ?_, rfl⟩
  rw [usesIn_eq_nil h]
  exact List.forall_mem_nil _

theorem closed_declaration {scope : Scope} {property : String} {value : Phrase}
    (hproperty : '$' ∉ property.toList)
    (hvalue : ∀ name ∈ usesIn (Phrase.render value), name ∈ scope.values) :
    Closed scope (.declaration property value) :=
  ⟨.declaration (usesIn_eq_nil hproperty) hvalue, rfl⟩

theorem closed_plainDeclaration {scope : Scope} {property value : String}
    (hproperty : '$' ∉ property.toList) (hvalue : '$' ∉ value.toList) :
    Closed scope (plainDeclaration property value) := by
  refine closed_declaration hproperty ?_
  rw [usesIn_text hvalue]
  exact List.forall_mem_nil _

theorem closed_media {scope : Scope} {name : String} {body : List Node} (hname : IsName name)
    (hmem : name ∈ scope.markers) (h : ∀ node ∈ body, Closed scope node) :
    Closed scope
      (.rule [.text "@media #\x7b", .variable name, .text "\x7d"] body) := by
  refine ⟨.media ⟨_, rfl⟩ ?_ (allScoped_of_closed h), declaredIn_of_closed h⟩
  rw [usesIn_media hname]
  exact fun other hother => List.mem_singleton.1 hother ▸ hmem

theorem closed_selector {scope : Scope} {header : Phrase} {children : List Node}
    (hkind : (Phrase.render header).head? ≠ some '@')
    (huses : ∀ name ∈ usesIn (Phrase.render header), name ∈ scope.counters)
    (h : ∀ node ∈ children, Closed scope node) : Closed scope (.rule header children) :=
  ⟨.selector hkind huses (allScoped_of_closed h), declaredIn_of_closed h⟩

theorem closed_loop {scope : Scope} {header : Phrase} {children : List Node} {counter : String}
    {bounds : List String} (hkind : "@for ".toList <+: Phrase.render header)
    (huses : usesIn (Phrase.render header) = counter :: bounds)
    (hbounds : ∀ name ∈ bounds, name ∈ scope.values) (hnew : counter ∉ scope.names)
    (h : ∀ node ∈ children, Closed (scope.inLoop counter) node) :
    Closed scope (.rule header children) :=
  ⟨.loop hkind huses hbounds hnew (allScoped_of_closed h), declaredIn_of_closed h⟩

/-! ## The scope of a system -/

/-- The names of the markers and of the variables of a system. -/
def scopeOf (s : Grid) : Scope where
  markers := (markers s).map fun m => m.key.name
  fields := (Variables.collect s (markers s)).all.map Variable.name
  counters := []

section Rules

variable {s : Grid}

theorem name_mem_markers {tracks : List Track} {key : Key}
    (h : key ∈ (Variables.collect s (markers s)).keys tracks) (hkey : key ≠ .root) :
    key.name ∈ (scopeOf s).markers := by
  obtain ⟨track, -, w, hw⟩ := Variables.mem_keys.1 h
  obtain ⟨b, hb, hrun⟩ := mem_runs hw
  have hkeyb : key = Key.numbered b.2 := congrArg Prod.fst hrun
  rcases outline_eq_cons hb with ⟨hzero, -⟩ | htail
  · rw [hkeyb, hzero] at hkey
    exact absurd rfl hkey
  · rw [hkeyb]
    exact List.mem_map.2 ⟨markerOf b, markerOf_mem htail, rfl⟩

theorem name_mem_fields {track : Track} {key : Key} {w : Variable}
    (h : (Variables.collect s (markers s)).get? track key = some w) :
    IsName w.name ∧ w.name ∈ (scopeOf s).fields := by
  have htrack : track ∈ Track.all := by cases track <;> decide
  have hmem : w ∈ (Variables.collect s (markers s)).all :=
    List.mem_flatMap.2 ⟨track, htrack, List.mem_map_of_mem (Variables.mem_of_get? h)⟩
  refine ⟨?_, List.mem_map_of_mem hmem⟩
  obtain ⟨track, key, value, rfl⟩ := exists_variableFor hmem
  exact isName_variableFor track key value

/-- No counter is a name of a marker or of a variable. -/
theorem fractionCounter_not_mem_names {name : String} (h : name ∈ fractionCounters) :
    name ∉ (scopeOf s).names := by
  have hdash : '-' ∉ name.toList := by
    rcases List.mem_pair.1 h with rfl | rfl <;> decide
  have hhead : name.toList.head? ≠ some 'm' := by
    rcases List.mem_pair.1 h with rfl | rfl <;> decide
  intro hmem
  rcases List.mem_append.1 hmem with hmarker | hvalue
  · obtain ⟨m, hm, rfl⟩ := List.mem_map.1 hmarker
    rw [markers_eq] at hm
    obtain ⟨b, hb, rfl⟩ := List.mem_map.1 hm
    have hname : (markerOf b).key = .marker b.2 := numbered_of_mem_tail hb
    rw [hname, Key.toList_name_marker] at hhead
    exact hhead rfl
  · rcases List.mem_append.1 hvalue with hfield | hcounter
    · obtain ⟨v, hv, rfl⟩ := List.mem_map.1 hfield
      obtain ⟨track, key, value, rfl⟩ := exists_variableFor hv
      have htrack : '-' ∈ track.variableName.toList := by cases track <;> decide
      refine hdash ?_
      unfold variableFor
      rw [String.toList_append]
      exact List.mem_append_right _ htrack
    · cases hcounter

/-- Everything that the four rules are put together from is closed. -/
theorem compositional_closed :
    Compositional (Variables.collect s (markers s)) (Closed (scopeOf s)) where
  blank := closed_blank
  plain := by
    have hproperties : ∀ property ∈ ruleProperties, '$' ∉ property.toList := by decide
    have hvalues : ∀ value ∈ plainValues, '$' ∉ value.toList := by decide
    intro property hproperty value hvalue
    exact closed_plainDeclaration (hproperties property hproperty) (hvalues value hvalue)
  use := by
    have hproperties : ∀ property ∈ ruleProperties, '$' ∉ property.toList := by decide
    intro property hproperty track key w hw
    obtain ⟨hname, hmem⟩ := name_mem_fields hw
    refine closed_declaration (hproperties property hproperty) ?_
    unfold Variable.use
    rw [usesIn_variable hname rfl]
    exact fun name h => List.mem_append_left _ (List.mem_singleton.1 h ▸ hmem)
  half := by
    have hproperties : ∀ property ∈ ruleProperties, '$' ∉ property.toList := by decide
    have hendings : ∀ ending ∈ halfEndings, '$' ∉ ending.toList := by decide
    intro property hproperty ending hending key w hw
    obtain ⟨hname, hmem⟩ := name_mem_fields hw
    refine closed_declaration (hproperties property hproperty) ?_
    unfold Variable.use
    rw [usesIn_half hname (hendings ending hending)]
    exact fun name h => List.mem_append_left _ (List.mem_singleton.1 h ▸ hmem)
  block := by
    intro tracks key hkey condition hcondition body hbody
    cases key with
    | root => cases hcondition
    | marker n =>
      cases hcondition
      exact closed_media (isName_key (.marker n)) (name_mem_markers hkey (by simp)) hbody
  rule := by
    have hselectors : ∀ selector ∈ ruleSelectors,
        selector.toList.head? ≠ some '@' ∧ '$' ∉ selector.toList := by decide
    intro selector hselector children hchildren
    obtain ⟨hkind, hplain⟩ := hselectors selector hselector
    have hrender : Phrase.render [.text selector] = selector.toList := List.append_nil _
    refine closed_selector ?_ ?_ hchildren
    · rw [hrender]
      exact hkind
    · rw [hrender, usesIn_eq_nil hplain]
      exact List.forall_mem_nil _

/-- A loop over fractions binds its two counters, one inside the other. -/
theorem closed_fractionLoop {key : Key} {columns : Variable} {kind property : String}
    (hkey : key ≠ .root → key.name ∈ (scopeOf s).markers)
    (hcolumns : IsName columns.name ∧ columns.name ∈ (scopeOf s).fields)
    (hkind : '$' ∉ kind.toList) (hproperty : '$' ∉ property.toList) :
    Closed (scopeOf s) (fractionLoop key columns kind property) := by
  have hnumerator : "numerator" ∉ (scopeOf s).names := fractionCounter_not_mem_names (by decide)
  have hdenominator : "denominator" ∉ (scopeOf s).names := fractionCounter_not_mem_names (by decide)
  have hinner : "numerator" ∉ ((scopeOf s).inLoop "denominator").names := by
    rw [Scope.mem_names_inLoop]
    exact not_or.2 ⟨by decide, hnumerator⟩
  unfold fractionLoop
  refine closed_loop ⟨_, rfl⟩ (usesIn_denominators hcolumns.1) ?_ hdenominator fun node hnode => ?_
  · exact fun name hname => List.mem_append_left _ (List.mem_singleton.1 hname ▸ hcolumns.2)
  rw [List.mem_singleton.1 hnode]
  refine closed_loop ⟨_, rfl⟩ usesIn_numerators ?_ hinner fun node hnode => ?_
  · exact fun name hname => List.mem_append_right _ hname
  rw [List.mem_singleton.1 hnode]
  have hshare : Closed (((scopeOf s).inLoop "denominator").inLoop "numerator")
      (.declaration property share) := by
    refine closed_declaration hproperty ?_
    rw [usesIn_share]
    exact fun name hname => List.mem_append_right _ hname
  refine closed_selector (head?_fractionSelector key kind) ?_ fun node hnode => ?_
  · rw [usesIn_fractionSelector key hkind]
    exact fun name hname => hname
  cases key with
  | root =>
    rw [List.mem_singleton.1 hnode]
    exact hshare
  | marker n =>
    rw [List.mem_singleton.1 hnode]
    refine closed_media (isName_key (.marker n)) (hkey (by simp)) fun d hd => ?_
    rw [List.mem_singleton.1 hd]
    exact hshare

theorem closed_rules :
    ∀ node ∈ rules (Variables.collect s (markers s)), Closed (scopeOf s) node := by
  refine compositional_closed.rules (closed_comment (by decide)) (closed_comment (by decide)) ?_
  intro key hkey columns hcolumns
  exact ⟨closed_fractionLoop (name_mem_markers hkey) (name_mem_fields hcolumns) (by decide)
      (by decide),
    closed_fractionLoop (name_mem_markers hkey) (name_mem_fields hcolumns) (by decide)
      (by decide)⟩

end Rules

/-! ## The walk through a sheet -/

theorem allScoped_append {scope : Scope} {front back : List Node} (hfront : AllScoped scope front)
    (hback : AllScoped (scope.behind front) back) : AllScoped scope (front ++ back) := by
  induction front generalizing scope with
  | nil => exact hback
  | cons node rest ih =>
    cases hfront with
    | cons hnode hrest => exact .cons hnode (ih hrest hback)

theorem behind_append (scope : Scope) (front back : List Node) :
    scope.behind (front ++ back) = (scope.behind front).behind back := List.foldl_append

theorem behind_of_closed {scope : Scope} {nodes : List Node}
    (h : ∀ node ∈ nodes, Closed scope node) : scope.behind nodes = scope := by
  induction nodes with
  | nil => rfl
  | cons node rest ih =>
    have hnode := (h node List.mem_cons_self).declare
    unfold Scope.behind at *
    rw [List.foldl_cons, hnode]
    exact ih fun d hd => h d (List.mem_cons_of_mem _ hd)

/-- What is a value in no variable is none of the conditions of markers. -/
theorem widthOf?_expression (v : TrackValue) : widthOf? v.expression.toList = none := by
  have hquote := not_mem_expression (.inr (.inr rfl)) v
  have hopening : conditionOpening.isPrefixOf? v.expression.toList = none := by
    cases hchars : v.expression.toList with
    | nil => rfl
    | cons c rest =>
      have hc : '"' ≠ c := by
        rintro rfl
        rw [hchars] at hquote
        exact hquote List.mem_cons_self
      show List.isPrefixOf? ('"' :: _) (c :: rest) = none
      simp [List.isPrefixOf?, hc]
  unfold widthOf?
  rw [hopening]

theorem render_singleton (content : String) : Phrase.render [.text content] = content.toList :=
  List.append_nil _

theorem scoped_marker (scope : Scope) (m : Marker) : Scoped scope m.node := by
  have hplain : '$' ∉ m.binding.2.toList := by
    have hdigits : '$' ∉ Nat.toDigits 10 m.minWidth := not_mem_toDigits rfl _
    have hopening : '$' ∉ conditionOpening := by decide
    have hclosing : '$' ∉ conditionClosing := by decide
    rw [toList_binding]
    simp [hdigits, hopening, hclosing]
  show Scoped scope (.variable m.key.name [.text m.binding.2])
  refine .variable ?_
  rw [render_singleton, usesIn_eq_nil hplain]
  exact List.forall_mem_nil _

theorem declare_marker (scope : Scope) (m : Marker) :
    scope.declare m.node = { scope with markers := scope.markers ++ [m.key.name] } := by
  show scope.declare (.variable m.key.name [.text m.binding.2]) = _
  unfold Scope.declare
  simp only
  rw [render_singleton, widthOf?_binding, Option.isSome_some, if_pos rfl]

theorem allScoped_markers (scope : Scope) (ms : List Marker) :
    AllScoped scope (ms.map Marker.node) ∧
      scope.behind (ms.map Marker.node) =
        { scope with markers := scope.markers ++ ms.map fun m => m.key.name } := by
  induction ms generalizing scope with
  | nil => exact ⟨.nil, by simp [Scope.behind]⟩
  | cons m rest ih =>
    obtain ⟨hscoped, hbehind⟩ := ih (scope.declare m.node)
    refine ⟨.cons (scoped_marker scope m) hscoped, ?_⟩
    unfold Scope.behind at hbehind ⊢
    rw [List.map_cons, List.foldl_cons, hbehind, declare_marker]
    simp

theorem allScoped_variables (scope : Scope) {vs : List Variable}
    (h : ∀ v ∈ vs, ∃ value : TrackValue, v.value = value.expression) :
    AllScoped scope (vs.map Variable.node) ∧
      scope.behind (vs.map Variable.node) =
        { scope with fields := scope.fields ++ vs.map Variable.name } := by
  induction vs generalizing scope with
  | nil => exact ⟨.nil, by simp [Scope.behind]⟩
  | cons v rest ih =>
    obtain ⟨value, hvalue⟩ := h v List.mem_cons_self
    obtain ⟨hscoped, hbehind⟩ :=
      ih (scope.declare v.node) fun w hw => h w (List.mem_cons_of_mem _ hw)
    have hdeclare : scope.declare v.node = { scope with fields := scope.fields ++ [v.name] } := by
      unfold Variable.node Scope.declare
      simp only
      rw [render_singleton, hvalue, widthOf?_expression]
      rfl
    refine ⟨.cons (.variable ?_) hscoped, ?_⟩
    · rw [render_singleton, hvalue, usesIn_eq_nil (not_mem_expression (.inr (.inl rfl)) value)]
      exact List.forall_mem_nil _
    · unfold Scope.behind at hbehind ⊢
      rw [List.map_cons, List.foldl_cons, hbehind, hdeclare]
      simp

theorem closed_heading (scope : Scope) : ∀ node ∈ heading, Closed scope node := by
  have hem : usesIn emFunction.toList = ["px", "context", "px", "context"] := rfl
  have hrem : usesIn remFunction.toList = ["px", "px"] := rfl
  unfold heading
  simp only [List.forall_mem_cons]
  exact ⟨closed_comment (by decide), ⟨.verbatim (by rw [hem]; decide), rfl⟩, closed_blank,
    ⟨.verbatim (by rw [hrem]; decide), rfl⟩, closed_blank, closed_comment (by decide),
    List.forall_mem_nil _⟩

theorem declaredIn_build (s : Grid) :
    declaredIn (build s) = (scopeOf s).markers ++ (scopeOf s).fields := by
  have hheading := declaredIn_of_closed (closed_heading .empty)
  have hrules := declaredIn_of_closed (closed_rules (s := s))
  rw [declaredIn_eq_flatMap] at *
  rw [build_eq, List.flatMap_append, hheading, List.flatMap_append, List.flatMap_cons,
    List.flatMap_cons, List.flatMap_append, List.flatMap_cons, hrules, List.flatMap_map,
    List.flatMap_map]
  simp only [Node.declared, Marker.node, Variable.node, List.append_nil, List.nil_append,
    scopeOf, List.map_eq_flatMap]

/-- The sheet of every system is well scoped, and its variables are the markers and the
runs of the system. -/
theorem wellScoped_build (s : Grid) :
    WellScoped (build s) ∧ Scope.empty.behind (build s) = scopeOf s := by
  let v := Variables.collect s (markers s)
  -- the scopes behind the heading, behind the markers and behind the variables
  let marked : Scope := { Scope.empty with markers := (scopeOf s).markers }
  have hheading := closed_heading .empty
  obtain ⟨hmarkers, hbehindMarkers⟩ := allScoped_markers .empty (markers s)
  have hbehindMarkers : Scope.empty.behind ((markers s).map Marker.node) = marked := hbehindMarkers
  have hbetween : ∀ node ∈ [.blank, .comment "Grid"], Closed marked node :=
    List.forall_mem_cons.2
      ⟨closed_blank, List.forall_mem_singleton.2 (closed_comment (by decide))⟩
  have hvalues : ∀ w ∈ v.all, ∃ value : TrackValue, w.value = value.expression := by
    intro w hw
    obtain ⟨track, key, value, rfl⟩ := exists_variableFor hw
    exact ⟨value, rfl⟩
  obtain ⟨hvariables, hbehindVariables⟩ := allScoped_variables marked hvalues
  have hbehindVariables : marked.behind (v.all.map Variable.node) = scopeOf s := hbehindVariables
  have hrules : ∀ node ∈ .blank :: rules v, Closed (scopeOf s) node :=
    List.forall_mem_cons.2 ⟨closed_blank, closed_rules⟩
  have hsheet : build s = heading ++ ((markers s).map Marker.node ++ ([.blank, .comment "Grid"] ++
      (v.all.map Variable.node ++ .blank :: rules v))) := build_eq s
  refine ⟨⟨?_, ?_⟩, ?_⟩
  · have hnodup := nodup_bindings s
    rw [bindings_build, List.map_append, List.map_map, List.map_map] at hnodup
    rw [declaredIn_build]
    exact hnodup
  · rw [hsheet]
    refine allScoped_append (allScoped_of_closed hheading) ?_
    rw [behind_of_closed hheading]
    refine allScoped_append hmarkers ?_
    rw [hbehindMarkers]
    refine allScoped_append (allScoped_of_closed hbetween) ?_
    rw [behind_of_closed hbetween]
    refine allScoped_append hvariables ?_
    rw [hbehindVariables]
    exact allScoped_of_closed hrules
  · rw [hsheet, behind_append, behind_of_closed hheading, behind_append, hbehindMarkers,
      behind_append, behind_of_closed hbetween, behind_append, hbehindVariables,
      behind_of_closed hrules]

end ResponsiveGrid.Stylesheet
