import ResponsiveGrid.Proofs.Stylesheet.Cascade
set_option autoImplicit false

/-!
# Stylesheet: what all statements of a rule have

The rules for the root, for containers, for rows and for columns are put together from few
kinds of statements: declarations of a plain value, of a variable or of half of one, empty
lines, and blocks for markers.  A property of statements that each of these steps keeps is
`Compositional`, and then every one of the four rules has it.  What a sheet says in its
rules is gone through here once, and not again for every property.
-/

namespace ResponsiveGrid.Stylesheet

/-! ## Parts -/

/-- The properties that the four rules declare. -/
def ruleProperties : List String :=
  ["box-sizing", "display", "flex-wrap", "font-size", "max-width", "margin-right", "margin-left",
    "padding-right", "padding-left"]

/-- The values that are declared as they are. -/
def plainValues : List String := ["border-box", "auto", "flex", "wrap"]

/-- What may stand behind half of a variable. -/
def halfEndings : List String := ["", " * -1"]

/-- The selectors of the four rules. -/
def ruleSelectors : List String := ["html", ".container", ".row", ".col"]

/-- A property of statements that is kept by everything that the four rules are put
together from. -/
structure Compositional (v : Variables) (P : Node → Prop) : Prop where
  blank : P .blank
  plain : ∀ property ∈ ruleProperties, ∀ value ∈ plainValues, P (plainDeclaration property value)
  use : ∀ property ∈ ruleProperties, ∀ track key w, v.get? track key = some w →
    P (.declaration property [w.use])
  half : ∀ property ∈ ruleProperties, ∀ ending ∈ halfEndings, ∀ key w,
    v.get? .gutter key = some w → P (.declaration property [w.use, .text (" / 2" ++ ending)])
  block : ∀ tracks, ∀ key ∈ v.keys tracks, ∀ condition, key.media? = some condition →
    ∀ body, (∀ node ∈ body, P node) → P (.rule condition body)
  rule : ∀ selector ∈ ruleSelectors, ∀ children, (∀ node ∈ children, P node) →
    P (.rule [.text selector] children)

namespace Compositional

variable {v : Variables} {P : Node → Prop}

theorem blockFor (h : Compositional v P) {tracks : List Track} {key : Key}
    (hkey : key ∈ v.keys tracks) {declarations : List Node} (hall : ∀ node ∈ declarations, P node) :
    ∀ node ∈ blockFor key declarations, P node := by
  intro node hnode
  unfold Stylesheet.blockFor at hnode
  split at hnode
  · exact hall node hnode
  · next condition hcondition =>
    rcases List.mem_pair.1 hnode with rfl | rfl
    · exact h.blank
    · exact h.block tracks key hkey condition hcondition declarations hall

theorem blocks (h : Compositional v P) (tracks : List Track) {parts : Key → List Node}
    (hall : ∀ key, ∀ node ∈ parts key, P node) :
    ∀ node ∈ (v.keys tracks).flatMap fun key => Stylesheet.blockFor key (parts key), P node := by
  intro node hnode
  obtain ⟨key, hkey, hnode⟩ := List.mem_flatMap.1 hnode
  exact h.blockFor hkey (hall key) node hnode

theorem halfGutter (h : Compositional v P) (key : Key) {side ending : String}
    (hright : side ++ "-right" ∈ ruleProperties) (hleft : side ++ "-left" ∈ ruleProperties)
    (hending : ending ∈ halfEndings) : ∀ node ∈ halfGutter v key side ending, P node := by
  intro node hnode
  unfold Stylesheet.halfGutter at hnode
  split at hnode
  · cases hnode
  · next gutter hgutter =>
    rcases List.mem_pair.1 hnode with rfl | rfl
    · exact h.half _ hright ending hending key gutter hgutter
    · exact h.half _ hleft ending hending key gutter hgutter

theorem rootRule (h : Compositional v P) : P (rootRule v) := by
  refine h.rule "html" (by decide) _ (h.blocks [.scale] fun key node hnode => ?_)
  split at hnode
  · cases hnode
  · next scale hscale =>
    rw [List.mem_singleton.1 hnode]
    exact h.use _ (by decide) .scale key scale hscale

theorem containerDeclarations (h : Compositional v P) (key : Key) :
    ∀ node ∈ containerDeclarations v key, P node := by
  intro node hnode
  rcases List.mem_append.1 hnode with hnode | hnode
  · split at hnode
    · cases hnode
    · next cap hcap =>
      rw [List.mem_singleton.1 hnode]
      exact h.use _ (by decide) .contentMaxWidth key cap hcap
  · exact h.halfGutter key (by decide) (by decide) (by decide) node hnode

theorem extendContainer (h : Compositional v P) {tracks : List Track} {keys : List Key}
    (hkeys : ∀ key ∈ keys, key ∈ v.keys tracks) {children : List Node}
    (hall : ∀ node ∈ children, P node) :
    ∀ node ∈ keys.foldl (extendContainer v) children, P node := by
  induction keys generalizing children with
  | nil => exact hall
  | cons key rest ih =>
    refine ih (fun k hk => hkeys k (List.mem_cons_of_mem _ hk)) ?_
    have hextended : ∀ node ∈ children ++ Stylesheet.blockFor key
        (Stylesheet.containerDeclarations v key), P node :=
      List.forall_mem_append.2
        ⟨hall, h.blockFor (hkeys key List.mem_cons_self) (h.containerDeclarations key)⟩
    intro node hnode
    unfold Stylesheet.extendContainer at hnode
    simp only at hnode
    split at hnode
    · exact hextended node (List.mem_mergeSort.1 hnode)
    · exact hextended node hnode

theorem containerRule (h : Compositional v P) : P (containerRule v) := by
  refine h.rule ".container" (by decide) _ (h.extendContainer (fun key hkey => hkey) ?_)
  simp only [List.forall_mem_cons]
  exact ⟨h.plain _ (by decide) _ (by decide), h.plain _ (by decide) _ (by decide),
    h.plain _ (by decide) _ (by decide), List.forall_mem_nil _⟩

theorem rowRule (h : Compositional v P) : P (rowRule v) := by
  refine h.rule ".row" (by decide) _ ?_
  simp only [List.forall_mem_cons]
  exact ⟨h.plain _ (by decide) _ (by decide), h.plain _ (by decide) _ (by decide),
    h.blocks [.gutter] fun key => h.halfGutter key (by decide) (by decide) (by decide)⟩

theorem colRule (h : Compositional v P) : P (colRule v) := by
  refine h.rule ".col" (by decide) _ ?_
  simp only [List.forall_mem_cons]
  exact ⟨h.plain _ (by decide) _ (by decide),
    h.blocks [.gutter] fun key => h.halfGutter key (by decide) (by decide) (by decide)⟩

end Compositional

/-! ## All rules of a sheet -/

theorem mem_separated {node : Node} {nodes : List Node} (h : node ∈ separated nodes) :
    node = .blank ∨ node ∈ nodes := by
  unfold separated at h
  split at h
  · exact .inl (List.mem_singleton.1 h)
  · induction nodes with
    | nil => cases h
    | cons first rest ih =>
      cases rest with
      | nil => exact .inr h
      | cons second rest =>
        rw [List.intersperse_cons_cons] at h
        rcases List.mem_cons.1 h with rfl | h
        · exact .inr List.mem_cons_self
        · rcases List.mem_cons.1 h with rfl | h
          · exact .inl rfl
          · exact (ih (by simp) h).imp_right (List.mem_cons_of_mem _)

/-- What the four rules and all loops have, and the two headings and empty lines, too, all
statements behind the variables of a sheet have. -/
theorem Compositional.rules {v : Variables} {P : Node → Prop} (h : Compositional v P)
    (hbase : P (.comment "Base")) (hcomponent : P (.comment "Component"))
    (hloop : ∀ key ∈ v.keys [.columns], ∀ columns, v.get? .columns key = some columns →
      P (fractionLoop key columns "s" "width") ∧ P (fractionLoop key columns "o" "margin-left")) :
    ∀ node ∈ rules v, P node := by
  have hloops : ∀ kind property, (∀ key ∈ v.keys [.columns], ∀ columns,
      v.get? .columns key = some columns → P (fractionLoop key columns kind property)) →
      ∀ node ∈ separated (fractionLoops v kind property), P node := by
    intro kind property hall node hnode
    rcases mem_separated hnode with rfl | hnode
    · exact h.blank
    · obtain ⟨key, hkey, hloop⟩ := List.mem_filterMap.1 hnode
      obtain ⟨columns, hcolumns, rfl⟩ := Option.map_eq_some_iff.1 hloop
      exact hall key hkey columns hcolumns
  unfold Stylesheet.rules
  simp only [List.forall_mem_append, List.forall_mem_cons]
  refine ⟨⟨hbase, h.rootRule, h.blank, hcomponent, h.containerRule, h.blank, h.rowRule, h.blank,
    h.colRule, h.blank, List.forall_mem_nil _⟩, ?_, h.blank, ?_, h.blank, List.forall_mem_nil _⟩
  · exact hloops "s" "width" fun key hkey columns hcolumns => (hloop key hkey columns hcolumns).1
  · exact hloops "o" "margin-left" fun key hkey columns hcolumns =>
      (hloop key hkey columns hcolumns).2

end ResponsiveGrid.Stylesheet
