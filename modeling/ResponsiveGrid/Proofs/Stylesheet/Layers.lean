import Mathlib.Data.List.Flatten
import Mathlib.Data.List.Sort
import ResponsiveGrid.Proofs.Stylesheet.Meaning
set_option autoImplicit false

/-!
# Stylesheet: what applies everywhere comes first

Four rules of a sheet go by the keys of fields.  Each of them first has declarations, which
apply everywhere, and then one block for every marker at which one of its fields turns, in
ascending order (`Layered`).  Three of the rules are written down like this.  The rule for
containers is put together key by key, and its statements are sorted on the way; that this
happens while there are only declarations, so that no empty line and no block is ever moved,
is what `Steady` says.

`layered_build` is that every sheet is like that, also the one of the empty system, whose rules
have no keys to go by.
-/

namespace ResponsiveGrid.Stylesheet

/-! ## What is promised -/

/-- The rules that go by the keys of fields. -/
inductive Component where
  | root
  | container
  | row
  | column
  deriving DecidableEq, Repr, Inhabited

namespace Component

/-- What a rule is for. -/
def selector : Component → String
  | root => "html"
  | container => ".container"
  | row => ".row"
  | column => ".col"

/-- The fields that drive a rule. -/
def tracks : Component → List Track
  | root => [.scale]
  | container => [.contentMaxWidth, .gutter]
  | row => [.gutter]
  | column => [.gutter]

/-- The order in which a rule declares what applies everywhere. -/
def order : Component → List String
  | root => ["font-size"]
  | container => containerOrder
  | row => ["display", "flex-wrap", "margin-right", "margin-left"]
  | column => ["box-sizing", "padding-right", "padding-left"]

end Component

/-- A statement is a declaration. -/
def Node.IsDeclaration (node : Node) : Prop := node.property?.isSome

/-- The properties that are declared by statements, in order. -/
def properties (nodes : List Node) : List String := nodes.filterMap Node.property?

/-- A block of a rule: the number of its marker, and the statements in it. -/
structure Block where
  number : Nat
  body : List Node

/-- A block as it stands in a rule, behind an empty line. -/
def Block.nodes (b : Block) : List Node :=
  [.blank, .rule [.text "@media #\x7b", .variable (Key.marker b.number).name, .text "\x7d"] b.body]

/-- What a rule is made of: what it declares everywhere, and its blocks. -/
structure Layered (s : Grid) (c : Component) (own : List Node) (blocks : List Block) : Prop where
  /-- only declarations stand in front of the blocks -/
  declares : ∀ node ∈ own, node.IsDeclaration
  /-- they declare no property twice -/
  nodup : (properties own).Nodup
  /-- they are in the order of the rule -/
  ordered : (properties own).Sublist c.order
  /-- the blocks are in the order of their markers, no two for one marker -/
  ascending : blocks.Pairwise fun a b => a.number < b.number
  /-- there is a block for each marker under which a field of the rule has a run, and for no
  other one -/
  numbered : ∀ n, (∃ b ∈ blocks, b.number = n) ↔
    ∃ track ∈ c.tracks, ∃ w, (Key.marker n, w) ∈ (Variables.collect s (markers s)).runs track
  /-- no block is empty, and in a block there are only declarations -/
  filled : ∀ b ∈ blocks, b.body ≠ [] ∧ ∀ node ∈ b.body, node.IsDeclaration
  /-- what a block declares is declared everywhere, too -/
  covered : ∀ b ∈ blocks, properties b.body ⊆ properties own

/-- The statements of a container behind some of its keys. -/
def containerAfter (v : Variables) (keys : List Key) : List Node :=
  keys.foldl (extendContainer v) [
    plainDeclaration "box-sizing" "border-box",
    plainDeclaration "margin-right" "auto",
    plainDeclaration "margin-left" "auto"]

/-- Nothing but declarations is moved while a container is put together: behind each key, any
other statement is where it was when what is said under the key had been added at the end. -/
def Steady (v : Variables) : Prop :=
  ∀ front key back, v.keys Component.container.tracks = front ++ key :: back →
    ∀ (i : Nat) node, ¬ node.IsDeclaration →
      (containerAfter v front ++ blockFor key (containerDeclarations v key))[i]? = some node →
      (containerAfter v (front ++ [key]))[i]? = some node

/-! ## Properties that a field drives -/

/-- Some properties that are set from a field. -/
structure Drive where
  track : Track
  properties : List String
  value : Variable → Phrase

namespace Drive

/-- Both distances to the sides, half a gutter each. -/
def half (side rest : String) : Drive where
  track := .gutter
  properties := [side ++ "-right", side ++ "-left"]
  value w := [w.use, .text (" / 2" ++ rest)]

/-- What is declared under a key from which on the field has another value. -/
def under (v : Variables) (key : Key) (d : Drive) : List Node :=
  match v.get? d.track key with
  | none => []
  | some w => d.properties.map fun property => .declaration property (d.value w)

variable {v : Variables} {key : Key} {d : Drive}

theorem under_eq_of_none (h : v.get? d.track key = none) : d.under v key = [] := by
  unfold under
  rw [h]

theorem under_eq_of_some {w : Variable} (h : v.get? d.track key = some w) :
    d.under v key = d.properties.map fun property => .declaration property (d.value w) := by
  unfold under
  rw [h]

theorem halfGutter_eq (v : Variables) (key : Key) (side rest : String) :
    halfGutter v key side rest = (half side rest).under v key := by
  unfold halfGutter under
  cases h : v.get? .gutter key <;> simp [half, h]

theorem isDeclaration_of_mem_under : ∀ node ∈ d.under v key, node.IsDeclaration := by
  intro node hnode
  cases h : v.get? d.track key with
  | none =>
    rw [under_eq_of_none h] at hnode
    cases hnode
  | some w =>
    rw [under_eq_of_some h] at hnode
    obtain ⟨property, -, rfl⟩ := List.mem_map.1 hnode
    rfl

/-- The properties that are declared under a key: all of them or none. -/
theorem properties_under :
    Stylesheet.properties (d.under v key) =
      if (v.get? d.track key).isSome then d.properties else [] := by
  unfold Stylesheet.properties
  cases h : v.get? d.track key with
  | none =>
    rw [under_eq_of_none h]
    rfl
  | some w =>
    have hproperty : (Node.property? ∘ fun property => .declaration property (d.value w)) = some :=
      rfl
    rw [under_eq_of_some h, List.filterMap_map, hproperty, List.filterMap_some]
    rfl

end Drive

namespace Component

/-- What a rule declares whatever the fields are. -/
def fixed : Component → List Node
  | root => []
  | container => [plainDeclaration "box-sizing" "border-box",
      plainDeclaration "margin-right" "auto", plainDeclaration "margin-left" "auto"]
  | row => [plainDeclaration "display" "flex", plainDeclaration "flex-wrap" "wrap"]
  | column => [plainDeclaration "box-sizing" "border-box"]

/-- What the fields of a rule drive. -/
def drives : Component → List Drive
  | root => [⟨.scale, ["font-size"], fun w => [w.use]⟩]
  | container => [⟨.contentMaxWidth, ["max-width"], fun w => [w.use]⟩, .half "padding" ""]
  | row => [.half "margin" " * -1"]
  | column => [.half "padding" ""]

/-- What a rule declares under a key. -/
def under (v : Variables) (key : Key) (c : Component) : List Node :=
  c.drives.flatMap (Drive.under v key)

/-- The properties of a rule: those that are fixed, and behind them those that are driven. -/
def declared (c : Component) : List String :=
  properties c.fixed ++ c.drives.flatMap Drive.properties

variable {v : Variables} {key : Key} (c : Component)

theorem tracks_eq : c.tracks = c.drives.map Drive.track := by
  cases c <;> rfl

/-- No property of a rule is fixed and driven, or is driven twice. -/
theorem nodup_declared : c.declared.Nodup := by
  cases c <;> decide

theorem declared_subset_order : c.declared ⊆ c.order := by
  cases c <;> decide

theorem isDeclaration_of_mem_fixed : ∀ node ∈ c.fixed, node.IsDeclaration := by
  cases c <;> simp [fixed, plainDeclaration, Node.IsDeclaration, Node.property?]

theorem properties_ne_nil : ∀ d ∈ c.drives, d.properties ≠ [] := by
  cases c <;> simp [drives, Drive.half]

theorem isDeclaration_of_mem_under : ∀ node ∈ c.under v key, node.IsDeclaration := by
  intro node hnode
  obtain ⟨d, -, hnode⟩ := List.mem_flatMap.1 hnode
  exact Drive.isDeclaration_of_mem_under node hnode

theorem under_ne_nil {track : Track} (htrack : track ∈ c.tracks)
    (h : (v.get? track key).isSome) : c.under v key ≠ [] := by
  rw [tracks_eq] at htrack
  obtain ⟨d, hd, rfl⟩ := List.mem_map.1 htrack
  obtain ⟨w, hw⟩ := Option.isSome_iff_exists.1 h
  intro hnil
  have hnone := List.flatMap_eq_nil_iff.1 hnil d hd
  rw [Drive.under_eq_of_some hw, List.map_eq_nil_iff] at hnone
  exact c.properties_ne_nil d hd hnone

theorem properties_under : properties (c.under v key) =
    c.drives.flatMap fun d => if (v.get? d.track key).isSome then d.properties else [] := by
  have heach : ∀ d ∈ c.drives, (d.under v key).filterMap Node.property? =
      if (v.get? d.track key).isSome then d.properties else [] :=
    fun d _ => Drive.properties_under
  unfold properties under
  rw [List.filterMap_flatMap]
  exact List.flatMap_congr heach

theorem properties_under_sublist :
    (properties (c.under v key)).Sublist (c.drives.flatMap Drive.properties) := by
  rw [properties_under]
  refine List.Sublist.flatMap_right _ fun d _ => ?_
  split
  · exact List.Sublist.refl _
  · exact List.nil_sublist _

/-- What is declared under a key is declared under the root, too, once all fields of the rule
have a run there. -/
theorem properties_under_subset (h : ∀ track ∈ c.tracks, (v.get? track .root).isSome) :
    properties (c.under v key) ⊆ properties (c.under v .root) := by
  rw [properties_under, properties_under]
  intro property hproperty
  obtain ⟨d, hd, hproperty⟩ := List.mem_flatMap.1 hproperty
  have htrack : d.track ∈ c.tracks := by
    rw [tracks_eq]
    exact List.mem_map_of_mem hd
  refine List.mem_flatMap.2 ⟨d, hd, ?_⟩
  rw [if_pos (h d.track htrack)]
  split at hproperty
  · exact hproperty
  · cases hproperty

end Component

/-! ## What is declared everywhere -/

theorem containerDeclarations_eq (v : Variables) (key : Key) :
    containerDeclarations v key = Component.container.under v key := by
  unfold containerDeclarations Component.under Component.drives
  rw [Drive.halfGutter_eq, List.flatMap_cons, List.flatMap_singleton]
  rfl

namespace Component

/-- What a rule declares everywhere. -/
def own (v : Variables) : Component → List Node
  | container => containerOwn v
  | c => c.fixed ++ c.under v .root

variable {v : Variables} (c : Component)

theorem perm_own : (c.own v).Perm (c.fixed ++ c.under v .root) := by
  cases c with
  | container =>
    rw [← containerDeclarations_eq]
    exact List.mergeSort_perm _ _
  | root => exact .refl _
  | row => exact .refl _
  | column => exact .refl _

theorem isDeclaration_of_mem_own : ∀ node ∈ c.own v, node.IsDeclaration := by
  intro node hnode
  rcases List.mem_append.1 (c.perm_own.mem_iff.1 hnode) with hnode | hnode
  · exact c.isDeclaration_of_mem_fixed node hnode
  · exact c.isDeclaration_of_mem_under node hnode

theorem properties_sublist_declared :
    (properties (c.fixed ++ c.under v .root)).Sublist c.declared := by
  unfold properties declared
  rw [List.filterMap_append]
  exact (List.Sublist.refl _).append c.properties_under_sublist

theorem nodup_properties_own : (properties (c.own v)).Nodup :=
  (c.perm_own.filterMap _).nodup_iff.2 (c.nodup_declared.sublist c.properties_sublist_declared)

theorem properties_own_subset : properties (c.own v) ⊆ c.order := by
  intro property hproperty
  have hmem : property ∈ properties (c.fixed ++ c.under v .root) :=
    (c.perm_own.filterMap _).mem_iff.1 hproperty
  exact c.declared_subset_order (c.properties_sublist_declared.subset hmem)

theorem containerRank_of_property? {node : Node} {property : String}
    (h : node.property? = some property) : containerRank node = containerOrder.idxOf property := by
  unfold containerRank
  rw [h]

theorem pairwise_properties_containerOwn (v : Variables) :
    (properties (containerOwn v)).Pairwise fun p q =>
      containerOrder.idxOf p ≤ containerOrder.idxOf q := by
  have hsorted : (containerOwn v).Pairwise fun a b => containerRank a ≤ containerRank b := by
    have hranks : (containerOwn v).Pairwise fun a b =>
        decide (containerRank a ≤ containerRank b) = true := by
      refine List.pairwise_mergeSort ?_ ?_ _
      · intro a b c hab hbc
        exact decide_eq_true (Nat.le_trans (of_decide_eq_true hab) (of_decide_eq_true hbc))
      · intro a b
        simpa using Nat.le_total (containerRank a) (containerRank b)
    exact hranks.imp of_decide_eq_true
  refine hsorted.filterMap _ ?_
  intro a b hle p hp q hq
  rw [containerRank_of_property? hp, containerRank_of_property? hq] at hle
  exact hle

theorem properties_containerOwn_sublist (v : Variables) :
    (properties (containerOwn v)).Sublist containerOrder := by
  have hsubset := container.properties_own_subset (v := v)
  have hnodup := container.nodup_properties_own (v := v)
  have hasc : (properties (containerOwn v)).Pairwise fun p q =>
      containerOrder.idxOf p < containerOrder.idxOf q := by
    refine ((pairwise_properties_containerOwn v).and hnodup).imp_of_mem ?_
    rintro p q hp - ⟨hle, hne⟩
    exact Nat.lt_of_le_of_ne hle fun heq => hne ((List.idxOf_inj (hsubset hp)).1 heq)
  have horder : containerOrder.Pairwise fun p q =>
      containerOrder.idxOf p < containerOrder.idxOf q := by decide
  have : Std.Antisymm fun p q => containerOrder.idxOf p < containerOrder.idxOf q :=
    ⟨fun _ _ h h' => absurd h' (Nat.lt_asymm h)⟩
  exact List.sublist_of_subperm_of_pairwise (List.subperm_of_subset hnodup hsubset) hasc horder

/-- Every rule declares what applies everywhere in its order. -/
theorem properties_own_sublist (v : Variables) (c : Component) :
    (properties (c.own v)).Sublist c.order := by
  cases c with
  | container => exact properties_containerOwn_sublist v
  | root => exact root.properties_sublist_declared
  | row => exact row.properties_sublist_declared
  | column => exact column.properties_sublist_declared

end Component

/-! ## Blocks -/

/-- The number of the marker of a key; the root has none. -/
def Key.number : Key → Nat
  | .root => 0
  | .marker n => n

/-- The blocks of a rule: one for each key behind the root. -/
def blocksOf (s : Grid) (c : Component) : List Block :=
  (laterKeys s c.tracks).map fun key =>
    ⟨key.number, c.under (Variables.collect s (markers s)) key⟩

section

variable {s : Grid}

theorem runs_eq_nil (h : s.entries = []) (track : Track) :
    (Variables.collect s (markers s)).runs track = [] := by
  unfold Variables.collect
  rw [h]
  rfl

theorem isSome_get?_root (h : s.entries ≠ []) (track : Track) :
    ((Variables.collect s (markers s)).get? track .root).isSome := by
  obtain ⟨t, ht, w, hw⟩ := Variables.mem_keys.1 (root_mem_keys h (List.mem_singleton_self track))
  cases List.mem_singleton.1 ht
  rw [Variables.get?_of_mem (ascending_collect s) hw]
  rfl

/-- The keys of a rule are the root and those behind it, or there are none because the system
has no entries. -/
theorem keys_cases (s : Grid) (c : Component) :
    let v := Variables.collect s (markers s)
    (s.entries = [] ∧ v.keys c.tracks = []) ∨
      (s.entries ≠ [] ∧ v.keys c.tracks = .root :: laterKeys s c.tracks ∧
        ∀ key ∈ laterKeys s c.tracks, key ≠ .root) := by
  intro v
  by_cases h : s.entries = []
  · refine .inl ⟨h, List.eq_nil_iff_forall_not_mem.2 fun key hkey => ?_⟩
    obtain ⟨track, -, w, hw⟩ := Variables.mem_keys.1 hkey
    rw [runs_eq_nil h] at hw
    cases hw
  · obtain ⟨track, htrack⟩ : ∃ track, track ∈ c.tracks := by
      cases c <;> exact ⟨_, List.mem_cons_self⟩
    exact .inr ⟨h, Variables.keys_eq_root_cons (root_mem_keys h htrack)⟩

theorem under_root_eq_nil (h : s.entries = []) (c : Component) :
    c.under (Variables.collect s (markers s)) .root = [] := by
  refine List.flatMap_eq_nil_iff.2 fun d _ => Drive.under_eq_of_none ?_
  unfold Variables.get?
  rw [runs_eq_nil h]
  rfl

theorem blockFor_eq_nodes {key : Key} (h : key ≠ .root) (declarations : List Node) :
    blockFor key declarations = Block.nodes ⟨key.number, declarations⟩ := by
  cases key with
  | root => exact absurd rfl h
  | marker n => rfl

theorem flatMap_laterKeys {c : Component} (h : ∀ key ∈ laterKeys s c.tracks, key ≠ .root) :
    ((laterKeys s c.tracks).flatMap fun key =>
      blockFor key (c.under (Variables.collect s (markers s)) key)) =
      (blocksOf s c).flatMap Block.nodes := by
  unfold blocksOf
  rw [List.flatMap_map]
  exact List.flatMap_congr fun key hkey => blockFor_eq_nodes (h key hkey) _

/-- Going through all keys of a rule gives what is driven everywhere, and behind it the
blocks. -/
theorem flatMap_blockFor_under (s : Grid) (c : Component) :
    (((Variables.collect s (markers s)).keys c.tracks).flatMap fun key =>
      blockFor key (c.under (Variables.collect s (markers s)) key)) =
      c.under (Variables.collect s (markers s)) .root ++ (blocksOf s c).flatMap Block.nodes := by
  rcases keys_cases s c with ⟨hentries, hkeys⟩ | ⟨-, hkeys, hlater⟩
  · unfold blocksOf laterKeys
    rw [hkeys, under_root_eq_nil hentries]
    rfl
  · rw [← flatMap_laterKeys hlater, hkeys, List.flatMap_cons]
    rfl

/-- A container is put in order under the root, and then grows by its blocks. -/
theorem containerAfter_eq (v : Variables) {later : List Key} (h : ∀ key ∈ later, key ≠ .root) :
    containerAfter v (.root :: later) =
      containerOwn v ++ later.flatMap fun key => blockFor key (containerDeclarations v key) := by
  unfold containerAfter
  rw [List.foldl_cons, foldl_extendContainer v h]
  rfl

/-- Where nothing is driven, a container is in order from the start. -/
theorem containerOwn_eq_of_nil {v : Variables} (h : containerDeclarations v .root = []) :
    containerOwn v = containerAfter v [] := by
  unfold containerOwn containerParts
  rw [h]
  exact List.mergeSort_of_pairwise (by decide)

/-- The statements of a container: its declarations, in order, and its blocks. -/
theorem containerAfter_keys (s : Grid) :
    let v := Variables.collect s (markers s)
    containerAfter v (v.keys Component.container.tracks) =
      Component.container.own v ++ (blocksOf s .container).flatMap Block.nodes := by
  intro v
  rcases keys_cases s .container with ⟨hentries, hkeys⟩ | ⟨-, hkeys, hlater⟩
  · have hnone : containerDeclarations v .root = [] := by
      rw [containerDeclarations_eq]
      exact under_root_eq_nil hentries .container
    have hown : Component.container.own v = containerAfter v [] := containerOwn_eq_of_nil hnone
    have hblocks : blocksOf s .container = [] := by
      unfold blocksOf laterKeys
      rw [hkeys]
      rfl
    rw [hkeys, hown, hblocks, List.flatMap_nil, List.append_nil]
  · rw [hkeys, containerAfter_eq v hlater, ← flatMap_laterKeys hlater]
    simp only [containerDeclarations_eq]
    rfl

theorem rootRule_eq (v : Variables) :
    rootRule v = .rule [.text "html"] (Component.root.fixed ++
      (v.keys Component.root.tracks).flatMap fun key =>
        blockFor key (Component.root.under v key)) := by
  have hunder : ∀ key, Component.root.under v key =
      match v.get? .scale key with
      | none => []
      | some scale => [.declaration "font-size" [scale.use]] := fun key => List.append_nil _
  simp only [hunder]
  rfl

theorem rowRule_eq (v : Variables) :
    rowRule v = .rule [.text ".row"] (Component.row.fixed ++
      (v.keys Component.row.tracks).flatMap fun key =>
        blockFor key (Component.row.under v key)) := by
  have hunder : ∀ key, Component.row.under v key = halfGutter v key "margin" " * -1" := by
    intro key
    rw [Drive.halfGutter_eq]
    exact List.append_nil _
  simp only [hunder]
  rfl

theorem colRule_eq (v : Variables) :
    colRule v = .rule [.text ".col"] (Component.column.fixed ++
      (v.keys Component.column.tracks).flatMap fun key =>
        blockFor key (Component.column.under v key)) := by
  have hunder : ∀ key, Component.column.under v key = halfGutter v key "padding" "" := by
    intro key
    rw [Drive.halfGutter_eq]
    exact List.append_nil _
  simp only [hunder]
  rfl

/-- The statements of the four rules of a sheet. -/
theorem filterMap_ruleFor?_component (s : Grid) (c : Component) :
    (build s).filterMap (Node.ruleFor? c.selector) =
      [c.own (Variables.collect s (markers s)) ++ (blocksOf s c).flatMap Block.nodes] := by
  have hblocks := flatMap_blockFor_under s c
  rw [filterMap_ruleFor?_build]
  cases c with
  | root =>
    rw [rootRule_eq, hblocks, ← List.append_assoc]
    rfl
  | container =>
    have hafter := containerAfter_keys s
    rw [← hafter]
    rfl
  | row =>
    rw [rowRule_eq, hblocks, ← List.append_assoc]
    rfl
  | column =>
    rw [colRule_eq, hblocks, ← List.append_assoc]
    rfl

/-! ## The layers of the rules -/

/-- The markers of the blocks of a rule are those under which one of its fields has a run. -/
theorem exists_block_iff (s : Grid) (c : Component) (n : Nat) :
    (∃ b ∈ blocksOf s c, b.number = n) ↔ ∃ track ∈ c.tracks, ∃ w,
      (Key.marker n, w) ∈ (Variables.collect s (markers s)).runs track := by
  have hkeys : (∃ b ∈ blocksOf s c, b.number = n) ↔
      Key.marker n ∈ (Variables.collect s (markers s)).keys c.tracks := by
    unfold blocksOf
    rcases keys_cases s c with ⟨-, hkeys⟩ | ⟨-, hkeys, hlater⟩
    · unfold laterKeys
      simp [hkeys]
    · rw [hkeys, List.mem_cons, or_iff_right (by simp)]
      constructor
      · rintro ⟨b, hb, rfl⟩
        obtain ⟨key, hkey, rfl⟩ := List.mem_map.1 hb
        cases key with
        | root => exact absurd rfl (hlater _ hkey)
        | marker n => exact hkey
      · intro hkey
        exact ⟨_, List.mem_map_of_mem hkey, rfl⟩
  rw [hkeys, Variables.mem_keys]

theorem pairwise_number_blocksOf (s : Grid) (c : Component) :
    (blocksOf s c).Pairwise fun a b => a.number < b.number := by
  have hasc := (Variables.collect s (markers s)).pairwise_keys c.tracks
  unfold blocksOf
  rw [List.pairwise_map]
  rcases keys_cases s c with ⟨-, hkeys⟩ | ⟨-, hkeys, hlater⟩
  · unfold laterKeys
    rw [hkeys]
    exact .nil
  · rw [hkeys] at hasc
    refine (List.pairwise_cons.1 hasc).2.imp_of_mem ?_
    intro a b ha hb hbefore
    cases a with
    | root => exact absurd rfl (hlater _ ha)
    | marker m =>
      cases b with
      | root => exact absurd rfl (hlater _ hb)
      | marker n => exact Nat.lt_of_succ_lt_succ hbefore

theorem exists_key_of_mem_blocksOf {s : Grid} {c : Component} {b : Block} (h : b ∈ blocksOf s c) :
    ∃ key ∈ (Variables.collect s (markers s)).keys c.tracks,
      b.body = c.under (Variables.collect s (markers s)) key := by
  obtain ⟨key, hkey, rfl⟩ := List.mem_map.1 h
  exact ⟨key, List.mem_of_mem_tail hkey, rfl⟩

theorem layered_blocksOf (s : Grid) (c : Component) :
    Layered s c (c.own (Variables.collect s (markers s))) (blocksOf s c) where
  declares := c.isDeclaration_of_mem_own
  nodup := c.nodup_properties_own
  ordered := Component.properties_own_sublist _ c
  ascending := pairwise_number_blocksOf s c
  numbered := exists_block_iff s c
  filled := by
    intro b hb
    obtain ⟨key, hkey, hbody⟩ := exists_key_of_mem_blocksOf hb
    obtain ⟨track, htrack, w, hw⟩ := Variables.mem_keys.1 hkey
    have hsome : ((Variables.collect s (markers s)).get? track key).isSome := by
      rw [Variables.get?_of_mem (ascending_collect s) hw]
      rfl
    rw [hbody]
    exact ⟨c.under_ne_nil htrack hsome, c.isDeclaration_of_mem_under⟩
  covered := by
    intro b hb
    obtain ⟨key, hkey, hbody⟩ := exists_key_of_mem_blocksOf hb
    have hentries : s.entries ≠ [] := by
      intro hnil
      obtain ⟨track, -, w, hw⟩ := Variables.mem_keys.1 hkey
      rw [runs_eq_nil hnil] at hw
      cases hw
    rw [hbody]
    intro property hproperty
    have hroot : property ∈ properties (c.under (Variables.collect s (markers s)) .root) :=
      c.properties_under_subset (fun track _ => isSome_get?_root hentries track) hproperty
    refine (c.perm_own.filterMap _).mem_iff.2 ?_
    rw [List.filterMap_append]
    exact List.mem_append_right _ hroot

end

/-- Putting a container together sorts nothing but declarations: it does so under the root,
which comes before the keys of all markers. -/
theorem steady (v : Variables) : Steady v := by
  intro front key back hkeys i node hnode hat
  have hstep : containerAfter v (front ++ [key]) = extendContainer v (containerAfter v front) key :=
    List.foldl_concat _ _ _ _
  rw [hstep]
  by_cases hroot : key = .root
  · have hfront : front = [] := by
      have hasc := v.pairwise_keys Component.container.tracks
      rw [hkeys, List.pairwise_append] at hasc
      refine List.eq_nil_iff_forall_not_mem.2 fun k hk => Key.not_before_root k ?_
      rw [← hroot]
      exact hasc.2.2 k hk key List.mem_cons_self
    -- behind the root there are the fixed declarations and those under the root
    have hmem := List.mem_of_getElem? hat
    rw [hfront, hroot, containerDeclarations_eq] at hmem
    rcases List.mem_append.1 hmem with hmem | hmem
    · exact absurd (Component.container.isDeclaration_of_mem_fixed node hmem) hnode
    · exact absurd (Component.container.isDeclaration_of_mem_under node hmem) hnode
  · have hkept : extendContainer v (containerAfter v front) key =
        containerAfter v front ++ blockFor key (containerDeclarations v key) := if_neg hroot
    rw [hkept]
    exact hat

/-- The four rules of a sheet that go by fields declare first what applies everywhere, in order
and nothing twice, and then what changes at their markers, each time in a block behind an empty
line.  The statements of a container come about key by key, and no step moves an empty line or
a block. -/
theorem layered_build (s : Grid) :
    (∀ c : Component, ∃ own blocks, Layered s c own blocks ∧
      (build s).filterMap (Node.ruleFor? c.selector) = [own ++ blocks.flatMap Block.nodes]) ∧
    let v := Variables.collect s (markers s)
    (build s).filterMap (Node.ruleFor? ".container") =
      [containerAfter v (v.keys Component.container.tracks)] ∧ Steady v := by
  refine ⟨fun c => ⟨_, _, layered_blocksOf s c, filterMap_ruleFor?_component s c⟩, ?_, steady _⟩
  rw [containerAfter_keys]
  exact filterMap_ruleFor?_component s .container

example : ((blocksOf (Grid.reset 1).1 .container).map fun b => (b.number, properties b.body)) =
    [(1, ["max-width"]), (2, ["max-width", "padding-right", "padding-left"]),
      (3, ["max-width"])] := by decide

end ResponsiveGrid.Stylesheet
