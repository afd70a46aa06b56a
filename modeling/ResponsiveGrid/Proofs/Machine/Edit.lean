import ResponsiveGrid.Proofs.Grid.Session
import ResponsiveGrid.Proofs.Machine.Word
set_option autoImplicit false

/-!
# Machine: checks and edits in words

The checks and the edits of grid systems once more, with every sum and difference computed
in words and every entry taken from its position, in the order in which a machine does it.
What guards an operation often stands far from it: a sum of widths fits because of the bounds
of every range, a sum of columns because of the check in front, and a difference because of
the question asked before.  For each function there is one lemma: it ends in no trap, and
what it computes is what the function without words says.
-/

namespace ResponsiveGrid.Machine

/-! ## Settings -/

/-- The first thing wrong with a placement, when `max` is the last column line. -/
def checkPlacement (element : Element) (p : Placement) (max : Nat) : Except Violation Unit :=
  if p.start < 1 ∨ max < p.start then
    .error (.offsetOutOfRange element .start p.start max)
  else if p.stop < 1 ∨ max < p.stop then
    .error (.offsetOutOfRange element .stop p.stop max)
  else if p.stop ≤ p.start then .error (.offsetMisordered element p.start p.stop)
  else .ok ()

theorem checkPlacement_eq (element : Element) (p : Placement) (columns : Nat) :
    checkPlacement element p (columns + 1) = p.check element columns := rfl

/-- The first field that is out of bounds.  The number of the last column line is computed
once, behind the check of the number of columns. -/
def checkSettings (s : Settings) : Checked (Except Violation Unit) :=
  let width := s.contentMaxWidth.filter fun w => w < 128 || 1920 < w
  match width with
  | some w => .ok (.error (.contentMaxWidthOutOfRange w))
  | none =>
      if s.columns < 1 ∨ 12 < s.columns then .ok (.error (.columnsOutOfRange s.columns))
      else if 256 < s.gutter then .ok (.error (.gutterOutOfRange s.gutter))
      else if 256 < s.margin then .ok (.error (.marginOutOfRange s.margin))
      else if ¬ (1.0 ≤ s.scale ∧ s.scale ≤ 2.0) then .ok (.error (.scaleOutOfRange s.scale))
      else do
        let max ← add largest32 s.columns 1
        match checkPlacement .heading1 s.placements.heading1 max with
        | .error v => return .error v
        | .ok () =>
            match checkPlacement .heading2 s.placements.heading2 max with
            | .error v => return .error v
            | .ok () => return checkPlacement .paragraph s.placements.paragraph max

/-- The number of the last column line is a word, since there are at most twelve columns. -/
theorem checkSettings_eq (s : Settings) : checkSettings s = .ok s.check := by
  unfold checkSettings Settings.check
  simp only
  cases s.contentMaxWidth.filter fun w => w < 128 || 1920 < w with
  | some w => rfl
  | none =>
    simp only
    split
    · rfl
    · next hcolumns =>
      have hmax : add largest32 s.columns 1 = .ok (s.columns + 1) := by
        refine add_eq ?_
        unfold largest32
        omega
      rw [hmax, ok_bind]
      simp only [checkPlacement_eq]
      split
      · rfl
      · split
        · rfl
        · split
          · rfl
          · cases s.placements.heading1.check .heading1 s.columns with
            | error v => rfl
            | ok =>
              simp only
              cases s.placements.heading2.check .heading2 s.columns with
              | error v => rfl
              | ok => rfl

theorem valid_of_checkSettings {s : Settings} (h : checkSettings s = .ok (.ok ())) : s.Valid := by
  rw [checkSettings_eq] at h
  exact Settings.valid_of_check (Except.ok.inj h)

/-- The entry with given settings, once they have been checked in words. -/
def entryOf? (id : Id) (s : Settings) : Checked (Except Violation Entry) :=
  match h : checkSettings s with
  | .error trap => .error trap
  | .ok (.error v) => .ok (.error v)
  | .ok (.ok ()) => .ok (.ok ⟨id, s, valid_of_checkSettings h⟩)

theorem entryOf?_eq (id : Id) (s : Settings) : entryOf? id s = .ok (Entry.of? id s) := by
  have hcheck := checkSettings_eq s
  unfold entryOf?
  split
  · next trap h =>
    rw [hcheck] at h
    cases h
  · next v h =>
    rw [hcheck] at h
    rw [Entry.of?_eq_error_iff.2 (Except.ok.inj h)]
  · exact congrArg Except.ok (Entry.of?_eq_ok_iff.2 ⟨rfl, rfl⟩).symm

/-! ## The partition -/

/-- The first pair of neighbours that do not meet. -/
def findGap (index : Nat) : List Entry → Checked (Option Violation)
  | a :: b :: rest =>
      match a.range.maxWidth with
      | none => .ok (some (.notContiguous index none b.range.minWidth))
      | some m => do
          let next ← add largest32 m 1
          if next = b.range.minWidth then findGap (index + 1) (b :: rest)
          else return some (.notContiguous index (some m) b.range.minWidth)
  | _ => .ok none

/-- The width behind a range is a word, since ranges end at 9999 at most. -/
theorem findGap_eq (index : Nat) (entries : List Entry) :
    findGap index entries = .ok (gap? index entries) := by
  induction entries generalizing index with
  | nil => rfl
  | cons a rest ih =>
    cases rest with
    | nil => rfl
    | cons b rest =>
      rw [findGap, gap?]
      cases hmax : a.range.maxWidth with
      | none => simp [WidthRange.Meets, hmax]
      | some m =>
        have hbounds := a.range.maxWidth_bounds m hmax
        have hnext : add largest32 m 1 = .ok (m + 1) := by
          refine add_eq ?_
          unfold largest32
          omega
        have hmeets : a.range.Meets b.range ↔ m + 1 = b.range.minWidth := by
          simp [WidthRange.Meets, hmax]
        simp only [hnext, ok_bind, hmeets, ih (index + 1)]
        split <;> rfl

/-- What keeps a list of entries from being a partition, with gaps searched for in words. -/
def findFault : List Entry → Checked (Option Violation)
  | [] => .ok none
  | first :: rest =>
      if first.range.minWidth ≠ 0 then .ok (some (.notFromStart first.range.minWidth))
      else
        match ((first :: rest).getLast (List.cons_ne_nil first rest)).range.maxWidth with
        | some m => .ok (some (.notToEnd m))
        | none => do
            match ← findGap 0 (first :: rest) with
            | some v => return some v
            | none => return repeated? [] (first :: rest)

theorem findFault_eq (entries : List Entry) : findFault entries = .ok (partitionFault? entries) := by
  cases entries with
  | nil => rfl
  | cons first rest =>
    rw [findFault, partitionFault?, findGap_eq, ok_bind]
    split
    · rfl
    · cases ((first :: rest).getLast (List.cons_ne_nil first rest)).range.maxWidth with
      | some m => rfl
      | none =>
        simp only
        cases gap? 0 (first :: rest) with
        | some v => rfl
        | none => rfl

theorem partitioned_of_findFault {entries : List Entry} (h : findFault entries = .ok none) :
    partitionFault? entries = none := by
  rw [findFault_eq] at h
  exact Except.ok.inj h

/-- The system with given entries, once they have been checked in words. -/
def gridOf? (entries : List Entry) : Checked (Except Violation Grid) :=
  match h : findFault entries with
  | .error trap => .error trap
  | .ok (some v) => .ok (.error v)
  | .ok none => .ok (.ok ⟨entries, partitioned_of_findFault h⟩)

theorem gridOf?_eq (entries : List Entry) : gridOf? entries = .ok (Grid.ofEntries? entries) := by
  have hfault := findFault_eq entries
  unfold gridOf?
  split
  · next trap h =>
    rw [hfault] at h
    cases h
  · next v h =>
    rw [hfault] at h
    rw [Grid.ofEntries?_eq_error_iff.2 (Except.ok.inj h)]
  · exact congrArg Except.ok (Grid.ofEntries?_eq_ok_iff.2 rfl).symm

/-- The closing check of an edit. -/
def close (entries : List Entry) : Checked (Except EditFault Grid) := do
  return Grid.lift (← gridOf? entries)

theorem close_eq (entries : List Entry) :
    close entries = .ok (Grid.lift (Grid.ofEntries? entries)) := by
  unfold close
  rw [gridOf?_eq, ok_bind, pure_eq_ok]

/-! ## Positions -/

/-- The entries with one end of the range at a position replaced, which has to be there. -/
def patchAt (entries : List Entry) (index : Nat) (p : RangePatch) :
    Checked (Except Violation (List Entry)) := do
  let e ← fetch entries index
  match e.patch p with
  | .error v => return .error v
  | .ok e => return .ok (← put entries index e)

theorem patchAt_eq {entries : List Entry} {index : Nat} (h : index < entries.length)
    (p : RangePatch) : patchAt entries index p = .ok (Grid.patchAt entries index p) := by
  have hget : entries[index]? = some entries[index] := List.getElem?_eq_getElem h
  unfold patchAt Grid.patchAt
  rw [fetch_eq hget, ok_bind, hget]
  simp only
  cases entries[index].patch p with
  | error v => rfl
  | ok e =>
    simp only
    rw [put_eq h, ok_bind, pure_eq_ok]

theorem length_patchAt {entries patched : List Entry} {index : Nat} {p : RangePatch}
    (h : Grid.patchAt entries index p = .ok patched) : patched.length = entries.length := by
  have hids := congrArg List.length (map_id_of_patchAt h)
  rwa [List.length_map, List.length_map] at hids

theorem lt_length_of_indexOf? {s : Grid} {id : Id} {index : Nat}
    (h : s.indexOf? id = some index) : index < s.entries.length :=
  (List.findIdx?_eq_some_iff_getElem.1 h).1

/-- Systems are short: every range has at least two widths, and the last one starts at 9998
at most. -/
theorem length_le_of_tiles {start : Nat} {entries : List Entry} (h : Tiles start entries) :
    start + 2 * entries.length ≤ 10000 := by
  induction h with
  | @last _ e hmin _ =>
    have hle := e.range.minWidth_le
    simp only [List.length_singleton]
    omega
  | @cons _ e rest m hmin hmax hrest ih =>
    have hbounds := e.range.maxWidth_bounds m hmax
    simp only [List.length_cons]
    omega

theorem add_position {s : Grid} {index : Nat} (h : index < s.entries.length) :
    add largest64 index 1 = .ok (index + 1) := by
  have hlength := length_le_of_tiles (s.tiles (List.ne_nil_of_length_pos (Nat.zero_lt_of_lt h)))
  refine add_eq ?_
  unfold largest64
  omega

/-- The entry at the position behind that of an identity. -/
def wider? (s : Grid) (id : Id) : Checked (Option Entry) :=
  match s.indexOf? id with
  | none => .ok none
  | some index => do
      let neighbour ← add largest64 index 1
      return s.entries[neighbour]?

theorem wider?_eq (s : Grid) (id : Id) : wider? s id = .ok (s.wider? id) := by
  unfold wider? Grid.wider?
  cases hindex : s.indexOf? id with
  | none => rfl
  | some index =>
    simp only
    rw [add_position (lt_length_of_indexOf? hindex), ok_bind, pure_eq_ok]

/-! ## Moving a boundary -/

/-- Replaces an end of one range, then the facing end at the position of its neighbour. -/
def moveBoundary (s : Grid) (index : Nat) (p : RangePatch) (neighbour : Nat)
    (facing : RangePatch) : Checked (Except EditFault Grid) := do
  match ← patchAt s.entries index p with
  | .error v => return .error (.violation v)
  | .ok entries =>
      match ← patchAt entries neighbour facing with
      | .error v => return .error (.violation v)
      | .ok entries => close entries

theorem moveBoundary_eq {s : Grid} {index neighbour : Nat} (h : index < s.entries.length)
    (hneighbour : neighbour < s.entries.length) (p facing : RangePatch) :
    moveBoundary s index p neighbour facing = .ok (s.moveBoundary index p neighbour facing) := by
  unfold moveBoundary Grid.moveBoundary
  rw [patchAt_eq h, ok_bind]
  cases hpatch : Grid.patchAt s.entries index p with
  | error v => rfl
  | ok patched =>
    have hlength : neighbour < patched.length := by
      rw [length_patchAt hpatch]
      exact hneighbour
    simp only
    rw [patchAt_eq hlength, ok_bind]
    cases Grid.patchAt patched neighbour facing with
    | error v => rfl
    | ok entries => exact close_eq entries

/-- Moves the breakpoint at one edge of an entry. -/
def resize (s : Grid) (id : Id) (edge : Edge) (value : Nat) : Checked (Except EditFault Grid) :=
  match s.indexOf? id with
  | none => .ok (.error (.refusal (.unknownId id)))
  | some index =>
      match edge with
      | .minWidth =>
          if index = 0 then .ok (.error (.violation (.fixedBoundary id .minWidth)))
          else if value = 0 then .ok (.error (.violation (.widthUnderflow value)))
          else do
            let neighbour ← sub index 1
            let stop ← sub value 1
            moveBoundary s index (.minWidth value) neighbour (.maxWidth (some stop))
      | .maxWidth => do
          let neighbour ← add largest64 index 1
          if s.entries.length ≤ neighbour then
            return .error (.violation (.fixedBoundary id .maxWidth))
          else if largest32 ≤ value then return .error (.violation (.minWidthOutOfRange value))
          else
            let start ← add largest32 value 1
            moveBoundary s index (.maxWidth (some value)) neighbour (.minWidth start)

/-- The facing ends are words and the neighbours are there, whatever word a boundary is moved
to. -/
theorem resize_eq (s : Grid) (id : Id) (edge : Edge) (value : Nat) :
    resize s id edge value = .ok (s.resize id edge value) := by
  unfold resize Grid.resize
  cases hindex : s.indexOf? id with
  | none => rfl
  | some index =>
    have hlt := lt_length_of_indexOf? hindex
    cases edge with
    | minWidth =>
      simp only
      split
      · rfl
      · split
        · rfl
        · rw [sub_eq (by omega), ok_bind, sub_eq (by omega), ok_bind]
          exact moveBoundary_eq hlt (by omega) _ _
    | maxWidth =>
      simp only
      rw [add_position hlt, ok_bind]
      unfold Grid.size
      split
      · rfl
      · split
        · rfl
        · rw [add_eq (by omega), ok_bind]
          exact moveBoundary_eq hlt (by omega) _ _

/-! ## Changing one entry -/

/-- Replaces one entry, which has to be at its position, by the outcome of a change. -/
def change (s : Grid) (id : Id) (edit : Entry → Checked (Except Violation Entry)) :
    Checked (Except EditFault Grid) :=
  match s.indexOf? id with
  | none => .ok (.error (.refusal (.unknownId id)))
  | some index => do
      let e ← fetch s.entries index
      match ← edit e with
      | .error v => return .error (.violation v)
      | .ok e => close (← put s.entries index e)

theorem change_eq (s : Grid) (id : Id) {checked : Entry → Checked (Except Violation Entry)}
    {edit : Entry → Except Violation Entry} (hedit : ∀ e, checked e = .ok (edit e)) :
    change s id checked = .ok (s.change id edit) := by
  unfold change Grid.change
  cases hindex : s.indexOf? id with
  | none => rfl
  | some index =>
    have hlt := lt_length_of_indexOf? hindex
    have hget : s.entries[index]? = some s.entries[index] := List.getElem?_eq_getElem hlt
    simp only
    rw [fetch_eq hget, ok_bind, hedit, ok_bind, hget]
    simp only
    cases edit s.entries[index] with
    | error v => rfl
    | ok e =>
      simp only
      rw [put_eq hlt, ok_bind, close_eq]

/-- Replaces one scalar field of an entry, with the checks in words. -/
def setField (s : Grid) (id : Id) (value : FieldValue) : Checked (Except EditFault Grid) :=
  change s id fun e => entryOf? e.id (e.settings.set value)

theorem setField_eq (s : Grid) (id : Id) (value : FieldValue) :
    setField s id value = .ok (s.setField id value) :=
  change_eq s id fun e => entryOf?_eq e.id (e.settings.set value)

/-- Replaces one side of one demo element of an entry, with the checks in words. -/
def place (s : Grid) (id : Id) (element : Element) (side : Side) (value : Nat) :
    Checked (Except EditFault Grid) :=
  change s id fun e => entryOf? e.id (e.settings.place element side value)

theorem place_eq (s : Grid) (id : Id) (element : Element) (side : Side) (value : Nat) :
    place s id element side value = .ok (s.place id element side value) :=
  change_eq s id fun e => entryOf?_eq e.id (e.settings.place element side value)

/-! ## Adding and removing -/

/-- Adds a tail, and gives the next identity, too. -/
def addTail (next : Id) (s : Grid) : Checked (Except EditFault Grid × Id) :=
  match s.entries.getLast? with
  | none => do
      match ← entryOf? next .seed with
      | .error v => return (.error (.violation v), next + 1)
      | .ok e => return (← close [e], next + 1)
  | some tail => do
      let least := tail.range.minWidth
      let behind ← add largest32 least Grid.addedSpan
      let stop ← sub behind 1
      match tail.patch (.maxWidth (some stop)) with
      | .error v => return (.error (.violation v), next)
      | .ok shrunk =>
          let start ← add largest32 least Grid.addedSpan
          match WidthRange.of? start none with
          | .error v => return (.error (.violation v), next)
          | .ok range =>
              match ← entryOf? next { tail.settings with range := range } with
              | .error v => return (.error (.violation v), next + 1)
              | .ok added =>
                  return (← close (s.entries.dropLast ++ [shrunk, added]), next + 1)

/-- The ends around a new tail are words, since every range starts at 9998 at most. -/
theorem addTail_eq (next : Id) (s : Grid) : addTail next s = .ok (s.add next) := by
  unfold addTail Grid.add
  cases s.entries.getLast? with
  | none =>
    simp only
    rw [entryOf?_eq, ok_bind]
    cases Entry.of? next .seed with
    | error v => rfl
    | ok e =>
      simp only
      rw [close_eq, ok_bind, pure_eq_ok]
  | some tail =>
    have hleast := tail.range.minWidth_le
    have hsum : add largest32 tail.range.minWidth Grid.addedSpan =
        .ok (tail.range.minWidth + Grid.addedSpan) := by
      refine add_eq ?_
      unfold largest32 Grid.addedSpan
      omega
    have hpos : 1 ≤ tail.range.minWidth + Grid.addedSpan := by
      unfold Grid.addedSpan
      omega
    simp only
    rw [hsum, ok_bind, sub_eq hpos, ok_bind]
    cases tail.patch (.maxWidth (some (tail.range.minWidth + Grid.addedSpan - 1))) with
    | error v => rfl
    | ok shrunk =>
      simp only
      rw [ok_bind]
      cases WidthRange.of? (tail.range.minWidth + Grid.addedSpan) none with
      | error v => rfl
      | ok range =>
        simp only
        rw [entryOf?_eq, ok_bind]
        cases Entry.of? next { tail.settings with range := range } with
        | error v => rfl
        | ok added =>
          simp only
          rw [close_eq, ok_bind, pure_eq_ok]

/-- Gives a removed range to a neighbour of its position: the wider one is there now. -/
def absorb (rest : List Entry) (index : Nat) (removed : WidthRange) :
    Checked (Except Violation (List Entry)) :=
  if index < rest.length then patchAt rest index (.minWidth removed.minWidth)
  else if 0 < index then do
    let narrower ← sub index 1
    patchAt rest narrower (.maxWidth removed.maxWidth)
  else .ok (.ok rest)

/-- Where the wider neighbour is missing and the position is not the first, the narrower one
is there. -/
theorem absorb_eq {rest : List Entry} {index : Nat} (h : index ≤ rest.length)
    (removed : WidthRange) :
    absorb rest index removed = .ok
      (if index < rest.length then Grid.patchAt rest index (.minWidth removed.minWidth)
      else if 0 < index then Grid.patchAt rest (index - 1) (.maxWidth removed.maxWidth)
      else .ok rest) := by
  unfold absorb
  split
  · next hwider => exact patchAt_eq hwider _
  · split
    · rw [sub_eq (by omega), ok_bind]
      exact patchAt_eq (by omega) _
    · rfl

/-- Removes an entry. -/
def remove (s : Grid) (id : Id) : Checked (Except EditFault Grid) :=
  match s.indexOf? id with
  | none => .ok (.error (.refusal (.unknownId id)))
  | some index => do
      let removed ← fetch s.entries index
      let rest ← erase s.entries index
      match ← absorb rest index removed.range with
      | .error v => return .error (.violation v)
      | .ok entries => close entries

theorem remove_eq (s : Grid) (id : Id) : remove s id = .ok (s.remove id) := by
  unfold remove Grid.remove
  cases hindex : s.indexOf? id with
  | none => rfl
  | some index =>
    have hlt := lt_length_of_indexOf? hindex
    have hget : s.entries[index]? = some s.entries[index] := List.getElem?_eq_getElem hlt
    have hlength : index ≤ (s.entries.eraseIdx index).length := by
      rw [List.length_eraseIdx_of_lt hlt]
      omega
    simp only
    rw [fetch_eq hget, ok_bind, erase_eq hlt, ok_bind, absorb_eq hlength, ok_bind, hget]
    simp only
    let rest := s.entries.eraseIdx index
    let removed := s.entries[index].range
    cases if index < rest.length then Grid.patchAt rest index (.minWidth removed.minWidth)
      else if 0 < index then Grid.patchAt rest (index - 1) (.maxWidth removed.maxWidth)
      else .ok rest with
    | error v => rfl
    | ok entries => exact close_eq entries

end ResponsiveGrid.Machine
