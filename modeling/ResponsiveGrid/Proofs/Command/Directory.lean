import Mathlib.Data.List.Infix
import ResponsiveGrid.Command.Directory
import ResponsiveGrid.Proofs.Text.Utf8
set_option autoImplicit false

/-!
# Command: what writing a file changes

A path leads through directories only, so that everything above the location that it leads
to is a directory before anything is written (`rooted_of_follow`).  Writing a file
therefore changes what is at this one location and creates no directory on the way, and
what is read back from the path is the text that was written: `writes_write`.
-/

namespace ResponsiveGrid.Command.Directory

variable {d d' : Directory} {l : Location}

/-! ## Following a path -/

/-- All locations above one are directories. -/
def Rooted (d : Directory) (l : Location) : Prop :=
  ∀ up, up <+: l → up ≠ l → d.at? up = some .directory

theorem at?_of_isKnown (h : isKnown l = true) : d.at? l = some .directory := if_pos h

theorem rooted_origin (d : Directory) (path : String) : d.Rooted (origin path) := by
  intro up hup hne
  unfold origin at hup hne
  split at hup
  · next hslash =>
    rw [if_pos hslash] at hne
    rcases List.prefix_concat_iff.1 (show up <+: [] ++ ["/"] from hup) with heq | hnil
    · exact absurd heq hne
    · rw [List.prefix_nil.1 hnil]
      exact at?_of_isKnown rfl
  · rw [List.prefix_nil.1 hup]
    exact at?_of_isKnown rfl

theorem rooted_append (h : d.Rooted l) (hl : d.at? l = some .directory) (name : String) :
    d.Rooted (l ++ [name]) := by
  intro up hup hne
  rcases List.prefix_concat_iff.1 hup with heq | habove
  · exact absurd heq hne
  · by_cases hsame : up = l
    · rw [hsame]
      exact hl
    · exact h up habove hsame

theorem rooted_above (h : d.Rooted l) (hl : d.at? l = some .directory) : d.Rooted (above l) := by
  unfold above
  split
  · exact h
  · split
    · exact rooted_append h hl ".."
    · intro up hup hne
      refine h up (hup.trans l.dropLast_prefix) ?_
      rintro rfl
      exact hne (hup.eq_of_length_le (by simp))

theorem rooted_enter (h : d.Rooted l) (hl : d.at? l = some .directory) (part : String) :
    d.Rooted (enter l part) := by
  unfold enter
  split
  · exact h
  · split
    · exact rooted_above h hl
    · exact rooted_append h hl part

theorem follow_cons {l' : Location} {part : String} {rest : List String}
    (h : d.follow l (part :: rest) = .ok l') :
    d.at? l = some .directory ∧ ¬ nameLimit < part.utf8ByteSize ∧
      d.follow (enter l part) rest = .ok l' := by
  rw [follow] at h
  split at h
  · cases h
  · cases h
  · next hl =>
    split at h
    · cases h
    · next hlimit => exact ⟨hl, hlimit, h⟩

theorem rooted_of_follow {l' : Location} {parts : List String} (hl : d.Rooted l)
    (h : d.follow l parts = .ok l') : d.Rooted l' := by
  induction parts generalizing l with
  | nil =>
    cases h
    exact hl
  | cons part rest ih =>
    obtain ⟨hdirectory, -, hrest⟩ := follow_cons h
    exact ih (rooted_enter hl hdirectory part) hrest

/-- A path leads to the same location as long as directories stay directories. -/
theorem follow_of_directories {l' : Location} {parts : List String}
    (hkept : ∀ other, d.at? other = some .directory → d'.at? other = some .directory)
    (h : d.follow l parts = .ok l') : d'.follow l parts = .ok l' := by
  induction parts generalizing l with
  | nil => exact h
  | cons part rest ih =>
    obtain ⟨hdirectory, hlimit, hrest⟩ := follow_cons h
    rw [follow, hkept l hdirectory]
    simp only
    rw [if_neg hlimit]
    exact ih hrest

/-! ## Putting a file at a location -/

/-- What a location that is not known holds: what the table says, or else a directory when
something in the table is behind it. -/
theorem at?_of_not_isKnown (h : isKnown l ≠ true) :
    d.at? l = ((d.nodes.find? fun entry => entry.1 == l).map Prod.snd).or
      (if d.nodes.any fun entry => l.isPrefixOf entry.1 then some .directory else none) := by
  unfold at?
  rw [if_neg h]
  cases d.nodes.find? fun entry => entry.1 == l <;> rfl

/-- A directory with a file at a location, in place of what was there. -/
def withFile (d : Directory) (l : Location) (bytes : List UInt8) : Directory :=
  ⟨(l, .file bytes) :: d.nodes.filter fun entry => entry.1 ≠ l⟩

theorem nodes_withFile (bytes : List UInt8) : (d.withFile l bytes).nodes =
    (l, .file bytes) :: d.nodes.filter fun entry => entry.1 ≠ l := rfl

theorem find?_withFile {other : Location} (hne : other ≠ l) (bytes : List UInt8) :
    (d.withFile l bytes).nodes.find? (fun entry => entry.1 == other) =
      d.nodes.find? fun entry => entry.1 == other := by
  have hhead : (l == other) = false := by simpa using hne.symm
  rw [nodes_withFile, List.find?_cons]
  simp only [hhead]
  rw [List.find?_filter]
  apply congrArg (List.find? · d.nodes)
  funext entry
  by_cases hentry : entry.1 = other
  · simp [hentry, hne]
  · simp [hentry]

theorem any_withFile (other : Location) (bytes : List UInt8) :
    ((d.withFile l bytes).nodes.any fun entry => other.isPrefixOf entry.1) =
      (other.isPrefixOf l || d.nodes.any fun entry => other.isPrefixOf entry.1) := by
  rw [nodes_withFile, List.any_cons]
  cases habove : other.isPrefixOf l with
  | true => rfl
  | false =>
    rw [Bool.false_or, Bool.false_or, List.any_filter]
    apply congrArg (List.any d.nodes)
    funext entry
    by_cases hentry : entry.1 = l
    · simp [hentry, habove]
    · simp [hentry]

theorem at?_withFile_self (hl : d.at? l ≠ some .directory) (bytes : List UInt8) :
    (d.withFile l bytes).at? l = some (.file bytes) := by
  have hunknown : isKnown l ≠ true := fun hknown => hl (at?_of_isKnown hknown)
  rw [at?_of_not_isKnown hunknown]
  simp [nodes_withFile]

theorem at?_withFile_of_ne (hrooted : d.Rooted l) (bytes : List UInt8) {other : Location}
    (hne : other ≠ l) : (d.withFile l bytes).at? other = d.at? other := by
  by_cases hknown : isKnown other = true
  · rw [at?_of_isKnown hknown, at?_of_isKnown hknown]
  · rw [at?_of_not_isKnown hknown, find?_withFile hne, any_withFile]
    cases habove : other.isPrefixOf l with
    | false => rw [Bool.false_or, ← at?_of_not_isKnown hknown]
    | true =>
      -- a location above the file was a directory before
      have hup := hrooted other (List.isPrefixOf_iff_prefix.1 habove) hne
      rw [hup]
      rw [at?_of_not_isKnown hknown] at hup
      cases hfound : d.nodes.find? fun entry => entry.1 == other with
      | some entry =>
        rw [hfound] at hup
        exact hup
      | none => rfl

/-! ## Writing -/

/-- What writing a text to a path does to a directory: the path leads to a location that
is no directory, this location holds the text from then on, and all others hold what they
held. -/
structure Writes (d : Directory) (path text : String) (d' : Directory) : Prop where
  location : ∃ l, d.locate path (partsOf path) = .ok l ∧ d.at? l ≠ some .directory ∧
    ∀ other, other ≠ l → d'.at? other = d.at? other
  text : d'.read path = .ok text

/-- A path that is written to has no slash behind it, and leads through directories to what
is no directory. -/
theorem write_eq_ok_iff {path text : String} :
    d.write path text = .ok d' ↔ ∃ l, d.locate path (partsOf path) = .ok l ∧
      endsInSlash path = false ∧ d.at? l ≠ some .directory ∧
      d' = d.withFile l (Text.Utf8.encode text.toList) := by
  unfold write partsToWrite
  cases hslash : endsInSlash path with
  | true =>
    simp only [if_true, true_or, reduceCtorEq, false_and, and_false, exists_false, iff_false]
    split <;> simp
  | false =>
    simp only [Bool.false_eq_true, if_false, false_or, true_and]
    cases d.locate path (partsOf path) with
    | error fault => simp
    | ok l =>
      by_cases hl : d.at? l = some .directory
      · simp [hl]
      · simp only [hl, if_false, Except.ok.injEq, exists_eq_left', ne_eq, not_false_eq_true,
          true_and]
        exact eq_comm

theorem rooted_of_locate {path : String} {parts : List String}
    (h : d.locate path parts = .ok l) : d.Rooted l := by
  unfold locate at h
  split at h
  · cases h
  · split at h
    · cases h
    · exact rooted_of_follow (rooted_origin d path) h

theorem locate_of_directories {path : String} {parts : List String}
    (hkept : ∀ other, d.at? other = some .directory → d'.at? other = some .directory)
    (h : d.locate path parts = .ok l) : d'.locate path parts = .ok l := by
  unfold locate at h ⊢
  split at h
  · cases h
  · split at h
    · cases h
    · next hnul hlimit =>
      rw [if_neg hnul, if_neg hlimit]
      exact follow_of_directories hkept h

/-- Writing changes one location. -/
theorem writes_write {path text : String} (h : d.write path text = .ok d') :
    Writes d path text d' := by
  obtain ⟨l, hlocate, -, hl, rfl⟩ := write_eq_ok_iff.1 h
  let bytes := Text.Utf8.encode text.toList
  have hothers : ∀ other, other ≠ l → (d.withFile l bytes).at? other = d.at? other :=
    fun other hne => at?_withFile_of_ne (rooted_of_locate hlocate) bytes hne
  refine ⟨⟨l, hlocate, hl, hothers⟩, ?_⟩
  have hkept : ∀ other, d.at? other = some .directory →
      (d.withFile l bytes).at? other = some .directory := by
    intro other hother
    have hne : other ≠ l := by
      rintro rfl
      exact hl hother
    rw [hothers other hne]
    exact hother
  unfold read node?
  rw [locate_of_directories hkept hlocate]
  simp only
  rw [at?_withFile_self hl]
  simp [Text.Utf8.decode_encode, Text.Utf8.decode?]

end ResponsiveGrid.Command.Directory
