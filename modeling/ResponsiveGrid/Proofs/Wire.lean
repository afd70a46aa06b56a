import ResponsiveGrid.Proofs.Decimal.Reread
import ResponsiveGrid.Proofs.Json.Stored
import ResponsiveGrid.Wire
set_option autoImplicit false

/-!
# Wire: stored content that is read back

Everything that is stored of a breakpoint is read back as it was, the scale excepted: it is
the only number that is no natural number, and what is read of it is `Decimal.reread`.  The
numbers need not be within the bounds of their fields; they only have to fit the thirty-two
bits that a reader gives them (`Settings.Storable`).
-/

namespace ResponsiveGrid

open Json

/-! ## Ranges and placements -/

theorem WidthRange.stored (r : WidthRange) : Stored r.toJson WidthRange.ofJson r := by
  have hmin : r.minWidth ≤ largest32 := Nat.le_trans r.minWidth_le (by decide)
  have hfinish : ∀ p : Partial, p.minWidth = some r.minWidth → p.maxWidth.getD none = r.maxWidth →
      finish p = .ok r := by
    intro p hleast hgreatest
    unfold finish
    rw [hleast, hgreatest, Json.present]
    simp only [of?_eq_ok_iff.2 (⟨rfl, rfl⟩ : r.minWidth = r.minWidth ∧ r.maxWidth = r.maxWidth)]
  unfold toJson
  cases hmax : r.maxWidth with
  | none =>
    refine stored_record (.field rfl rfl ((stored_natural hmin).map _) (.nil _)) ?_
    exact hfinish _ rfl hmax.symm
  | some m =>
    have hm : m ≤ largest32 :=
      Nat.le_trans (r.maxWidth_bounds m hmax).2 (by decide)
    refine stored_record (.field rfl rfl ((stored_natural hmin).map _)
      (.field rfl rfl ((stored_some hm).map _) (.nil _))) ?_
    exact hfinish _ rfl hmax.symm

/-- The column lines of a placement fit thirty-two bits. -/
def Placement.Storable (p : Placement) : Prop :=
  p.start ≤ largest32 ∧ p.stop ≤ largest32

instance (p : Placement) : Decidable p.Storable :=
  inferInstanceAs (Decidable (_ ∧ _))

theorem Placement.stored {p : Placement} (h : p.Storable) :
    Stored p.toJson Placement.ofJson p := by
  refine stored_record (.field rfl rfl ((stored_natural h.1).map _)
    (.field rfl rfl ((stored_natural h.2).map _) (.nil _))) ?_
  rfl

theorem Placements.stored {p : Placements} (h : ∀ element, (p.get element).Storable) :
    Stored p.toJson Placements.ofJson p := by
  refine stored_record (.field rfl rfl ((Placement.stored (h .heading1)).map _)
    (.field rfl rfl ((Placement.stored (h .heading2)).map _)
      (.field rfl rfl ((Placement.stored (h .paragraph)).map _) (.nil _)))) ?_
  rfl

/-! ## Scales -/

theorem Decimal.kindOf_one : Decimal.kindOf 1.0 = .finite ⟨false, 2 ^ 52, 1022⟩ := by decide +kernel

theorem Decimal.kindOf_two : Decimal.kindOf 2.0 = .finite ⟨false, 2 ^ 52, 1023⟩ := by decide +kernel

theorem scaleToJson_of_whole {x : Float} {f : Decimal.Finite} (hkind : Decimal.kindOf x = .finite f)
    (hwhole : f.ticks % Decimal.ticksOfOne = 0 ∧ f.ticks / Decimal.ticksOfOne ≤ largest32) :
    scaleToJson x = .integer f.floor := by
  unfold scaleToJson
  rw [hkind]
  simp only
  rw [if_pos hwhole]

theorem scaleToJson_one : scaleToJson 1.0 = natural 1 := by
  have hfloor : Decimal.Finite.floor ⟨false, 2 ^ 52, 1022⟩ = 1 := by decide +kernel
  rw [scaleToJson_of_whole Decimal.kindOf_one (by decide +kernel), hfloor]
  rfl

theorem scaleToJson_two : scaleToJson 2.0 = natural 2 := by
  have hfloor : Decimal.Finite.floor ⟨false, 2 ^ 52, 1023⟩ = 2 := by decide +kernel
  rw [scaleToJson_of_whole Decimal.kindOf_two (by decide +kernel), hfloor]
  rfl

/-- Between one and two lies no whole number. -/
theorem Decimal.ticks_of_steps {N : Nat} (hlow : 2 ^ 52 < N) (hhigh : N < 2 ^ 53) :
    Decimal.Finite.ticks ⟨false, N, 1022⟩ % Decimal.ticksOfOne ≠ 0 := by
  have htwo := Decimal.pow_split 2 (by rfl : (1076 : Nat) = 54 + 1022)
  have hsmall : Nat.pow 2 54 = 2 ^ 54 := rfl
  have hpos := Decimal.natPow_pos Nat.two_pos 1022
  have hodd : 4 * N % 2 ^ 54 ≠ 0 := by omega
  unfold Decimal.Finite.ticks Decimal.ticksOfOne
  rw [htwo, Nat.mul_mod_mul_right, hsmall]
  exact Nat.mul_ne_zero hodd (Nat.ne_of_gt hpos)

theorem scaleToJson_of_steps {x : Float} {N : Nat} (h : Decimal.Steps x N) (hlow : 2 ^ 52 < N)
    (hhigh : N < 2 ^ 53) : scaleToJson x = .decimal x := by
  unfold scaleToJson
  rw [h.kindOf_of_lt hhigh]
  simp only
  rw [if_neg fun hwhole => Decimal.ticks_of_steps hlow hhigh hwhole.1]

/-- A number without a fraction. -/
def Decimal.Whole (x : Float) : Prop :=
  ∃ f, Decimal.kindOf x = .finite f ∧ f.ticks % Decimal.ticksOfOne = 0

/-- The ends of the range of a scale are the only whole numbers in it. -/
theorem Decimal.whole_iff {x : Float} (hlow : 1.0 ≤ x) (hhigh : x ≤ 2.0) :
    Decimal.Whole x ↔ x = 1.0 ∨ x = 2.0 := by
  constructor
  · rintro ⟨f, hkind, hwhole⟩
    rcases Decimal.scale_cases hlow hhigh with hone | htwo | ⟨N, hN, hNlow, hNhigh⟩
    · exact .inl hone
    · exact .inr htwo
    · rw [hN.kindOf_of_lt hNhigh] at hkind
      cases hkind
      exact absurd hwhole (Decimal.ticks_of_steps hNlow hNhigh)
  · rintro (rfl | rfl)
    · exact ⟨⟨false, 2 ^ 52, 1022⟩, kindOf_one, by decide +kernel⟩
    · exact ⟨⟨false, 2 ^ 52, 1023⟩, kindOf_two, by decide +kernel⟩

/-- A scale is read back as what a reader that rounds twice makes of its digits. -/
theorem stored_scale {x : Float} (hlow : 1.0 ≤ x) (hhigh : x ≤ 2.0) :
    Stored (scaleToJson x) Shape.binary64 (Decimal.reread x) := by
  rcases Decimal.scale_cases hlow hhigh with rfl | rfl | ⟨N, hN, hNlow, hNhigh⟩
  · rw [scaleToJson_one, Decimal.reread_one]
    refine ⟨_, written_natural (by decide), ?_⟩
    have hone : Float.ofInt (1 : Nat) = 1.0 := by decide +kernel
    rw [← hone]
    rfl
  · rw [scaleToJson_two, Decimal.reread_two]
    refine ⟨_, written_natural (by decide), ?_⟩
    have htwo : Float.ofInt (2 : Nat) = 2.0 := by decide +kernel
    rw [← htwo]
    rfl
  · obtain ⟨c, p, hp, hp', hnear, hshortest, hreread, -⟩ := Decimal.exists_reread hN hNlow hNhigh
    have hlength := hnear.length_toDigits hNlow hNhigh hp
    have hc : c ≤ largest64 := by
      have hten : 10 ^ p ≤ 10 ^ 16 := Nat.pow_le_pow_right (Nat.succ_pos _) hp'
      have hatMost := (hnear.bounds hNlow hNhigh).2
      unfold largest64
      omega
    have hreads := reads_decimal hp hlength hc
    rw [← Decimal.wire_of_steps hN hNlow hNhigh hp hnear hshortest, ← hreread] at hreads
    rw [scaleToJson_of_steps hN hNlow hNhigh]
    exact ⟨.number (.ok (.decimal (Decimal.reread x))), ⟨hreads, fun _ => hreads⟩, rfl⟩

/-! ## Settings and snapshots -/

namespace Settings

/-- All numbers fit where they are read to, and the scale is one. -/
structure Storable (s : Settings) : Prop where
  contentMaxWidth : ∀ w ∈ s.contentMaxWidth, w ≤ largest32
  columns : s.columns ≤ largest32
  gutter : s.gutter ≤ largest32
  margin : s.margin ≤ largest32
  scale : 1.0 ≤ s.scale ∧ s.scale ≤ 2.0
  placements : ∀ element, (s.placements.get element).Storable

theorem Valid.storable {s : Settings} (h : s.Valid) : s.Storable where
  contentMaxWidth w hw := by
    have hbounds := h.contentMaxWidth w hw
    unfold largest32
    omega
  columns := Nat.le_trans h.columns.2 (by decide)
  gutter := Nat.le_trans h.gutter (by decide)
  margin := Nat.le_trans h.margin (by decide)
  scale := h.scale
  placements element := by
    obtain ⟨hstart, horder, hstop⟩ := h.placements element
    have hcolumns := h.columns
    unfold Placement.Storable largest32
    omega

/-- The settings that are read back: the scale may have changed. -/
def reread (s : Settings) : Settings := { s with scale := Decimal.reread s.scale }

/-- Settings are read back from both of their texts. -/
theorem Storable.stored {s : Settings} (h : s.Storable) : Stored s.toJson Settings.ofJson s.reread := by
  have hcolumns := stored_natural h.columns
  have hgutter := stored_natural h.gutter
  have hmargin := stored_natural h.margin
  have hscale := stored_scale h.scale.1 h.scale.2
  have hplacements := Placements.stored h.placements
  unfold toJson
  cases hcap : s.contentMaxWidth with
  | none =>
    refine stored_record (.field rfl rfl (s.range.stored.map _) (.field rfl rfl (hcolumns.map _)
      (.field rfl rfl (hgutter.map _) (.field rfl rfl (hmargin.map _) (.field rfl rfl (hscale.map _)
        (.field rfl rfl (hplacements.map _) (.nil _))))))) ?_
    have hread : s.reread = ⟨s.range, none, s.columns, s.gutter, s.margin,
        Decimal.reread s.scale, s.placements⟩ := by
      rw [reread, hcap]
    rw [hread]
    rfl
  | some w =>
    refine stored_record (.field rfl rfl (s.range.stored.map _) (.field rfl rfl
      ((stored_some (h.contentMaxWidth w hcap)).map _) (.field rfl rfl (hcolumns.map _)
        (.field rfl rfl (hgutter.map _) (.field rfl rfl (hmargin.map _)
          (.field rfl rfl (hscale.map _) (.field rfl rfl (hplacements.map _) (.nil _)))))))) ?_
    have hread : s.reread = ⟨s.range, some w, s.columns, s.gutter, s.margin,
        Decimal.reread s.scale, s.placements⟩ := by
      rw [reread, hcap]
    rw [hread]
    rfl

end Settings

namespace Snapshot

/-- The snapshot that is read back. -/
def reread (s : Snapshot) : Snapshot := ⟨s.breakpoints.map Settings.reread⟩

/-- A snapshot is read back from both of its texts, with all breakpoints in order. -/
theorem stored {s : Snapshot} (h : ∀ b ∈ s.breakpoints, b.Storable) :
    Stored s.toJson ofJson s.reread := by
  obtain ⟨breakpoints⟩ := s
  have hlist : List.Forall₂ (fun v b => Stored v Settings.ofJson b)
      (breakpoints.map Settings.toJson) (breakpoints.map Settings.reread) := by
    induction breakpoints with
    | nil => exact .nil
    | cons b rest ih =>
      exact .cons (h b List.mem_cons_self).stored
        (ih fun c hc => h c (List.mem_cons_of_mem b hc))
  refine stored_record (.field rfl rfl ((stored_list hlist).map some) (.nil _)) ?_
  rfl

theorem parse_text {s : Snapshot} (h : ∀ b ∈ s.breakpoints, b.Storable) :
    parse s.text = .ok s.reread :=
  (stored h).parse_compact

theorem parse_text_newline {s : Snapshot} (h : ∀ b ∈ s.breakpoints, b.Storable) :
    parse (s.text ++ "\n") = .ok s.reread := by
  have hparse := (stored h).parse_compact_append (blank_newline 0)
  rwa [String.ofList_append] at hparse

theorem parse_prettyText_newline {s : Snapshot} (h : ∀ b ∈ s.breakpoints, b.Storable) :
    parse (s.prettyText ++ "\n") = .ok s.reread := by
  have hparse := (stored h).parse_pretty_append (blank_newline 0)
  rwa [String.ofList_append] at hparse

end Snapshot

end ResponsiveGrid
