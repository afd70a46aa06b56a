import Mathlib.Data.List.DropRight
import Mathlib.Tactic.Ring
import ResponsiveGrid.Json.Outline
import ResponsiveGrid.Json.Value
import ResponsiveGrid.Proofs.Decimal.Numeral
set_option autoImplicit false

/-!
# Json: reading what was written

`Reads o text` says that whoever reads at the start of `text` finds the outline `o` and
goes on right behind it, whatever stands there.  It is stated with an arbitrary rest, and
so it goes together: items and fields are read one after the other.  Both texts of a value
are put together in the same way, and `Written v o` says it of both of them.

The only thing that the rest must not do is to continue a number.
-/

namespace ResponsiveGrid.Json

/-! ## Blanks -/

/-- Nothing but blanks. -/
def Blank (s : List Char) : Prop := ∀ c ∈ s, c = ' ' ∨ c = '\n' ∨ c = '\t' ∨ c = '\r'

instance (s : List Char) : Decidable (Blank s) :=
  List.decidableBAll (fun c => c = ' ' ∨ c = '\n' ∨ c = '\t' ∨ c = '\r') s

theorem blank_newline (depth : Nat) : Blank (newline depth) := by
  intro c hc
  rcases List.mem_cons.1 hc with h | h
  · exact .inr (.inl h)
  · exact .inl (List.eq_of_mem_replicate h)

theorem skipBlanks_append {b : List Char} (hb : Blank b) (s : List Char) :
    skipBlanks (b ++ s) = skipBlanks s := by
  apply List.dropWhile_append_of_pos
  intro c hc
  simp only [Bool.or_eq_true, decide_eq_true_eq, or_assoc]
  exact hb c hc

theorem skipBlanks_cons {c : Char} {s : List Char} (hc : ¬ Blank [c]) :
    skipBlanks (c :: s) = c :: s := by
  refine List.dropWhile_cons_of_neg fun hblank => hc ?_
  simp only [Bool.or_eq_true, decide_eq_true_eq, or_assoc] at hblank
  intro d hd
  rw [List.mem_singleton.1 hd]
  exact hblank

theorem skipBlanks_skipBlanks (s : List Char) : skipBlanks (skipBlanks s) = skipBlanks s :=
  List.dropWhile_idempotent _ s

/-- Blanks before a value do not matter. -/
theorem readValue_congr {s t : List Char} (h : skipBlanks s = skipBlanks t) (fuel : Nat) :
    readValue fuel s = readValue fuel t := by
  cases fuel with
  | zero => rw [readValue, readValue]
  | succ fuel => rw [readValue, readValue, h]

theorem readItems_congr {s t : List Char} (h : skipBlanks s = skipBlanks t) (fuel : Nat) :
    readItems fuel s = readItems fuel t := by
  cases fuel with
  | zero => rw [readItems, readItems]
  | succ fuel => rw [readItems, readItems, readValue_congr h]

theorem readFields_congr {s t : List Char} (h : skipBlanks s = skipBlanks t) (fuel : Nat) :
    readFields fuel s = readFields fuel t := by
  cases fuel with
  | zero => rw [readFields, readFields]
  | succ fuel => rw [readFields, readFields, h]

/-! ## Values -/

/-- A number ends before this text. -/
def Delimits (rest : List Char) : Prop :=
  ∀ c ∈ rest.head?, c.isDigit = false ∧ c ≠ '.' ∧ c ≠ 'e' ∧ c ≠ 'E'

theorem delimits_nil : Delimits [] := by
  intro c hc
  cases hc

theorem delimits_cons {c : Char} {s : List Char}
    (h : c.isDigit = false ∧ c ≠ '.' ∧ c ≠ 'e' ∧ c ≠ 'E') : Delimits (c :: s) := by
  intro d hd
  cases hd
  exact h

theorem delimits_append {b s : List Char} (hb : Blank b) (hs : Delimits s) : Delimits (b ++ s) := by
  cases b with
  | nil => exact hs
  | cons c b =>
    refine delimits_cons ?_
    rcases hb c List.mem_cons_self with rfl | rfl | rfl | rfl <;> decide

/-- A reader finds a value where its text stands, and goes on behind it. -/
def Reads (o : Outline) (text : List Char) : Prop :=
  ∀ fuel rest, Delimits rest → 2 * text.length ≤ fuel →
    readValue fuel (text ++ rest) = (o, .ok rest)

theorem Reads.indent {o : Outline} {b text : List Char} (hb : Blank b) (h : Reads o text) :
    Reads o (b ++ text) := by
  intro fuel rest hrest hfuel
  rw [List.length_append] at hfuel
  rw [List.append_assoc, readValue_congr (skipBlanks_append hb (text ++ rest))]
  exact h fuel rest hrest (by omega)

/-- A text has one outline. -/
theorem Reads.unique {o o' : Outline} {text : List Char} (h : Reads o text) (h' : Reads o' text) :
    o = o' := by
  have hread := h (2 * text.length) [] delimits_nil (Nat.le_refl _)
  rw [h' (2 * text.length) [] delimits_nil (Nat.le_refl _)] at hread
  exact (congrArg Prod.fst hread).symm

/-! ## Numbers -/

theorem digitsOf_append (digits rest : List Char) (hdigits : ∀ c ∈ digits, c.isDigit = true)
    (hrest : ∀ c ∈ rest.head?, c.isDigit = false) :
    digitsOf (digits ++ rest) = digits ∧ afterDigits (digits ++ rest) = rest := by
  unfold digitsOf afterDigits
  rw [List.takeWhile_append_of_pos hdigits, List.dropWhile_append_of_pos hdigits]
  cases rest with
  | nil => exact ⟨List.append_nil digits, rfl⟩
  | cons c rest =>
    have hc : ¬ c.isDigit = true := by
      rw [hrest c rfl]
      exact Bool.false_ne_true
    rw [List.takeWhile_cons_of_neg hc, List.dropWhile_cons_of_neg hc, List.append_nil]
    exact ⟨rfl, rfl⟩

theorem Delimits.exponentPart {rest : List Char} (h : Delimits rest) : exponentPart rest = none := by
  cases rest with
  | nil => rfl
  | cons c rest =>
    obtain ⟨-, -, hlower, hupper⟩ := h c rfl
    rw [Json.exponentPart, if_neg (by simp [hlower, hupper])]

theorem Delimits.head?_ne {rest : List Char} (h : Delimits rest) : rest.head? ≠ some '.' :=
  fun hdot => (h '.' hdot).2.1 rfl

theorem readValue_digit {c : Char} (hc : c.isDigit = true) (fuel : Nat) (s : List Char) :
    readValue (fuel + 1) (c :: s) = (.number (readNumber false (c :: s)), skipNumber (c :: s)) := by
  have hne : ∀ d, d.isDigit = false → c ≠ d := by
    rintro d hd rfl
    rw [hc] at hd
    cases hd
  have hblank : ¬ Blank [c] := by
    intro h
    rcases h c List.mem_cons_self with rfl | rfl | rfl | rfl <;> cases hc
  rw [readValue, skipBlanks_cons hblank]
  simp only
  rw [if_neg (hne _ rfl), if_neg (hne _ rfl), if_neg (hne _ rfl), if_neg (hne _ rfl),
    if_neg (hne _ rfl), if_pos hc]

/-- A text that starts with a digit is read as the number it is. -/
theorem reads_number {c : Char} {text : List Char} {n : Except Fault Number}
    (hc : c.isDigit = true)
    (h : ∀ rest, Delimits rest → readNumber false (c :: text ++ rest) = n ∧
      skipNumber (c :: text ++ rest) = .ok rest) :
    Reads (.number n) (c :: text) := by
  intro fuel rest hrest hfuel
  obtain ⟨fuel, rfl⟩ : ∃ k, fuel = k + 1 := ⟨fuel - 1, by rw [List.length_cons] at hfuel; omega⟩
  obtain ⟨hread, hskip⟩ := h rest hrest
  rw [List.cons_append] at hread hskip ⊢
  rw [readValue_digit hc, hread, hskip]

theorem readNumber_toDigits {n : Nat} (hn : n ≤ largest64) {rest : List Char}
    (hrest : Delimits rest) (negative : Bool) :
    skipNumber (Nat.toDigits 10 n ++ rest) = .ok rest ∧
      readNumber negative (Nat.toDigits 10 n ++ rest) =
        if ¬ negative then .ok (.integer n)
        else if n ≠ 0 ∧ n ≤ 9223372036854775808 then .ok (.integer (-n))
        else .ok (.decimal (-(UInt64.ofNat n).toFloat)) := by
  have hdigits : ∀ c ∈ Nat.toDigits 10 n, c.isDigit = true :=
    fun c hc => Decimal.isDigit_of_mem_toDigits hc
  have hzero : ¬ ((Nat.toDigits 10 n).head? = some '0' ∧ 1 < (Nat.toDigits 10 n).length) := by
    rintro ⟨hhead, hlength⟩
    have hn0 := Decimal.head?_toDigits hhead
    rw [hn0] at hlength
    exact absurd hlength (by decide)
  obtain ⟨hwhole, hafter⟩ := digitsOf_append _ rest hdigits fun d hd => (hrest d hd).1
  constructor
  · unfold skipNumber
    simp only [hwhole, hafter]
    rw [if_neg Nat.toDigits_ne_nil, if_neg hzero]
    split
    · next tail hdot => exact absurd rfl hrest.head?_ne
    · unfold skipExponent
      rw [hrest.exponentPart]
  · unfold readNumber
    simp only [hwhole, hafter]
    rw [if_neg Nat.toDigits_ne_nil, if_neg hzero, Decimal.valueOf_toDigits,
      if_pos (by simp [hrest.exponentPart, hrest.head?_ne, hn])]

theorem reads_natural {n : Nat} (hn : n ≤ largest64) :
    Reads (.number (.ok (.integer n))) (integerText n) := by
  have htext : integerText n = Nat.toDigits 10 n := by
    have hpos : ¬ (n : Int) < 0 := by omega
    unfold integerText Decimal.signed
    rw [Int.natAbs_natCast, decide_eq_false hpos]
    rfl
  obtain ⟨c, text, hcons⟩ := List.exists_cons_of_ne_nil (Nat.toDigits_ne_nil (b := 10) (n := n))
  have hc : c ∈ Nat.toDigits 10 n := hcons ▸ List.mem_cons_self
  rw [htext, hcons]
  apply reads_number (Decimal.isDigit_of_mem_toDigits hc)
  intro rest hrest
  obtain ⟨hskip, hread⟩ := readNumber_toDigits hn hrest false
  rw [← hcons]
  exact ⟨hread, hskip⟩

theorem reads_negative {n : Nat} (hpos : n ≠ 0) (hn : n ≤ 9223372036854775808) :
    Reads (.number (.ok (.integer (-n)))) ('-' :: Nat.toDigits 10 n) := by
  intro fuel rest hrest hfuel
  obtain ⟨fuel, rfl⟩ : ∃ k, fuel = k + 1 := ⟨fuel - 1, by rw [List.length_cons] at hfuel; omega⟩
  obtain ⟨hskip, hread⟩ := readNumber_toDigits (Nat.le_trans hn (by decide)) hrest true
  rw [if_neg (by decide), if_pos ⟨hpos, hn⟩] at hread
  rw [List.cons_append, readValue, skipBlanks_cons (by decide)]
  simp only [Char.reduceEq, if_false, if_true, hread, hskip]

/-- Integers of sixty-four bits are read as they are written. -/
theorem reads_integer {n : Int} (hlow : -9223372036854775808 ≤ n)
    (hhigh : n ≤ 9223372036854775807) : Reads (.number (.ok (.integer n))) (integerText n) := by
  by_cases hsign : n < 0
  · have hreads := reads_negative (n := n.natAbs) (by omega) (by omega)
    have hvalue : -(n.natAbs : Int) = n := by omega
    rw [hvalue] at hreads
    unfold integerText Decimal.signed
    rw [decide_eq_true hsign, if_pos rfl]
    exact hreads
  · have hreads := reads_natural (n := n.natAbs) (by unfold largest64; omega)
    have hvalue : (n.natAbs : Int) = n := by omega
    rwa [hvalue] at hreads

theorem le_foldl_digits (digits : List Char) (k : Nat) :
    k ≤ digits.foldl (fun value c => value * 10 + (c.toNat - '0'.toNat)) k := by
  induction digits generalizing k with
  | nil => exact Nat.le_refl k
  | cons c digits ih =>
    have hnext := ih (k * 10 + (c.toNat - '0'.toNat))
    rw [List.foldl_cons]
    omega

/-- Digits that sixty-four bits hold are all taken into the significand. -/
theorem accumulate_eq {digits : List Char} {k n : Nat}
    (h : digits.foldl (fun value c => value * 10 + (c.toNat - '0'.toNat)) k = n)
    (hn : n ≤ largest64) : accumulate k digits = (n, []) := by
  induction digits generalizing k with
  | nil => rw [accumulate, ← h, List.foldl_nil]
  | cons c digits ih =>
    rw [List.foldl_cons] at h
    have hle := le_foldl_digits digits (k * 10 + (c.toNat - '0'.toNat))
    rw [h] at hle
    rw [accumulate, if_pos (Nat.le_trans hle hn)]
    exact ih h

/-- A whole part and places: the digits make one whole number, and as many tens divide it as
there are places. -/
theorem decimalNumber_places {whole places rest : List Char} {c : Nat} (hplaces : places ≠ [])
    (hdigits : ∀ d ∈ places, d.isDigit = true) (hvalue : Decimal.valueOf (whole ++ places) = c)
    (hc : c ≤ largest64) (hrest : Delimits rest) :
    decimalNumber whole ('.' :: (places ++ rest)) =
      .ok (divideByTens (UInt64.ofNat c).toFloat places.length) := by
  obtain ⟨hfraction, hbehind⟩ := digitsOf_append places rest hdigits fun e he => (hrest e he).1
  have hfold : places.foldl (fun value c => value * 10 + (c.toNat - '0'.toNat))
      (Decimal.valueOf whole) = c := by
    rw [← hvalue]
    exact List.foldl_append.symm
  have hsmall : Decimal.valueOf whole ≤ largest64 := by
    have hle := le_foldl_digits places (Decimal.valueOf whole)
    rw [hfold] at hle
    exact Nat.le_trans hle hc
  have hwhole : accumulate 0 whole = (Decimal.valueOf whole, []) := accumulate_eq rfl hsmall
  have hscaled : scaled c (-(places.length : Int)) =
      .ok (divideByTens (UInt64.ofNat c).toFloat places.length) := by
    have hlength := List.length_pos_iff.2 hplaces
    unfold scaled
    simp only
    rw [if_neg (by omega), Int.natAbs_neg, Int.natAbs_natCast]
  unfold decimalNumber
  simp only [hwhole, hfraction, hbehind, accumulate_eq hfold hc, hrest.exponentPart]
  rw [if_neg hplaces, ← hscaled]
  congr 1
  exact Int.zero_sub (places.length : Int)

/-- A digit, a point and places are read as the number they are. -/
theorem reads_decimal {c p : Nat} (hp : 1 ≤ p) (hlength : (Nat.toDigits 10 c).length = p + 1)
    (hc : c ≤ largest64) :
    Reads (.number (.ok (.decimal (divideByTens (UInt64.ofNat c).toFloat p))))
      ((Nat.toDigits 10 c).take 1 ++ '.' :: (Nat.toDigits 10 c).drop 1) := by
  have hdigits : ∀ d ∈ Nat.toDigits 10 c, d.isDigit = true :=
    fun d hd => Decimal.isDigit_of_mem_toDigits hd
  have hvalue : Decimal.valueOf (Nat.toDigits 10 c) = c := Decimal.valueOf_toDigits c
  generalize Nat.toDigits 10 c = digits at *
  obtain ⟨d, places, rfl⟩ : ∃ d places, digits = d :: places := by
    cases digits with
    | nil => cases hlength
    | cons d places => exact ⟨d, places, rfl⟩
  obtain rfl : places.length = p := by
    rw [List.length_cons] at hlength
    omega
  have hplaces : places ≠ [] := List.length_pos_iff.1 hp
  have hfirst := hdigits d List.mem_cons_self
  have hlater : ∀ e ∈ places, e.isDigit = true :=
    fun e he => hdigits e (List.mem_cons_of_mem d he)
  show Reads _ (d :: '.' :: places)
  apply reads_number hfirst
  intro rest hrest
  have hsplit : d :: '.' :: places ++ rest = [d] ++ '.' :: (places ++ rest) := rfl
  obtain ⟨hwhole, hafter⟩ := digitsOf_append [d] ('.' :: (places ++ rest))
    (fun e he => List.mem_singleton.1 he ▸ hfirst) (by rintro _ ⟨⟩; rfl)
  obtain ⟨hfraction, hbehind⟩ := digitsOf_append places rest hlater fun e he => (hrest e he).1
  have hnumber := @decimalNumber_places [d] places rest c hplaces hlater hvalue hc hrest
  constructor
  · unfold readNumber
    rw [hsplit]
    simp only [hwhole, hafter, hnumber]
    rw [if_neg (List.cons_ne_nil d []), if_neg (by simp), if_neg (by simp)]
    rfl
  · unfold skipNumber
    rw [hsplit]
    simp only [hwhole, hafter, hfraction, hbehind]
    rw [if_neg (List.cons_ne_nil d []), if_neg (by simp), if_neg hplaces]
    unfold skipExponent
    rw [hrest.exponentPart]

/-! ## Keys -/

theorem hexQuad_control : ∀ n < 32,
    hexQuad '0' '0' (hexDigit (n / 16)) (hexDigit (n % 16)) = some n := by
  decide

theorem readString_letter {e d : Char} (he : e ≠ 'u') (hd : letterEscape e = some d)
    (s : List Char) :
    readString ('\\' :: e :: s) = prepend d (readString s) ∧
      skipString ('\\' :: e :: s) = skipString s := by
  constructor
  · rw [readString.eq_def]
    simp only
    rw [if_neg (by decide), if_pos trivial, if_neg he, hd]
  · rw [skipString.eq_def]
    simp only
    rw [if_neg (by decide), if_pos trivial, if_neg he, hd]

/-- A character is read as it is escaped. -/
theorem readString_escaped (c : Char) (s : List Char) :
    readString (escaped c ++ s) = prepend c (readString s) ∧
      skipString (escaped c ++ s) = skipString s := by
  unfold escaped
  split_ifs with hquote hslash hfeed hreturn htab hback hform hcontrol
  · subst hquote
    exact readString_letter (by decide) rfl s
  · subst hslash
    exact readString_letter (by decide) rfl s
  · subst hfeed
    exact readString_letter (by decide) rfl s
  · subst hreturn
    exact readString_letter (by decide) rfl s
  · subst htab
    exact readString_letter (by decide) rfl s
  · subst hback
    exact readString_letter (by decide) rfl s
  · subst hform
    exact readString_letter (by decide) rfl s
  · have hread := hexQuad_control c.toNat hcontrol
    have hlow : isLowSurrogate c.toNat = false := decide_eq_false (by omega)
    have hhigh : isHighSurrogate c.toNat = false := decide_eq_false (by omega)
    constructor
    · rw [List.cons_append, readString.eq_def]
      simp only [List.cons_append, List.nil_append, hread, hlow, hhigh]
      simp
    · rw [List.cons_append, skipString.eq_def]
      simp [hread]
  · constructor
    · rw [List.cons_append, List.nil_append, readString.eq_def]
      simp only
      rw [if_neg hquote, if_neg hslash, if_neg hcontrol]
    · rw [List.cons_append, List.nil_append, skipString.eq_def]
      simp only
      rw [if_neg hquote, if_neg hslash, if_neg hcontrol]

theorem readString_quoted (s : List Char) (rest : List Char) :
    readString (s.flatMap escaped ++ '"' :: rest) = .ok s ∧
      skipString (s.flatMap escaped ++ '"' :: rest) = .ok rest := by
  induction s with
  | nil =>
    constructor
    · rw [List.flatMap_nil, List.nil_append, readString.eq_def]
      rfl
    · rw [List.flatMap_nil, List.nil_append, skipString.eq_def]
      rfl
  | cons c s ih =>
    rw [List.flatMap_cons, List.append_assoc]
    obtain ⟨hread, hskip⟩ := readString_escaped c (s.flatMap escaped ++ '"' :: rest)
    rw [hread, hskip, ih.1, ih.2]
    exact ⟨rfl, rfl⟩

/-- A quoted text is read as it is written. -/
theorem reads_quoted (s : String) : Reads (.string (.ok s.toList)) (quoted s) := by
  intro fuel rest _ hfuel
  unfold quoted at hfuel ⊢
  obtain ⟨fuel, rfl⟩ : ∃ k, fuel = k + 1 := ⟨fuel - 1, by rw [List.length_cons] at hfuel; omega⟩
  obtain ⟨hread, hskip⟩ := readString_quoted s.toList rest
  rw [List.cons_append, List.append_assoc, List.singleton_append, readValue,
    skipBlanks_cons (by decide)]
  simp only [Char.reduceEq, if_false, if_true, hread, hskip]

/-! ## Constants -/

/-- A constant that is told by its first character is read as it is written. -/
theorem reads_constant {o : Outline} (c : Char) (word : List Char)
    (h : ∀ fuel rest, readValue (fuel + 1) (c :: word ++ rest) = readConstant o word (word ++ rest)) :
    Reads o (c :: word) := by
  have hword : ∀ word rest : List Char, readWord word (word ++ rest) = .ok rest := by
    intro word rest
    induction word with
    | nil => rfl
    | cons w word ih => rw [List.cons_append, readWord, if_pos rfl, ih]
  intro fuel rest _ hfuel
  obtain ⟨fuel, rfl⟩ : ∃ k, fuel = k + 1 := ⟨fuel - 1, by rw [List.length_cons] at hfuel; omega⟩
  rw [h, readConstant, hword]

theorem reads_boolean (b : Bool) : Reads (.boolean b) (booleanText b) := by
  cases b with
  | true => exact reads_constant 't' "rue".toList fun fuel rest => rfl
  | false => exact reads_constant 'f' "alse".toList fun fuel rest => rfl

end ResponsiveGrid.Json
