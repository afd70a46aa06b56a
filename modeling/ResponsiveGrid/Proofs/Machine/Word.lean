import ResponsiveGrid.Decimal.Rounding
import ResponsiveGrid.Word
set_option autoImplicit false

/-!
# Machine: arithmetic in words

Computing with numbers of any size leaves out what a machine can do wrong.  Here are the
operations on words of thirty-two and sixty-four bits, on positions in lists and on binary64
numbers that grid systems are computed with.  Each of them says where it does not give the
number that is meant: a `Trap`, where the machine stops, wraps around or saturates.  Beside
each operation stands the lemma that says when it does give this number.
-/

namespace ResponsiveGrid.Machine

/-- Why an operation does not give the number that is meant. -/
inductive Trap where
  /-- a whole number does not fit into its word -/
  | overflow
  /-- a list has nothing at a position -/
  | outOfBounds
  | divisionByZero
  /-- a whole number is no binary64 number -/
  | inexact
  /-- a binary64 number is beyond the words -/
  | saturated
  /-- a system that there has to be is refused -/
  | refused
  deriving DecidableEq, Repr, Inhabited

/-- A computation that can end in a trap. -/
abbrev Checked : Type → Type := Except Trap

@[simp] theorem ok_bind {α β : Type} (a : α) (f : α → Checked β) :
    ((.ok a : Checked α) >>= f) = f a := rfl

@[simp] theorem pure_eq_ok {α : Type} (a : α) : (pure a : Checked α) = .ok a := rfl

/-! ## Words without a sign -/

/-- The sum of two words, when the words reach up to `largest`. -/
def add (largest a b : Nat) : Checked Nat :=
  if a + b ≤ largest then .ok (a + b) else .error .overflow

/-- The difference of two words. -/
def sub (a b : Nat) : Checked Nat := if b ≤ a then .ok (a - b) else .error .overflow

theorem add_eq {largest a b : Nat} (h : a + b ≤ largest) :
    add largest a b = .ok (a + b) := if_pos h

example : add largest32 largest32 1 = .error .overflow := rfl

theorem sub_eq {a b : Nat} (h : b ≤ a) : sub a b = .ok (a - b) := if_pos h

/-! ## Positions in lists -/

/-- What a list has at a position. -/
def fetch {α : Type} (l : List α) (index : Nat) : Checked α :=
  match l[index]? with
  | some a => .ok a
  | none => .error .outOfBounds

/-- The list with something else at a position. -/
def put {α : Type} (l : List α) (index : Nat) (a : α) : Checked (List α) :=
  if index < l.length then .ok (l.set index a) else .error .outOfBounds

/-- The list without what it has at a position. -/
def erase {α : Type} (l : List α) (index : Nat) : Checked (List α) :=
  if index < l.length then .ok (l.eraseIdx index) else .error .outOfBounds

theorem fetch_eq {α : Type} {l : List α} {index : Nat} {a : α} (h : l[index]? = some a) :
    fetch l index = .ok a := by
  unfold fetch
  rw [h]

theorem put_eq {α : Type} {l : List α} {index : Nat} (h : index < l.length) (a : α) :
    put l index a = .ok (l.set index a) := if_pos h

theorem erase_eq {α : Type} {l : List α} {index : Nat} (h : index < l.length) :
    erase l index = .ok (l.eraseIdx index) := if_pos h

/-! ## Words with a sign -/

/-- A whole number as a word of sixty-four bits with a sign. -/
def signed (n : Int) : Checked Int := if IsSigned n then .ok n else .error .overflow

theorem signed_eq {n : Int} (h : IsSigned n) : signed n = .ok n := if_pos h

/-! ## Binary64 numbers -/

/-- A whole number has no more than the fifty-three binary digits of a binary64 number. -/
def IsWhole (n : Int) : Prop := -9007199254740992 ≤ n ∧ n ≤ 9007199254740992

instance (n : Int) : Decidable (IsWhole n) := inferInstanceAs (Decidable (_ ∧ _))

/-- A whole number as a binary64 number. -/
def toReal (n : Int) : Checked Rat := if IsWhole n then .ok n else .error .inexact

/-- The quotient of two binary64 numbers. -/
def divide (x y : Rat) : Checked Rat :=
  if y = 0 then .error .divisionByZero else .ok (Decimal.toBinary64 (x / y))

/-- The whole number nearest to a binary64 number, halves going up, as a word of sixty-four
bits with a sign. -/
def roundHalfUp (x : Rat) : Checked Int :=
  let n := (Decimal.toBinary64 (x + 1 / 2)).floor
  if IsSigned n then .ok n else .error .saturated

theorem toReal_eq {n : Int} (h : IsWhole n) : toReal n = .ok (n : Rat) := if_pos h

theorem divide_eq {x y : Rat} (h : y ≠ 0) : divide x y = .ok (Decimal.toBinary64 (x / y)) :=
  if_neg h

/-- A quotient that is rounded to a word of sixty-four bits is the quotient of layouts. -/
theorem roundHalfUp_eq {n : Int} {d : Nat} (h : IsSigned (Decimal.quotientHalfUp n d)) :
    roundHalfUp (Decimal.toBinary64 ((n : Rat) / (d : Rat))) = .ok (Decimal.quotientHalfUp n d) :=
  if_pos h

end ResponsiveGrid.Machine
