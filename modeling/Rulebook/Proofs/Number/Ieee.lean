import Mathlib.Algebra.Order.Ring.Int
import Rulebook.Proofs.Condition.Sight
import Rulebook.Proofs.Number.Notation
import Rulebook.Proofs.Number.Rounding

/-!
Arithmetic that can fail to give a number.

The doubles of the rule language are values, all of which can be compared. Arithmetic of doubles has
one more outcome: zero times infinity, and the sum of opposite infinities, is no number, and every
comparison with that is false. Here the digits of a literal are put together in this arithmetic. They
may overflow, and go on from there; but infinity is never multiplied by zero, since a base is not
zero, and never meets its opposite, so a number comes out, and it is the one of the rule language.

* `Ieee`: a double or no number, with products, sums and comparisons.
* `Literal.reckon?_eq`: what literals come to in this arithmetic.
* `Condition.holds_number`: conditions on numbers compare in this arithmetic.
-/

namespace Rulebook

/-- What an operation on doubles gives: a double, or no number. -/
inductive Ieee where
  | nan
  | value (x : Double)
  deriving DecidableEq, Repr

namespace Ieee

/-- The product, rounded once. Zero times infinity is no number. -/
def mul : Ieee → Ieee → Ieee
  | value (.finite a), value (.finite b) =>
    value (.ofRatio (a * b < 0) (a * b).natAbs Double.oneUnits)
  | value x, value y =>
    if x = .zero ∨ y = .zero then nan
    else if xor (x.lt .zero) (y.lt .zero) then value .negativeInfinity
    else value .infinity
  | _, _ => nan

/-- The sum, rounded once. The sum of opposite infinities is no number. -/
def add : Ieee → Ieee → Ieee
  | value (.finite a), value (.finite b) => value (.ofUnits (a + b))
  | value (.finite _), value y => value y
  | value x, value (.finite _) => value x
  | value x, value y => if x = y then value x else nan
  | _, _ => nan

/-- Whether one is smaller; what is no number is neither smaller nor greater. -/
def lt : Ieee → Ieee → Bool
  | value x, value y => x.lt y
  | _, _ => false

/-- Whether both are the same number; what is no number is not even the same as itself. -/
def eq : Ieee → Ieee → Bool
  | value x, value y => x = y
  | _, _ => false

/-- A whole number. -/
def ofNat (n : Nat) : Ieee := value (.ofUnits ((n * Double.oneUnits : Nat) : Int))

theorem ofNat_of_lt {n : Nat} (small : n < 2 ^ 53) :
    ofNat n = value (.finite ((n * Double.oneUnits : Nat) : Int)) := by
  have finite : n < Double.wholeLimit := Nat.lt_trans small (by decide +kernel)
  rw [ofNat, Double.ofUnits_whole, (Double.short_of_lt small).roundUnits_eq, Double.ofWhole,
    if_pos finite]

/-- A product with a whole number that is not zero is a number. -/
theorem mul_ofNat (x : Double) {k : Nat} (some : 0 < k) (small : k < 2 ^ 53) :
    (value x).mul (ofNat k) = value (x.mulNat k) := by
  have units : 0 < k * Double.oneUnits := Nat.mul_pos some Double.oneUnits_pos
  have size (a : Int) : (a * ((k * Double.oneUnits : Nat) : Int)).natAbs =
      (a * (k : Int)).natAbs * Double.oneUnits := by
    rw [Int.natAbs_mul, Int.natAbs_mul, Int.natAbs_natCast, Int.natAbs_natCast, Nat.mul_assoc]
  have sign (a : Int) : a * ((k * Double.oneUnits : Nat) : Int) < 0 ↔ a * (k : Int) < 0 := by
    rw [← Int.not_le, ← Int.not_le, mul_nonneg_iff_of_pos_right (Int.natCast_pos.mpr units),
      mul_nonneg_iff_of_pos_right (Int.natCast_pos.mpr some)]
  rw [ofNat_of_lt small]
  cases x with
  | finite a =>
    simp only [mul, Double.mulNat, Double.ofUnits, Double.ofRatio, size, sign,
      Double.roundUnits_mul_right _ Double.oneUnits_pos]
  | _ =>
    generalize k * Double.oneUnits = whole at units
    have nonzero : whole ≠ 0 := Nat.ne_of_gt units
    simp [mul, Double.zero, Double.lt, Double.mulNat, nonzero]

/-- A sum with a whole number is a number. -/
theorem add_ofNat (x : Double) {k : Nat} (small : k < 2 ^ 53) :
    (value x).add (ofNat k) = value (x.addNat k) := by
  rw [ofNat_of_lt small]
  cases x with
  | finite a => simp only [add, Double.addNat, Int.natCast_mul]
  | negativeInfinity => rfl
  | infinity => rfl

end Ieee

namespace Literal

/-- Puts the digits of a whole number together from the left. -/
def reckonDigits? (base : Nat) (acc : Ieee) : List Char → Option Ieee
  | [] => some acc
  | c :: rest => do
    let digit ← Decimal.digitValue? base c
    reckonDigits? base ((acc.mul (.ofNat base)).add (.ofNat digit)) rest

/-- What a text without the blanks around it comes to: zero, an infinity, digits of a base put
together, or the double nearest to an exact decimal. -/
def reckonTrimmed? (text : List Char) : Option Ieee :=
  if text.isEmpty then some (.value .zero)
  else match infinity? text with
    | some x => some (.value x)
    | none =>
      match prefixed? text with
      | some (base, digits) =>
        if digits.isEmpty then none else reckonDigits? base (.value .zero) digits
      | none => (Decimal.ofText? text).map fun d => .value d.toDouble

/-- What a value comes to. -/
def reckon? (value : String) : Option Ieee := reckonTrimmed? (Text.trim value.toList)

/-- Digits come to a number, however large it gets. -/
theorem reckonDigits?_eq {base : Nat} (some : 0 < base) (small : base < 2 ^ 53) (x : Double)
    (digits : List Char) :
    reckonDigits? base (.value x) digits = (accumulate? base x digits).map .value := by
  induction digits generalizing x with
  | nil => rfl
  | cons c rest ih =>
    cases digit : Decimal.digitValue? base c with
    | none => simp [reckonDigits?, accumulate?, digit]
    | some d =>
      have atMost : d < 2 ^ 53 := Nat.lt_trans (lt_of_digitValue? digit) small
      simp only [reckonDigits?, accumulate?, digit, Option.bind_eq_bind, Option.bind_some,
        Ieee.mul_ofNat x some small, Ieee.add_ofNat _ atMost, ih]

theorem reckonTrimmed?_eq (text : List Char) :
    reckonTrimmed? text = (ofTrimmed? text).map .value := by
  unfold reckonTrimmed? ofTrimmed?
  by_cases empty : text.isEmpty = true
  · simp [empty]
  cases infinite : infinity? text with
  | some x => simp [empty]
  | none =>
    cases announced : prefixed? text with
    | none => simp [empty, Function.comp_def]
    | some p =>
      obtain ⟨base, digits⟩ := p
      obtain ⟨mark, announces, rfl⟩ := prefixed?_eq_some_iff.mp announced
      have bounds : 0 < base ∧ base < 2 ^ 53 := by cases announces <;> decide
      have summed := reckonDigits?_eq bounds.1 bounds.2 .zero digits
      by_cases nothing : digits.isEmpty = true
      · simp [nothing]
      · simp [nothing, summed]

/-- **Literals come to numbers,** in arithmetic that could come to none. -/
theorem reckon?_eq (value : String) : reckon? value = (toNumber? value).map .value :=
  reckonTrimmed?_eq _

end Literal

/-- Whether the comparison holds between what two operations give. -/
def Comparison.compares (c : Comparison) (left right : Ieee) : Bool :=
  match c with
  | greater => right.lt left
  | less => left.lt right
  | equal => left.eq right

/-- **Conditions on numbers compare as arithmetic of doubles does.** -/
theorem Condition.holds_number (c : Condition) (n : Json.Number) :
    c.holds (some (.number n)) =
      (Literal.reckon? c.value).any (c.comparison.compares (.value n.toDouble) ·) := by
  rw [holds_eq_meets, Literal.reckon?_eq, Option.any_map]
  change (Literal.toNumber? c.value).any _ = _
  congr 1

end Rulebook
