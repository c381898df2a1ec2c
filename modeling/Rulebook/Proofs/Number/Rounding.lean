import Mathlib.Tactic.Ring
import Rulebook.Number.Double

/-!
How whole numbers are rounded to doubles.

A whole number keeps its first 53 bits, and the bits behind them decide whether the last one goes
up. Nothing else plays a part, so a number is rounded like any power of two times it, and the units
of 2^-1074 can be left out.

* `Double.divHalfEven_eq`: a quotient goes up behind a half, and at a half above an odd number.
* `Double.roundUnits_mul_two_pow`: rounding does not depend on the unit.
* `Double.Short`: the numbers that need no more than 53 bits, which are those that rounding yields
  and those that it keeps.
* `Double.roundUnits_front`: rounding a number against rounding its front part.
* `Double.mulNat_ofWhole`, `Double.addNat_ofWhole`: products and sums in whole numbers.
-/

namespace Rulebook.Double

/-! ### Quotients -/

/-- Whether rounding a quotient goes up. -/
def RoundsUp (num den : Nat) : Prop :=
  den < 2 * (num % den) ∨ 2 * (num % den) = den ∧ num / den % 2 = 1

instance (num den : Nat) : Decidable (RoundsUp num den) := inferInstanceAs (Decidable (_ ∨ _))

theorem divHalfEven_eq (num den : Nat) :
    divHalfEven num den = num / den + if RoundsUp num den then 1 else 0 := by
  have stays : (2 * (num % den) < den ∨ 2 * (num % den) = den ∧ num / den % 2 = 0) ↔
      ¬RoundsUp num den := by
    unfold RoundsUp
    omega
  unfold divHalfEven
  simp only [Bool.or_eq_true, Bool.and_eq_true, decide_eq_true_eq, beq_iff_eq, stays]
  by_cases up : RoundsUp num den
  · simp only [up, not_true, if_true, if_false]
  · simp only [up, not_false_eq_true, if_true, if_false, Nat.add_zero]

theorem roundsUp_mul_right {num den c : Nat} (positive : 0 < c) :
    RoundsUp (num * c) (den * c) ↔ RoundsUp num den := by
  have rest : 2 * (num * c % (den * c)) = 2 * (num % den) * c := by
    rw [Nat.mul_mod_mul_right, Nat.mul_assoc]
  unfold RoundsUp
  rw [rest, Nat.mul_div_mul_right _ _ positive, Nat.mul_lt_mul_right positive,
    Nat.mul_right_cancel_iff positive]

theorem divHalfEven_mul_right (num den : Nat) {c : Nat} (positive : 0 < c) :
    divHalfEven (num * c) (den * c) = divHalfEven num den := by
  rw [divHalfEven_eq, divHalfEven_eq, Nat.mul_div_mul_right _ _ positive]
  simp only [roundsUp_mul_right positive]

/-- Something behind a number changes its rounding only at a half above an even number. -/
theorem roundsUp_front {front c rest den : Nat} (small : rest < c) (even : den % 2 = 0) :
    RoundsUp (front * c + rest) (den * c) ↔ RoundsUp front den ∨
      2 * (front % den) = den ∧ front / den % 2 = 0 ∧ rest ≠ 0 := by
  have positive : 0 < c := Nat.zero_lt_of_lt small
  have head : (front * c + rest) / c = front := by
    rw [Nat.mul_comm, Nat.mul_add_div positive, Nat.div_eq_of_lt small, Nat.add_zero]
  have tail : (front * c + rest) % c = rest := by
    rw [Nat.mul_comm, Nat.mul_add_mod, Nat.mod_eq_of_lt small]
  have quotient : (front * c + rest) / (den * c) = front / den := by
    rw [Nat.mul_comm den, ← Nat.div_div_eq_div_mul, head]
  have remainder : (front * c + rest) % (den * c) = front % den * c + rest := by
    rw [Nat.mul_comm den, Nat.mod_mul, head, tail, Nat.add_comm, Nat.mul_comm c]
  -- The divisor is twice `half`; with `m` below, at or above it the products are apart by `c`.
  obtain ⟨half, rfl⟩ : ∃ half, den = 2 * half := ⟨den / 2, by omega⟩
  unfold RoundsUp
  rw [quotient, remainder]
  generalize front % (2 * half) = m
  generalize front / (2 * half) = q
  rcases Nat.lt_trichotomy m half with below | rfl | above
  · have apart : (m + 1) * c ≤ half * c := Nat.mul_le_mul_right c below
    rw [Nat.add_mul, Nat.one_mul] at apart
    rw [Nat.mul_assoc]
    omega
  · rw [Nat.mul_assoc]
    omega
  · have apart : (half + 1) * c ≤ m * c := Nat.mul_le_mul_right c above
    rw [Nat.add_mul, Nat.one_mul] at apart
    rw [Nat.mul_assoc]
    omega

/-! ### Whole numbers -/

/-- The distance between the doubles around a whole number. -/
def step (n : Nat) : Nat := 2 ^ surplusBits n

theorem step_pos (n : Nat) : 0 < step n := Nat.two_pow_pos _

theorem roundUnits_one (n : Nat) :
    roundUnits n 1 = (n / step n + if RoundsUp n (step n) then 1 else 0) * step n := by
  change divHalfEven n (1 * step (n / 1)) * step (n / 1) = _
  rw [Nat.div_one, Nat.one_mul, divHalfEven_eq]

/-- A quotient that is whole is rounded like a whole number. -/
theorem roundUnits_mul_right (n : Nat) {c : Nat} (positive : 0 < c) :
    roundUnits (n * c) c = roundUnits n 1 := by
  change divHalfEven (n * c) (c * step (n * c / c)) * step (n * c / c) =
    divHalfEven n (1 * step (n / 1)) * step (n / 1)
  rw [Nat.mul_div_cancel _ positive, Nat.div_one, Nat.one_mul, Nat.mul_comm c,
    divHalfEven_mul_right _ _ positive]

theorem log2_mul_two_pow_add {n k rest : Nat} (some : n ≠ 0) (small : rest < 2 ^ k) :
    Nat.log2 (n * 2 ^ k + rest) = Nat.log2 n + k := by
  have low : 2 ^ Nat.log2 n ≤ n := Nat.log2_self_le some
  have high : n < 2 ^ (Nat.log2 n + 1) := Nat.lt_log2_self
  have positive : 0 < 2 ^ k := Nat.two_pow_pos k
  have some' : n * 2 ^ k + rest ≠ 0 := by
    have := Nat.mul_pos (Nat.pos_of_ne_zero some) positive
    omega
  rw [Nat.log2_eq_iff some', Nat.add_right_comm, Nat.pow_add, Nat.pow_add _ _ k]
  constructor
  · calc 2 ^ Nat.log2 n * 2 ^ k ≤ n * 2 ^ k := Nat.mul_le_mul_right _ low
      _ ≤ n * 2 ^ k + rest := Nat.le_add_right _ _
  · calc n * 2 ^ k + rest < (n + 1) * 2 ^ k := by rw [Nat.add_mul, Nat.one_mul]; omega
      _ ≤ 2 ^ (Nat.log2 n + 1) * 2 ^ k := Nat.mul_le_mul_right _ high

theorem log2_le_of_lt {n k : Nat} (small : n < 2 ^ (k + 1)) : Nat.log2 n ≤ k := by
  by_cases zero : n = 0
  · simp [zero]
  · exact Nat.le_of_lt_succ ((Nat.log2_lt zero).mpr small)

theorem le_log2_of_le {n k : Nat} (large : 2 ^ k ≤ n) : k ≤ Nat.log2 n :=
  (Nat.le_log2 (Nat.ne_of_gt (Nat.lt_of_lt_of_le (Nat.two_pow_pos k) large))).mpr large

theorem step_of_lt {n : Nat} (small : n < 2 ^ 53) : step n = 1 := by
  have := log2_le_of_lt small
  rw [step, surplusBits, Nat.sub_eq_zero_of_le this, Nat.pow_zero]

theorem step_even {n : Nat} (large : 2 ^ 53 ≤ n) : step n % 2 = 0 := by
  have := le_log2_of_le large
  obtain ⟨k, surplus⟩ : ∃ k, surplusBits n = k + 1 := ⟨Nat.log2 n - 53, by unfold surplusBits; omega⟩
  rw [step, surplus, Nat.pow_succ, Nat.mul_mod_left]

theorem step_front {front k rest : Nat} (large : 2 ^ 52 ≤ front) (small : rest < 2 ^ k) :
    step (front * 2 ^ k + rest) = step front * 2 ^ k := by
  have bits := le_log2_of_le large
  have some : front ≠ 0 := Nat.ne_of_gt (Nat.lt_of_lt_of_le (Nat.two_pow_pos 52) large)
  rw [step, step, surplusBits, surplusBits, log2_mul_two_pow_add some small, ← Nat.pow_add,
    Nat.sub_add_comm bits]

/-! ### Short numbers -/

/-- A number that needs no more than 53 bits, the zeros at its end apart. -/
def Short (n : Nat) : Prop := step n ∣ n

instance (n : Nat) : Decidable (Short n) := inferInstanceAs (Decidable (_ ∣ _))

theorem short_of_lt {n : Nat} (small : n < 2 ^ 53) : Short n := by
  rw [Short, step_of_lt small]
  exact Nat.one_dvd n

/-- Zeros at its end do not make a number longer. -/
theorem Short.mul_two_pow {n : Nat} (short : Short n) (k : Nat) : Short (n * 2 ^ k) := by
  by_cases large : 2 ^ 52 ≤ n
  · have same := step_front large (Nat.two_pow_pos k)
    rw [Nat.add_zero] at same
    rw [Short, same]
    exact Nat.mul_dvd_mul_right short _
  · by_cases zero : n = 0
    · simp [Short, zero]
    · -- Fewer than 53 bits are moved up by `k` places, so at most `k` of them are zeros too many.
      have bits : Nat.log2 n ≤ 51 := log2_le_of_lt (Nat.lt_of_not_le large)
      have moved : Nat.log2 (n * 2 ^ k) = Nat.log2 n + k := by
        simpa using log2_mul_two_pow_add zero (Nat.two_pow_pos k)
      have fewer : step (n * 2 ^ k) ∣ 2 ^ k := by
        rw [step, surplusBits, moved]
        exact Nat.pow_dvd_pow 2 (by omega)
      exact Nat.dvd_mul_left_of_dvd fewer n

theorem Short.not_roundsUp {n : Nat} (short : Short n) : ¬RoundsUp n (step n) := by
  have positive := step_pos n
  have none : n % step n = 0 := Nat.mod_eq_zero_of_dvd short
  unfold RoundsUp
  omega

/-- **Rounding keeps short numbers.** -/
theorem Short.roundUnits_eq {n : Nat} (short : Short n) : roundUnits n 1 = n := by
  rw [roundUnits_one, if_neg short.not_roundsUp, Nat.add_zero, Nat.div_mul_cancel short]

theorem div_step_lt (n : Nat) : n / step n < 2 ^ 53 := by
  have high : n < 2 ^ (Nat.log2 n + 1) := Nat.lt_log2_self
  have enough : 2 ^ (Nat.log2 n + 1) ≤ 2 ^ (53 + surplusBits n) :=
    Nat.pow_le_pow_right (by decide) (by unfold surplusBits; omega)
  rw [Nat.div_lt_iff_lt_mul (step_pos n), step, ← Nat.pow_add]
  exact Nat.lt_of_lt_of_le high enough

/-- **Rounding yields short numbers.** -/
theorem short_roundUnits (n : Nat) : Short (roundUnits n 1) := by
  have atMost : n / step n + (if RoundsUp n (step n) then 1 else 0) ≤ 2 ^ 53 := by
    have := div_step_lt n
    split <;> omega
  rw [roundUnits_one]
  refine Short.mul_two_pow ?_ _
  rcases Nat.lt_or_eq_of_le atMost with small | most
  · exact short_of_lt small
  · rw [most]
    decide +kernel

/-- **Rounding does not depend on the unit.** -/
theorem roundUnits_mul_two_pow (n k : Nat) : roundUnits (n * 2 ^ k) 1 = roundUnits n 1 * 2 ^ k := by
  by_cases large : 2 ^ 53 ≤ n
  · have same := step_front (Nat.le_trans (by decide) large) (Nat.two_pow_pos k)
    rw [Nat.add_zero] at same
    simp only [roundUnits_one, same, roundsUp_mul_right (Nat.two_pow_pos k)]
    rw [Nat.mul_div_mul_right _ _ (Nat.two_pow_pos k), Nat.mul_assoc]
  · have short := short_of_lt (Nat.lt_of_not_le large)
    rw [(short.mul_two_pow k).roundUnits_eq, short.roundUnits_eq]

/-- A number at a half above an even number of its own first 53 bits. -/
def IsTie (n : Nat) : Prop := 2 * (n % step n) = step n ∧ n / step n % 2 = 0

instance (n : Nat) : Decidable (IsTie n) := inferInstanceAs (Decidable (_ ∧ _))

theorem Short.not_isTie {n : Nat} (short : Short n) : ¬IsTie n := by
  have positive := step_pos n
  have none : n % step n = 0 := Nat.mod_eq_zero_of_dvd short
  unfold IsTie
  omega

theorem IsTie.not_roundsUp {n : Nat} (tie : IsTie n) : ¬RoundsUp n (step n) := by
  obtain ⟨half, even⟩ := tie
  unfold RoundsUp
  omega

/-- A tie is rounded down. -/
theorem IsTie.roundUnits_eq {n : Nat} (tie : IsTie n) :
    roundUnits n 1 = n / step n * step n := by
  rw [roundUnits_one, if_neg tie.not_roundsUp, Nat.add_zero]

/-- The first 54 bits of a tie end in 0 and 1, and the others are zero. -/
theorem isTie_iff {n : Nat} (large : 2 ^ 53 ≤ n) :
    IsTie n ↔ n / 2 ^ (Nat.log2 n - 53) % 4 = 1 ∧ n % 2 ^ (Nat.log2 n - 53) = 0 := by
  have logs := le_log2_of_le large
  have wide : step n = 2 ^ (Nat.log2 n - 53) * 2 := by
    rw [step, surplusBits, ← Nat.pow_succ]
    congr 1
    omega
  have positive := Nat.two_pow_pos (Nat.log2 n - 53)
  unfold IsTie
  rw [wide, Nat.mod_mul, ← Nat.div_div_eq_div_mul]
  generalize 2 ^ (Nat.log2 n - 53) = unit at positive
  have below := Nat.mod_lt n positive
  rcases Nat.mod_two_eq_zero_or_one (n / unit) with even | odd
  · rw [even]
    omega
  · rw [odd]
    omega

/-- **Rounding a number is rounding its front part,** unless the front part is a tie and what is
behind it makes it more than that. -/
theorem roundUnits_front {front k rest : Nat} (large : 2 ^ 53 ≤ front) (small : rest < 2 ^ k) :
    roundUnits (front * 2 ^ k + rest) 1 =
      roundUnits front 1 * 2 ^ k + if IsTie front ∧ rest ≠ 0 then step front * 2 ^ k else 0 := by
  have wide := step_front (Nat.le_trans (by decide) large) small
  have quotient : (front * 2 ^ k + rest) / (step front * 2 ^ k) = front / step front := by
    rw [Nat.mul_comm (step front), ← Nat.div_div_eq_div_mul, Nat.mul_comm front,
      Nat.mul_add_div (Nat.two_pow_pos k), Nat.div_eq_of_lt small, Nat.add_zero]
  have up : RoundsUp (front * 2 ^ k + rest) (step front * 2 ^ k) ↔
      RoundsUp front (step front) ∨ IsTie front ∧ rest ≠ 0 := by
    rw [roundsUp_front small (step_even large), IsTie, and_assoc]
  simp only [roundUnits_one, wide, quotient, up]
  by_cases more : IsTie front ∧ rest ≠ 0
  · rw [if_pos (.inr more), if_neg more.1.not_roundsUp, if_pos more]
    ring
  · simp only [more, or_false, if_false]
    ring

/-! ### Doubles of whole numbers -/

/-- The first whole number that is beyond all finite doubles. -/
def wholeLimit : Nat := Nat.pow 2 1024

/-- The double that is a short number. -/
def ofWhole (n : Nat) : Double :=
  if n < wholeLimit then finite ((n * oneUnits : Nat) : Int) else infinity

theorem exists_oneUnits_eq : ∃ k, oneUnits = 2 ^ k := ⟨1074, by decide +kernel⟩

theorem exists_wholeLimit_eq : ∃ k, wholeLimit = 2 ^ k := ⟨1024, by decide +kernel⟩

theorem overflowUnits_eq : overflowUnits = wholeLimit * oneUnits := by decide +kernel

theorem oneUnits_pos : 0 < oneUnits := by decide +kernel

/-- No finite double stands for two numbers. -/
theorem eq_of_ofWhole_eq {m n : Nat} (finite : m < wholeLimit) (same : ofWhole m = ofWhole n) :
    m = n := by
  unfold ofWhole at same
  rw [if_pos finite] at same
  split at same
  · have units := Int.ofNat_inj.mp (Double.finite.inj same)
    exact Nat.eq_of_mul_eq_mul_right oneUnits_pos units
  · cases same

theorem ofWhole_of_le {n : Nat} (beyond : wholeLimit ≤ n) : ofWhole n = infinity :=
  if_neg (Nat.not_lt.mpr beyond)

/-- Units of a whole number are rounded as the number is. -/
theorem ofRatio_whole (n : Nat) :
    ofRatio false (n * oneUnits) 1 = ofWhole (roundUnits n 1) := by
  have rounded : roundUnits (n * oneUnits) 1 = roundUnits n 1 * oneUnits := by
    obtain ⟨k, unit⟩ := exists_oneUnits_eq
    rw [unit, roundUnits_mul_two_pow]
  unfold ofRatio ofWhole
  simp only [rounded, overflowUnits_eq, Nat.mul_lt_mul_right oneUnits_pos, Bool.false_eq_true,
    if_false]

theorem ofUnits_whole (n : Nat) :
    ofUnits ((n * oneUnits : Nat) : Int) = ofWhole (roundUnits n 1) := by
  have notNegative : decide (((n * oneUnits : Nat) : Int) < 0) = false :=
    decide_eq_false (Int.not_lt.mpr (Int.natCast_nonneg _))
  rw [ofUnits, notNegative, Int.natAbs_natCast, ofRatio_whole]

/-- Cutting a number to its first 53 bits does not go below a power of two. -/
theorem two_pow_le_cut {n k : Nat} (large : 2 ^ k ≤ n) : 2 ^ k ≤ n / step n * step n := by
  have most : 2 ^ k ≤ 2 ^ Nat.log2 n := Nat.pow_le_pow_right (by decide) (le_log2_of_le large)
  have some : n ≠ 0 := Nat.ne_of_gt (Nat.lt_of_lt_of_le (Nat.two_pow_pos k) large)
  obtain ⟨q, whole⟩ : step n ∣ 2 ^ Nat.log2 n := Nat.pow_dvd_pow 2 (Nat.sub_le _ _)
  have front : q ≤ n / step n := by
    rw [Nat.le_div_iff_mul_le (step_pos n), Nat.mul_comm, ← whole]
    exact Nat.log2_self_le some
  rw [whole, Nat.mul_comm] at most
  exact Nat.le_trans most (Nat.mul_le_mul_right _ front)

theorem cut_le_roundUnits (n : Nat) : n / step n * step n ≤ roundUnits n 1 := by
  rw [roundUnits_one]
  exact Nat.mul_le_mul_right _ (Nat.le_add_right _ _)

/-- Rounding does not go below a power of two. -/
theorem two_pow_le_roundUnits {n k : Nat} (large : 2 ^ k ≤ n) : 2 ^ k ≤ roundUnits n 1 :=
  Nat.le_trans (two_pow_le_cut large) (cut_le_roundUnits n)

theorem wholeLimit_le_cut {n : Nat} (beyond : wholeLimit ≤ n) :
    wholeLimit ≤ n / step n * step n := by
  obtain ⟨k, limit⟩ := exists_wholeLimit_eq
  rw [limit] at beyond ⊢
  exact two_pow_le_cut beyond

theorem ofWhole_roundUnits_of_le {n : Nat} (beyond : wholeLimit ≤ n) :
    ofWhole (roundUnits n 1) = infinity :=
  ofWhole_of_le (Nat.le_trans (wholeLimit_le_cut beyond) (cut_le_roundUnits n))

/-- **A product is rounded once,** and what is infinite stays infinite. -/
theorem mulNat_ofWhole (n : Nat) {k : Nat} (positive : 0 < k) :
    (ofWhole n).mulNat k = ofWhole (roundUnits (n * k) 1) := by
  by_cases finite : n < wholeLimit
  · have units : ((n * oneUnits : Nat) : Int) * (k : Int) = ((n * k * oneUnits : Nat) : Int) := by
      push_cast
      ring
    rw [ofWhole, if_pos finite, mulNat, units, ofUnits_whole]
  · have beyond : wholeLimit ≤ n * k :=
      Nat.le_trans (Nat.le_of_not_lt finite) (Nat.le_mul_of_pos_right n positive)
    rw [ofWhole_roundUnits_of_le beyond, ofWhole_of_le (Nat.le_of_not_lt finite)]
    rfl

/-- **A sum is rounded once,** and what is infinite stays infinite. -/
theorem addNat_ofWhole (n k : Nat) : (ofWhole n).addNat k = ofWhole (roundUnits (n + k) 1) := by
  by_cases finite : n < wholeLimit
  · have units : ((n * oneUnits : Nat) : Int) + (k : Int) * (oneUnits : Int) =
        (((n + k) * oneUnits : Nat) : Int) := by
      push_cast
      ring
    rw [ofWhole, if_pos finite, addNat, units, ofUnits_whole]
  · have beyond : wholeLimit ≤ n + k := Nat.le_trans (Nat.le_of_not_lt finite) (Nat.le_add_right n k)
    rw [ofWhole_roundUnits_of_le beyond, ofWhole_of_le (Nat.le_of_not_lt finite)]
    rfl

end Rulebook.Double
