import Mathlib.Tactic.IntervalCases
import Rulebook.Number.Literal
import Rulebook.Proofs.Condition.Printing
import Rulebook.Proofs.Number.Rounding

/-!
Whole numbers in different spellings.

A whole number can be written with decimal digits, or behind a prefix with the digits of base 16, 2
or 8. Decimal digits are read as the exact number, which is rounded once. Digits behind a prefix are
put together from the left in double precision. As long as the number has no more than 53 bits
nothing is rounded. The digit with which it has more is rounded off, and from there on the digits
change nothing: they are less than half of what is between two doubles. So a number falls short
exactly if this one rounding is a tie that goes down, while digits that are not zero follow.

* `Literal.Writes`, `Literal.Spelling`: the digits that write a number, and its spellings.
* `Literal.accumulate?_of_writes`: what digits of a power of two come to.
* `Literal.FallsShort`: when that is less than the nearest double.
* `Literal.toNumber?_of_spelling`: the number that a spelling stands for.
* `Literal.FallsShort.two`: binary digits fall short wherever those of another base do.
-/

namespace Rulebook

open Double

namespace Literal

/-- `Writes base n digits`: the digits, one or more of them, write the number in the base. -/
inductive Writes (base : Nat) : Nat → List Char → Prop where
  | digit {c d} : Decimal.digitValue? base c = some d → Writes base d [c]
  | append {n digits c d} : Writes base n digits → Decimal.digitValue? base c = some d →
      Writes base (n * base + d) (digits ++ [c])

/-- `Spelling n base text`: the text is the number with decimal digits, or with digits of another
base behind the prefix of that base. -/
inductive Spelling (n : Nat) : Nat → List Char → Prop where
  | decimal {digits} : Writes 10 n digits → Spelling n 10 digits
  | based {mark base digits} : Announces mark base → Writes base n digits →
      Spelling n base ('0' :: mark :: digits)

/-- The number that digits write in a base. -/
def natOf? (base : Nat) (digits : List Char) : Option Nat :=
  digits.foldlM (fun n c => (Decimal.digitValue? base c).map (n * base + ·)) 0

theorem natOf?_append (base : Nat) (digits : List Char) (c : Char) :
    natOf? base (digits ++ [c]) = (natOf? base digits).bind fun n =>
      (Decimal.digitValue? base c).map (n * base + ·) := by
  simp [natOf?, List.foldlM_append]

theorem writes_iff {base n : Nat} {digits : List Char} :
    Writes base n digits ↔ digits ≠ [] ∧ natOf? base digits = some n := by
  constructor
  · intro written
    induction written with
    | digit value => simp [natOf?, value]
    | append _ value ih => simp [natOf?_append, ih.2, value]
  · rintro ⟨some, value⟩
    induction digits using List.reverseRecOn generalizing n with
    | nil => exact absurd rfl some
    | append_singleton front c ih =>
      rw [natOf?_append, Option.bind_eq_some_iff] at value
      obtain ⟨m, before, last⟩ := value
      obtain ⟨d, digit, rfl⟩ := Option.map_eq_some_iff.mp last
      by_cases first : front = []
      · subst first
        obtain rfl : 0 = m := Option.some.inj before
        rw [Nat.zero_mul, Nat.zero_add]
        exact .digit digit
      · exact .append (ih first before) digit

instance (base n : Nat) (digits : List Char) : Decidable (Writes base n digits) :=
  decidable_of_iff _ writes_iff.symm

theorem digitValue?_digitChar {base d : Nat} (small : d < base) (atMost : base ≤ 16) :
    Decimal.digitValue? base (Nat.digitChar d) = some d := by
  have value : Decimal.digitValue? base (Nat.digitChar d) = if d < base then some d else none := by
    have : d < 16 := Nat.lt_of_lt_of_le small atMost
    interval_cases d <;> rfl
  rw [value, if_pos small]

/-- Every number can be written in every base up to sixteen. -/
theorem exists_writes (base : Nat) (two : 2 ≤ base) (atMost : base ≤ 16) (n : Nat) :
    ∃ digits, Writes base n digits := by
  induction n using Nat.strong_induction_on with
  | _ n ih =>
    by_cases small : n < base
    · exact ⟨_, .digit (digitValue?_digitChar small atMost)⟩
    · obtain ⟨digits, written⟩ := ih (n / base) (Nat.div_lt_self (by omega) two)
      have last := digitValue?_digitChar (Nat.mod_lt n (Nat.zero_lt_of_lt two)) atMost
      have whole := Writes.append written last
      rw [Nat.div_add_mod'] at whole
      exact ⟨_, whole⟩

/-! ### Digits one by one -/

/-- The number of bits, of all those in whole digits of so many bits, that come after the digit with
which a number gets more than 53 bits. -/
def lateBits (bits n : Nat) : Nat := (Nat.log2 n - 53) / bits * bits

/-- The number up to the digit with which it gets more than 53 bits. -/
def early (bits n : Nat) : Nat := n / 2 ^ lateBits bits n

/-- What the digits of a number come to if they are put together one by one, each time rounded. -/
def digitwise (bits n : Nat) : Nat := roundUnits (early bits n) 1 * 2 ^ lateBits bits n

theorem lateBits_of_lt {bits n : Nat} (small : n < 2 ^ (53 + bits)) : lateBits bits n = 0 := by
  have : (Nat.log2 n - 53) / bits = 0 := by
    rw [Nat.div_eq_zero_iff]
    by_cases none : bits = 0
    · exact .inl none
    · have := log2_le_of_lt (k := 53 + bits - 1) (by rwa [Nat.sub_add_cancel (by omega)])
      exact .inr (by omega)
  rw [lateBits, this, Nat.zero_mul]

theorem lateBits_le (bits n : Nat) : lateBits bits n ≤ Nat.log2 n - 53 := Nat.div_mul_le_self _ _

theorem early_of_lt {bits n : Nat} (small : n < 2 ^ (53 + bits)) : early bits n = n := by
  rw [early, lateBits_of_lt small, Nat.pow_zero, Nat.div_one]

theorem digitwise_of_lt {bits n : Nat} (small : n < 2 ^ (53 + bits)) :
    digitwise bits n = roundUnits n 1 := by
  rw [digitwise, early_of_lt small, lateBits_of_lt small, Nat.pow_zero, Nat.mul_one]

theorem le_early (bits : Nat) {n : Nat} (large : 2 ^ 53 ≤ n) : 2 ^ 53 ≤ early bits n := by
  have some : n ≠ 0 := Nat.ne_of_gt (Nat.lt_of_lt_of_le (Nat.two_pow_pos 53) large)
  have bound := lateBits_le bits n
  have logs := le_log2_of_le large
  rw [early, Nat.le_div_iff_mul_le (Nat.two_pow_pos _), ← Nat.pow_add]
  exact Nat.le_trans (Nat.pow_le_pow_right (by decide) (by omega)) (Nat.log2_self_le some)

theorem short_digitwise (bits n : Nat) : Short (digitwise bits n) :=
  (short_roundUnits _).mul_two_pow _

section Digit

variable {bits n d : Nat} (some : 0 < bits) (digit : d < 2 ^ bits)
include some digit

theorem lateBits_digit (large : 2 ^ 53 ≤ n) :
    lateBits bits (n * 2 ^ bits + d) = lateBits bits n + bits := by
  have nonzero : n ≠ 0 := Nat.ne_of_gt (Nat.lt_of_lt_of_le (Nat.two_pow_pos 53) large)
  have logs := le_log2_of_le large
  rw [lateBits, lateBits, log2_mul_two_pow_add nonzero digit, Nat.sub_add_comm logs,
    Nat.add_div_right _ some, Nat.succ_mul]

theorem early_digit (large : 2 ^ 53 ≤ n) : early bits (n * 2 ^ bits + d) = early bits n := by
  have front : (n * 2 ^ bits + d) / 2 ^ bits = n := by
    rw [Nat.mul_comm, Nat.mul_add_div (Nat.two_pow_pos bits), Nat.div_eq_of_lt digit, Nat.add_zero]
  rw [early, early, lateBits_digit some digit large, Nat.pow_add,
    Nat.mul_comm (2 ^ lateBits bits n), ← Nat.div_div_eq_div_mul, front]

/-- **One more digit.** Up to 53 bits it is rounded off with what stands before it; from then on it
changes nothing. -/
theorem digitwise_digit : digitwise bits (n * 2 ^ bits + d) =
    roundUnits (roundUnits (digitwise bits n * 2 ^ bits) 1 + d) 1 := by
  rw [((short_digitwise bits n).mul_two_pow bits).roundUnits_eq]
  by_cases large : 2 ^ 53 ≤ n
  · have short := short_digitwise bits n
    have enough : 2 ^ 53 ≤ digitwise bits n :=
      Nat.le_trans (two_pow_le_roundUnits (le_early bits large))
        (Nat.le_mul_of_pos_right _ (Nat.two_pow_pos _))
    rw [roundUnits_front enough digit, short.roundUnits_eq, if_neg fun both => short.not_isTie both.1,
      Nat.add_zero, digitwise, digitwise, early_digit some digit large,
      lateBits_digit some digit large, Nat.pow_add, Nat.mul_assoc]
  · have small := Nat.lt_of_not_le large
    have small' : n < 2 ^ (53 + bits) :=
      Nat.lt_of_lt_of_le small (Nat.pow_le_pow_right (by decide) (Nat.le_add_right _ _))
    have next : n * 2 ^ bits + d < 2 ^ (53 + bits) := by
      have := Nat.mul_le_mul_right (2 ^ bits) small
      rw [Nat.succ_mul, ← Nat.pow_add] at this
      omega
    rw [digitwise_of_lt next, digitwise_of_lt small', (short_of_lt small).roundUnits_eq]

end Digit

theorem accumulate?_append (base : Nat) (acc : Double) (front back : List Char) :
    accumulate? base acc (front ++ back) =
      (accumulate? base acc front).bind (accumulate? base · back) := by
  induction front generalizing acc with
  | nil => rfl
  | cons c rest ih =>
    cases value : Decimal.digitValue? base c with
    | none => simp [accumulate?, value]
    | some d => simp [accumulate?, value, ih]

theorem accumulate?_digit {bits n d : Nat} {c : Char} (some : 0 < bits)
    (value : Decimal.digitValue? (2 ^ bits) c = .some d) :
    accumulate? (2 ^ bits) (ofWhole (digitwise bits n)) [c] =
      .some (ofWhole (digitwise bits (n * 2 ^ bits + d))) := by
  have next : (ofWhole (digitwise bits n)).mulNat (2 ^ bits) =
      ofWhole (roundUnits (digitwise bits n * 2 ^ bits) 1) := mulNat_ofWhole _ (Nat.two_pow_pos bits)
  simp only [accumulate?, value, next, addNat_ofWhole,
    digitwise_digit some (lt_of_digitValue? value)]
  rfl

/-- **What digits of a power of two come to.** -/
theorem accumulate?_of_writes {bits n : Nat} {digits : List Char} (some : 0 < bits)
    (written : Writes (2 ^ bits) n digits) :
    accumulate? (2 ^ bits) .zero digits = .some (ofWhole (digitwise bits n)) := by
  induction written with
  | digit value =>
    have nothing : ofWhole (digitwise bits 0) = .zero := by
      rw [digitwise_of_lt (Nat.two_pow_pos _), (short_of_lt (by decide)).roundUnits_eq]
      decide +kernel
    have first := accumulate?_digit (n := 0) some value
    rwa [nothing, Nat.zero_mul, Nat.zero_add] at first
  | append _ value ih => rw [accumulate?_append, ih, Option.bind_some, accumulate?_digit some value]

/-! ### Falling short -/

/-- Whether digits of so many bits, put together one by one, come to less than the nearest double:
the number up to the digit with which it gets more than 53 bits is a tie that goes down, and what
comes after it is not zero. -/
def Loses (bits n : Nat) : Prop := IsTie (early bits n) ∧ n % 2 ^ lateBits bits n ≠ 0

instance (bits n : Nat) : Decidable (Loses bits n) := inferInstanceAs (Decidable (_ ∧ _))

theorem not_loses_of_lt {bits n : Nat} (small : n < 2 ^ (53 + bits)) : ¬Loses bits n := by
  rintro ⟨-, late⟩
  rw [lateBits_of_lt small, Nat.pow_zero, Nat.mod_one] at late
  exact late rfl

theorem Loses.large {bits n : Nat} (loses : Loses bits n) : 2 ^ 53 ≤ n := by
  by_contra small
  refine not_loses_of_lt (Nat.lt_of_lt_of_le (Nat.lt_of_not_le small) ?_) loses
  exact Nat.pow_le_pow_right (by decide) (Nat.le_add_right _ _)

/-- A number is its front part and the late bits. -/
theorem early_mul_add (bits n : Nat) :
    early bits n * 2 ^ lateBits bits n + n % 2 ^ lateBits bits n = n := Nat.div_add_mod' _ _

theorem late_lt (bits n : Nat) : n % 2 ^ lateBits bits n < 2 ^ lateBits bits n :=
  Nat.mod_lt _ (Nat.two_pow_pos _)

theorem step_early (bits : Nat) {n : Nat} (large : 2 ^ 53 ≤ n) :
    step n = step (early bits n) * 2 ^ lateBits bits n := by
  have same := step_front (Nat.le_trans (by decide) (le_early bits large)) (late_lt bits n)
  rwa [early_mul_add] at same

/-- **Rounding once and rounding digit by digit** differ by one step where digits are lost, and do
not differ elsewhere. -/
theorem roundUnits_eq_digitwise (bits n : Nat) :
    roundUnits n 1 = digitwise bits n + if Loses bits n then step n else 0 := by
  by_cases large : 2 ^ 53 ≤ n
  · have rounded := roundUnits_front (le_early bits large) (late_lt bits n)
    rw [early_mul_add, ← step_early bits large] at rounded
    exact rounded
  · have small : n < 2 ^ (53 + bits) :=
      Nat.lt_of_lt_of_le (Nat.lt_of_not_le large) (Nat.pow_le_pow_right (by decide) (by omega))
    rw [if_neg (not_loses_of_lt small), digitwise_of_lt small, Nat.add_zero]

/-- Where digits are lost, the number is cut to its first 53 bits. -/
theorem Loses.digitwise_eq {bits n : Nat} (loses : Loses bits n) :
    digitwise bits n = n / step n * step n := by
  have large := loses.large
  have quotient : n / step n = early bits n / step (early bits n) := by
    rw [step_early bits large, Nat.mul_comm (step _), ← Nat.div_div_eq_div_mul, early]
  rw [quotient, step_early bits large, digitwise, loses.1.roundUnits_eq, Nat.mul_assoc]

/-- Rounding once a number of which digits are lost goes up. -/
theorem Loses.roundUnits_eq {bits n : Nat} (loses : Loses bits n) :
    roundUnits n 1 = n / step n * step n + step n := by
  rw [roundUnits_eq_digitwise bits, if_pos loses, loses.digitwise_eq]

/-- Nothing is lost of a number that needs no more than 53 bits. -/
theorem not_loses_of_short {bits n : Nat} (short : Short n) : ¬Loses bits n := by
  intro loses
  have rounded := loses.roundUnits_eq
  have positive := step_pos n
  rw [short.roundUnits_eq, Nat.div_mul_cancel short] at rounded
  omega

theorem log2_early (bits : Nat) {n : Nat} (large : 2 ^ 53 ≤ n) :
    Nat.log2 n = Nat.log2 (early bits n) + lateBits bits n := by
  have some : early bits n ≠ 0 :=
    Nat.ne_of_gt (Nat.lt_of_lt_of_le (Nat.two_pow_pos 53) (le_early bits large))
  have logs := log2_mul_two_pow_add some (late_lt bits n)
  rwa [early_mul_add] at logs

/-- Bits are lost of a number whose first 54 bits end in 0 and 1, and which goes on with something
that is not zero. -/
theorem loses_one_iff {n : Nat} : Loses 1 n ↔
    n / 2 ^ (Nat.log2 n - 53) % 4 = 1 ∧ n % 2 ^ (Nat.log2 n - 53) ≠ 0 := by
  have late : lateBits 1 n = Nat.log2 n - 53 := by rw [lateBits, Nat.div_one, Nat.mul_one]
  by_cases large : 2 ^ 53 ≤ n
  · have logs := log2_early 1 large
    have enough := le_log2_of_le large
    have none : Nat.log2 (early 1 n) - 53 = 0 := by omega
    rw [Loses, isTie_iff (le_early 1 large), none, Nat.pow_zero, Nat.div_one, Nat.mod_one, late, ← late,
      ← early]
    simp only [and_true]
  · have small : n < 2 ^ (53 + 1) := Nat.lt_trans (Nat.lt_of_not_le large) (by decide)
    refine iff_of_false (not_loses_of_lt small) ?_
    rintro ⟨-, rest⟩
    rw [← late, lateBits_of_lt small, Nat.pow_zero, Nat.mod_one] at rest
    exact rest rfl

/-- **Bits are lost wherever digits are lost.** -/
theorem Loses.one {bits n : Nat} (loses : Loses bits n) : Loses 1 n := by
  have large := loses.large
  obtain ⟨tie, rest⟩ := loses
  have logs := log2_early bits large
  have enough := le_log2_of_le (le_early bits large)
  have places : Nat.log2 n - 53 = lateBits bits n + (Nat.log2 (early bits n) - 53) := by omega
  have front : n / 2 ^ (Nat.log2 n - 53) =
      early bits n / 2 ^ (Nat.log2 (early bits n) - 53) := by
    rw [places, Nat.pow_add, ← Nat.div_div_eq_div_mul, ← early]
  rw [loses_one_iff, front]
  refine ⟨((isTie_iff (le_early bits large)).mp tie).1, fun none => rest ?_⟩
  have divides := Nat.dvd_trans (Nat.pow_dvd_pow 2 (lateBits_le bits n))
    (Nat.dvd_of_mod_eq_zero none)
  exact Nat.mod_eq_zero_of_dvd divides

/-! ### What a spelling stands for -/

theorem Writes.ne_nil {base n : Nat} {digits : List Char} (written : Writes base n digits) :
    digits ≠ [] := by
  cases written with
  | digit => exact List.cons_ne_nil _ _
  | append => exact List.append_ne_nil_of_right_ne_nil _ (List.cons_ne_nil _ _)

theorem Writes.isSome_digitValue? {base n : Nat} {digits : List Char}
    (written : Writes base n digits) : ∀ c ∈ digits, (Decimal.digitValue? base c).isSome = true := by
  induction written with
  | digit value => simp [value]
  | append _ value ih => exact List.forall_mem_append.mpr ⟨ih, by simp [value]⟩

/-- The decimal digits are those of ASCII. -/
theorem digitValue?_ten_eq_some {c : Char} {d : Nat} (value : Decimal.digitValue? 10 c = some d) :
    Text.isAsciiDigit c = true ∧ c.toNat - '0'.toNat = d := by
  unfold Decimal.digitValue? at value
  simp only [Option.ite_none_right_eq_some, Option.some.injEq] at value
  obtain ⟨small, rfl⟩ := value
  by_cases digit : Text.isAsciiDigit c = true
  · exact ⟨digit, (if_pos digit).symm⟩
  · rw [Text.isAsciiDigit] at digit
    rw [if_neg digit] at small
    split at small
    · omega
    · split at small <;> omega

theorem natOfDigits_append (digits : List Char) (c : Char) : Decimal.natOfDigits (digits ++ [c]) =
    10 * Decimal.natOfDigits digits + (c.toNat - '0'.toNat) := by
  rw [Decimal.natOfDigits, List.foldl_append]
  rfl

theorem Writes.decimal {n : Nat} {digits : List Char} (written : Writes 10 n digits) :
    Decimal.AreDigits digits ∧ Decimal.natOfDigits digits = n := by
  induction written with
  | digit value =>
    obtain ⟨digit, same⟩ := digitValue?_ten_eq_some value
    refine ⟨by simpa [Decimal.AreDigits] using digit, ?_⟩
    simpa [Decimal.natOfDigits] using same
  | @append n digits c d _ value ih =>
    obtain ⟨digit, same⟩ := digitValue?_ten_eq_some value
    refine ⟨List.forall_mem_append.mpr ⟨ih.1, by simpa using digit⟩, ?_⟩
    rw [natOfDigits_append, ih.2, same, Nat.mul_comm]

/-- Decimal digits are read as the number that they write. -/
theorem ofText?_of_writes {n : Nat} {digits : List Char} (written : Writes 10 n digits) :
    Decimal.ofText? digits = some ⟨false, n, 0⟩ := by
  obtain ⟨areDigits, value⟩ := written.decimal
  have unsigned : Decimal.takeSign digits = (false, digits) := by
    cases digits with
    | nil => rfl
    | cons c rest =>
      obtain ⟨noPlus, noMinus⟩ := Decimal.ne_sign_of_isAsciiDigit (areDigits c (by simp))
      unfold Decimal.takeSign
      split
      · next same => exact absurd (List.cons.inj same).1 noPlus
      · next same => exact absurd (List.cons.inj same).1 noMinus
      · rfl
  have whole : Decimal.spanDigits digits = (digits, []) := by
    have span : Decimal.spanDigits (digits ++ []) = (digits, []) :=
      Decimal.spanDigits_append areDigits (by simp)
    rwa [List.append_nil] at span
  unfold Decimal.ofText?
  simp [unsigned, whole, Decimal.fractionPart, Decimal.exponentPart?, written.ne_nil, value]

/-- A whole number is rounded once. -/
theorem toDouble_whole (n : Nat) :
    (⟨false, n, 0⟩ : Decimal).toDouble = ofWhole (roundUnits n 1) := by
  by_cases zero : n = 0
  · subst zero
    decide +kernel
  · change (if n = 0 then Double.zero else if Decimal.exponentLimit < 0 then
      (if false = true then .negativeInfinity else .infinity)
      else ofRatio false (n * Nat.pow 10 0 * oneUnits) 1) = _
    have whole : n * Nat.pow 10 0 = n := Nat.mul_one n
    rw [if_neg zero, if_neg (Nat.not_lt_zero _), whole, ofRatio_whole]

theorem Announces.exists_bits {mark : Char} {base : Nat} (announced : Announces mark base) :
    0 < Nat.log2 base ∧ base = 2 ^ Nat.log2 base ∧ base ≠ 10 := by
  cases announced <;> decide

/-- Whether a number falls short in the digits of a base: they are put together one by one, the
number is not beyond all finite doubles, and digits are lost. -/
def FallsShort (base n : Nat) : Prop :=
  base ≠ 10 ∧ n < wholeLimit ∧ Loses (Nat.log2 base) n

instance (base n : Nat) : Decidable (FallsShort base n) := inferInstanceAs (Decidable (_ ∧ _))

/-- The whole number that a spelling in a base is rounded to. -/
def rounded (base n : Nat) : Nat :=
  if FallsShort base n then n / step n * step n else roundUnits n 1

theorem short_rounded (base n : Nat) : Short (rounded base n) := by
  unfold rounded
  split
  · exact (short_of_lt (div_step_lt n)).mul_two_pow _
  · exact short_roundUnits n

theorem ofWhole_digitwise {base : Nat} (based : base ≠ 10) (n : Nat) :
    ofWhole (digitwise (Nat.log2 base) n) = ofWhole (rounded base n) := by
  by_cases finite : n < wholeLimit
  · by_cases loses : Loses (Nat.log2 base) n
    · rw [rounded, if_pos ⟨based, finite, loses⟩, loses.digitwise_eq]
    · rw [rounded, if_neg fun short => loses short.2.2, roundUnits_eq_digitwise (Nat.log2 base),
        if_neg loses, Nat.add_zero]
  · have beyond := Nat.le_of_not_lt finite
    rw [rounded, if_neg fun short => finite short.2.1, ofWhole_roundUnits_of_le beyond]
    by_cases loses : Loses (Nat.log2 base) n
    · rw [loses.digitwise_eq, ofWhole_of_le (wholeLimit_le_cut beyond)]
    · rw [← ofWhole_roundUnits_of_le beyond, roundUnits_eq_digitwise (Nat.log2 base), if_neg loses,
        Nat.add_zero]

/-- In decimal digits no number falls short. -/
theorem not_fallsShort_ten (n : Nat) : ¬FallsShort 10 n := fun short => short.1 rfl

/-- **Binary digits fall short wherever those of another base do.** -/
theorem FallsShort.two {base n : Nat} (short : FallsShort base n) : FallsShort 2 n := by
  obtain ⟨-, finite, loses⟩ := short
  exact ⟨by decide, finite, loses.one⟩

/-- Binary digits fall short of a finite number whose first 54 bits end in 0 and 1, and which goes
on with something that is not zero. -/
theorem fallsShort_two_iff {n : Nat} : FallsShort 2 n ↔ n < wholeLimit ∧
    n / 2 ^ (Nat.log2 n - 53) % 4 = 1 ∧ n % 2 ^ (Nat.log2 n - 53) ≠ 0 := by
  rw [← loses_one_iff]
  constructor
  · rintro ⟨-, finite, loses⟩
    exact ⟨finite, loses⟩
  · rintro ⟨finite, loses⟩
    exact ⟨by decide, finite, loses⟩

theorem not_fallsShort_two {n : Nat} (small : n < 2 ^ 54 ∨ Short n) : ¬FallsShort 2 n := by
  rintro ⟨-, -, loses⟩
  rcases small with few | short
  · exact not_loses_of_lt few loses
  · exact not_loses_of_short short loses

/-- Spellings in two bases stand for the same double if both fall short or neither does. -/
theorem ofWhole_rounded_eq_iff {base base' n : Nat} :
    ofWhole (rounded base n) = ofWhole (rounded base' n) ↔
      (FallsShort base n ↔ FallsShort base' n) := by
  have apart {base base' : Nat} (short : FallsShort base n) (exact' : ¬FallsShort base' n) :
      ofWhole (rounded base n) ≠ ofWhole (rounded base' n) := by
    obtain ⟨-, finite, loses⟩ := id short
    have atMost : n / step n * step n ≤ n := Nat.div_mul_le_self _ _
    have positive := step_pos n
    rw [rounded, if_pos short, rounded, if_neg exact', loses.roundUnits_eq]
    intro same
    have := eq_of_ofWhole_eq (Nat.lt_of_le_of_lt atMost finite) same
    omega
  constructor
  · intro same
    constructor
    · intro short
      by_contra exact'
      exact apart short exact' same
    · intro short
      by_contra exact'
      exact apart short exact' same.symm
  · intro both
    simp only [rounded, both]

theorem ofTrimmed?_of_spelling {n base : Nat} {text : List Char} (spelled : Spelling n base text) :
    ofTrimmed? text = some (ofWhole (rounded base n)) := by
  cases spelled with
  | @decimal digits written =>
    have areDigits := written.decimal.1
    have finite : infinity? text = none := by
      rw [← Option.not_isSome_iff_eq_none, isSome_infinity?_iff]
      intro signed
      have letter : 'I' ∈ text := by cases signed <;> decide
      exact absurd (areDigits 'I' letter) (by decide)
    have plain : prefixed? text = none := by
      rw [Option.eq_none_iff_forall_ne_some]
      rintro ⟨base, digits⟩ announced
      obtain ⟨mark, announces, rfl⟩ := prefixed?_eq_some_iff.mp announced
      have digit := areDigits mark (by simp)
      rcases announces with (rfl | rfl) | (rfl | rfl) | (rfl | rfl) <;> exact absurd digit (by decide)
    have exact : rounded 10 n = roundUnits n 1 := if_neg (not_fallsShort_ten n)
    unfold ofTrimmed?
    simp [written.ne_nil, finite, plain, ofText?_of_writes written, toDouble_whole, exact]
  | @based mark base digits announced written =>
    obtain ⟨some, power, based⟩ := announced.exists_bits
    have announces : prefixed? ('0' :: mark :: digits) = .some (base, digits) :=
      prefixed?_eq_some_iff.mpr ⟨mark, announced, rfl⟩
    have finite : infinity? ('0' :: mark :: digits) = none := by
      rw [← Option.not_isSome_iff_eq_none, isSome_infinity?_iff]
      intro signed
      cases signed
    have summed := accumulate?_of_writes (n := n) some (power ▸ written)
    rw [← power, ofWhole_digitwise based] at summed
    unfold ofTrimmed?
    simp [finite, announces, written.ne_nil, summed]

/-- **The number that a spelling stands for.** -/
theorem toNumber?_of_spelling {n base : Nat} {text : List Char} (spelled : Spelling n base text) :
    toNumber? (String.ofList text) = some (ofWhole (rounded base n)) := by
  have word : ∀ c ∈ text, Text.isWord c = true := by
    cases spelled with
    | decimal written =>
      exact fun c mem => Decimal.isWord_of_digitValue? (written.isSome_digitValue? c mem)
    | based announced written =>
      refine List.forall_mem_cons.mpr ⟨by decide, List.forall_mem_cons.mpr ⟨?_, fun c mem =>
        Decimal.isWord_of_digitValue? (written.isSome_digitValue? c mem)⟩⟩
      rcases announced with (rfl | rfl) | (rfl | rfl) | (rfl | rfl) <;> decide
  have solid : ∀ c ∈ text, Text.isBlank c = false := by
    intro c mem
    by_contra blank
    have := Text.isWord_eq_false_of_isBlank (by simpa using blank)
    rw [word c mem] at this
    cases this
  have trimmed : Text.trim text = text :=
    Text.trim_eq_self (fun c first => solid c (List.mem_of_mem_head? first))
      (fun c last => solid c (List.mem_of_getLast? last))
  rw [toNumber?, String.toList_ofList, trimmed, ofTrimmed?_of_spelling spelled]

end Literal
end Rulebook
