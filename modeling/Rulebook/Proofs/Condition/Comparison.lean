import Rulebook.Proofs.Number.Ieee
import Rulebook.Proofs.Number.Spelling

/-!
Which comparisons hold between a field and a value.

The three comparisons exclude one another, and between two numbers one of them holds. That needs
every literal to be a number that can be compared: in arithmetic where an operation can give none,
no literal comes to none.

What a literal says of a number is the double that it stands for and nothing else of its spelling.
Decimal digits stand for the nearest double, and digits behind a prefix do so unless they fall short.

* `comparisons_exclude_each_other`: how many of the comparisons hold, for every field and value.
* `spellings_agree_iff`: which spellings of a whole number make no difference.
* `longHexadecimal_falls_short`: two spellings of a number that do.
-/

namespace Rulebook

namespace Condition

variable {field value : String} {comparison other : Comparison}

/-- Of two doubles exactly one comparison holds. -/
theorem existsUnique_holds (x y : Double) : ∃! c : Comparison, c.holds x y = true := by
  rcases Double.lt_trichotomy x y with less | rfl | greater
  · refine ⟨.less, less, fun c holds => ?_⟩
    cases c with
    | greater => rw [Comparison.holds, Double.lt_asymm less] at holds; cases holds
    | less => rfl
    | equal => exact absurd (of_decide_eq_true holds) (Double.ne_of_lt less)
  · refine ⟨.equal, decide_eq_true rfl, fun c holds => ?_⟩
    cases c with
    | equal => rfl
    | _ => rw [Comparison.holds, Double.lt_irrefl] at holds; cases holds
  · refine ⟨.greater, greater, fun c holds => ?_⟩
    cases c with
    | greater => rfl
    | less => rw [Comparison.holds, Double.lt_asymm greater] at holds; cases holds
    | equal => exact absurd (of_decide_eq_true holds).symm (Double.ne_of_lt greater)

theorem meets_text_iff {s : String} :
    meets ⟨field, comparison, value⟩ (.text s) = true ↔ comparison = .equal ∧ s = value := by
  simp [meets]

theorem meets_number {x y : Double} (read : Literal.toNumber? value = some y) :
    meets ⟨field, comparison, value⟩ (.number x) = comparison.holds x y := by
  simp [meets, read]

theorem meets_number_of_none {x : Double} (read : Literal.toNumber? value = none) :
    meets ⟨field, comparison, value⟩ (.number x) = false := by
  simp [meets, read]

/-- No two comparisons are met by the same. -/
theorem comparison_unique {sight : Sight} (met : meets ⟨field, comparison, value⟩ sight = true)
    (met' : meets ⟨field, other, value⟩ sight = true) : comparison = other := by
  cases sight with
  | text s => rw [(meets_text_iff.mp met).1, (meets_text_iff.mp met').1]
  | number x =>
    cases read : Literal.toNumber? value with
    | none =>
      rw [meets_number_of_none read] at met
      cases met
    | some y =>
      rw [meets_number read] at met met'
      exact (existsUnique_holds x y).unique met met'
  | nothing => cases met

end Condition

open Condition in
/-- **The comparisons exclude one another, and between numbers one of them holds.** For every value,
every name of a field, and whatever the field holds or if it is missing,

* no two of the comparisons hold;
* if it holds a number, and the value stands for one, exactly one of them holds;
* if it holds a text, only `=` can hold, and does exactly if the text is the value;
* in all other cases none of them holds.

No literal comes to what is no number, in an arithmetic of doubles that has such an outcome, and
numbers are compared as in this arithmetic. -/
theorem comparisons_exclude_each_other (field value : String) (found : Option Json) :
    (∀ c c', holds ⟨field, c, value⟩ found = true → holds ⟨field, c', value⟩ found = true → c = c') ∧
    (∀ n, found = some (.number n) → (Literal.toNumber? value).isSome = true →
      ∃! c, holds ⟨field, c, value⟩ found = true) ∧
    (∀ s, found = some (.string s) →
      ∀ c, holds ⟨field, c, value⟩ found = true ↔ c = .equal ∧ s = value) ∧
    ((∀ s, found ≠ some (.string s)) →
      (∀ n, found = some (.number n) → Literal.toNumber? value = none) →
      ∀ c, holds ⟨field, c, value⟩ found = false) ∧
    (∀ y, Literal.reckon? value = some y → y ≠ .nan ∧ (Literal.toNumber? value).map .value = some y) ∧
    ∀ n, found = some (.number n) → ∀ c, holds ⟨field, c, value⟩ found =
      (Literal.reckon? value).any (c.compares (.value n.toDouble) ·) := by
  simp only [holds_eq_meets]
  refine ⟨fun c c' => comparison_unique, ?_, ?_, ?_, ?_, ?_⟩
  · rintro n rfl isNumber
    obtain ⟨y, read⟩ := Option.isSome_iff_exists.mp isNumber
    simp only [Json.sight, meets_number read]
    exact existsUnique_holds n.toDouble y
  · rintro s rfl c
    exact meets_text_iff
  · intro noText noNumber c
    cases found with
    | none => rfl
    | some held =>
      cases held with
      | string s => exact absurd rfl (noText s)
      | number n => exact meets_number_of_none (noNumber n rfl)
      | _ => rfl
  · intro y read
    rw [Literal.reckon?_eq] at read
    refine ⟨?_, read⟩
    rintro rfl
    obtain ⟨x, -, value⟩ := Option.map_eq_some_iff.mp read
    cases value
  · rintro n rfl c
    rw [← holds_eq_meets]
    exact holds_number _ n

open Condition in
/-- A value in digits of base sixteen is the same number as in decimal digits, and not the same
text. -/
theorem thirtyOne_compared :
    Literal.reckon? "0x1F" = some (.value (Json.Number.ofNat 31).toDouble) ∧
    Ieee.value (Json.Number.ofNat 31).toDouble ≠ .nan ∧
    (Literal.toNumber? "0x1F").isSome = true ∧
    (∃! c, holds ⟨"x", c, "0x1F"⟩ (some (.nat 31)) = true) ∧
    holds ⟨"x", .equal, "0x1F"⟩ (some (.nat 31)) = true ∧
    (∀ c, holds ⟨"x", c, "0x1F"⟩ (some (.nat 31)) = true → Comparison.equal = c) ∧
    holds ⟨"x", .equal, "0x1F"⟩ (some (.string "31")) = false ∧
    ∀ c, holds ⟨"x", c, "0x1F"⟩ (some .null) = false := by
  have read : Literal.reckon? "0x1F" = some (.value (Json.Number.ofNat 31).toDouble) := by
    decide +kernel
  have isNumber : (Literal.toNumber? "0x1F").isSome = true := by decide +kernel
  have equal : holds ⟨"x", .equal, "0x1F"⟩ (some (.nat 31)) = true := by decide +kernel
  obtain ⟨unique, one, -, -, number, -⟩ := comparisons_exclude_each_other "x" "0x1F" (some (.nat 31))
  obtain ⟨-, -, text, -⟩ := comparisons_exclude_each_other "x" "0x1F" (some (.string "31"))
  obtain ⟨-, -, -, rest, -⟩ := comparisons_exclude_each_other "x" "0x1F" (some .null)
  refine ⟨read, (number _ read).1, isNumber, one _ rfl isNumber, equal,
    fun c met => unique _ _ equal met, ?_, rest (by simp) (by simp)⟩
  rw [Bool.eq_false_iff, ne_eq, text _ rfl]
  decide

/-! ### Spellings of a number -/

namespace Condition

/-- Values that make no difference to numbers: conditions that differ in them alone are met by the
same numbers. -/
def SameTruth (value other : String) : Prop :=
  ∀ field comparison (x : Json.Number), holds ⟨field, comparison, value⟩ (some (.number x)) =
    holds ⟨field, comparison, other⟩ (some (.number x))

/-- A number that is short is what the JSON number without fraction and exponent stands for. -/
theorem toDouble_ofNat {n : Nat} (short : Double.Short n) :
    (Json.Number.ofNat n).toDouble = Double.ofWhole n := by
  rw [Json.Number.toDouble, Json.Number.ofNat, Literal.toDouble_whole, short.roundUnits_eq]

/-- Values that stand for numbers make no difference exactly if they stand for the same. -/
theorem sameTruth_iff {value other : String} {a : Nat} {y : Double} (short : Double.Short a)
    (read : Literal.toNumber? value = some (Double.ofWhole a))
    (read' : Literal.toNumber? other = some y) : SameTruth value other ↔ Double.ofWhole a = y := by
  constructor
  · intro same
    have here := same "" .equal (.ofNat a)
    simp only [holds_eq_meets, Json.sight, toDouble_ofNat short, meets_number read,
      meets_number read'] at here
    rw [Comparison.holds, Comparison.holds, decide_eq_true rfl] at here
    exact of_decide_eq_true here.symm
  · rintro rfl field comparison x
    simp only [holds_eq_meets, Json.sight, meets_number read, meets_number read']

/-- Two spellings of a number agree exactly if it falls short in both or in neither. -/
theorem sameTruth_spellings_iff {n base base' : Nat} {text text' : List Char}
    (spelled : Literal.Spelling n base text) (spelled' : Literal.Spelling n base' text') :
    SameTruth (String.ofList text) (String.ofList text') ↔
      (Literal.FallsShort base n ↔ Literal.FallsShort base' n) := by
  rw [sameTruth_iff (Literal.short_rounded base n) (Literal.toNumber?_of_spelling spelled)
    (Literal.toNumber?_of_spelling spelled'), Literal.ofWhole_rounded_eq_iff]

end Condition

open Condition Double Literal in
/-- **Which spellings of a whole number make no difference.** Two spellings of a number, in decimal
digits or behind a prefix, are met by the same numbers in every comparison exactly if it falls short
in the digits of both or of neither.

* All spellings of a number agree exactly if its binary digits do not fall short.
* That is so for all numbers below 2^54, and for those that need no more than 53 bits.
* Binary digits fall short of a number below 2^1024 whose first 54 bits end in 0 and 1, and that
  goes on with something other than zero.
* A spelling stands for the nearest double; where it falls short, for the first 53 bits. -/
theorem spellings_agree_iff (n : Nat) :
    (∀ base base' text text', Spelling n base text → Spelling n base' text' →
      (SameTruth (String.ofList text) (String.ofList text') ↔
        (FallsShort base n ↔ FallsShort base' n))) ∧
    ((∀ base base' text text', Spelling n base text → Spelling n base' text' →
      SameTruth (String.ofList text) (String.ofList text')) ↔ ¬FallsShort 2 n) ∧
    (n < 2 ^ 54 ∨ Short n → ¬FallsShort 2 n) ∧
    (FallsShort 2 n ↔ n < wholeLimit ∧ n / 2 ^ (Nat.log2 n - 53) % 4 = 1 ∧
      n % 2 ^ (Nat.log2 n - 53) ≠ 0) ∧
    ∀ base text, Spelling n base text → toNumber? (String.ofList text) =
      some (ofWhole (if FallsShort base n then n / step n * step n else roundUnits n 1)) := by
  refine ⟨fun _ _ _ _ => sameTruth_spellings_iff, ⟨?_, ?_⟩, not_fallsShort_two, fallsShort_two_iff,
    fun _ _ => toNumber?_of_spelling⟩
  · intro all short
    obtain ⟨decimals, written⟩ := exists_writes 10 (by decide) (by decide) n
    obtain ⟨bits, written'⟩ := exists_writes 2 (by decide) (by decide) n
    have decimal : Spelling n 10 decimals := .decimal written
    have based : Spelling n 2 ('0' :: 'b' :: bits) := .based (.two (.inl rfl)) written'
    have both := (sameTruth_spellings_iff based decimal).mp (all _ _ _ _ based decimal)
    exact not_fallsShort_ten n (both.mp short)
  · intro exact base base' text text' spelled spelled'
    refine (sameTruth_spellings_iff spelled spelled').mpr (iff_of_false ?_ ?_)
    · exact fun short => exact short.two
    · exact fun short => exact short.two

open Condition Double Literal in
/-- Of 2^56 + 9 digits of base sixteen tell the same as decimal digits, and digits of base eight
fall short. All spellings of 31 tell the same. -/
theorem spellings_compared :
    SameTruth "72057594037927945" "0x100000000000009" ∧
    ¬SameTruth "0x100000000000009" "0o4000000000000000011" ∧
    Literal.toNumber? "0o4000000000000000011" = some (ofWhole (2 ^ 56)) ∧
    (31 < 2 ^ 54 ∨ Short 31) ∧ SameTruth "31" "0X01f" := by
  have decimal : Spelling 72057594037927945 10 "72057594037927945".toList :=
    .decimal (by decide +kernel)
  have sixteen : Spelling 72057594037927945 16 "0x100000000000009".toList :=
    .based (.sixteen (.inl rfl)) (by decide +kernel)
  have eight : Spelling 72057594037927945 8 "0o4000000000000000011".toList :=
    .based (.eight (.inl rfl)) (by decide +kernel)
  have decimal' : Spelling 31 10 "31".toList := .decimal (by decide +kernel)
  have sixteen' : Spelling 31 16 "0X01f".toList := .based (.sixteen (.inr rfl)) (by decide +kernel)
  have small : 31 < 2 ^ 54 ∨ Short 31 := .inl (by decide)
  obtain ⟨agree, -, -, -, read⟩ := spellings_agree_iff 72057594037927945
  obtain ⟨-, all, exact', -⟩ := spellings_agree_iff 31
  have cut := read _ _ eight
  rw [if_pos (by decide +kernel)] at cut
  refine ⟨(agree _ _ _ _ decimal sixteen).mpr (by decide +kernel), fun same => ?_, cut, small,
    all.mpr (exact' small) _ _ _ _ decimal' sixteen'⟩
  exact absurd ((agree _ _ _ _ sixteen eight).mp same) (by decide +kernel)

open Condition Literal in
/-- The number 2^57 + 17 in digits of base sixteen is not what it is in decimal digits: the first
fourteen come to 2^53, and 1 is too little to change sixteen times of that. -/
theorem longHexadecimal_falls_short :
    Spelling 144115188075855889 16 "0x200000000000011".toList ∧
    Spelling 144115188075855889 10 "144115188075855889".toList ∧
    holds ⟨"x", .equal, "144115188075855889"⟩ (some (.nat 144115188075855904)) = true ∧
    holds ⟨"x", .equal, "0x200000000000011"⟩ (some (.nat 144115188075855904)) = false ∧
    ¬SameTruth "0x200000000000011" "144115188075855889" := by
  have decimal : holds ⟨"x", .equal, "144115188075855889"⟩
      (some (.nat 144115188075855904)) = true := by
    decide +kernel
  have sixteen : holds ⟨"x", .equal, "0x200000000000011"⟩
      (some (.nat 144115188075855904)) = false := by
    decide +kernel
  refine ⟨.based (.sixteen (.inl rfl)) (by decide +kernel), .decimal (by decide +kernel), decimal,
    sixteen, fun same => ?_⟩
  have here := same "x" .equal (.ofNat 144115188075855904)
  exact absurd (sixteen.symm.trans (here.trans decimal)) Bool.false_ne_true

end Rulebook
