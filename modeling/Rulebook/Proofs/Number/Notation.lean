import Mathlib.Data.List.TakeWhile
import Rulebook.Number.Literal

/-!
The texts that stand for numbers, as a grammar.

* `Decimal.Spelled`: an optional sign, digits with at most one point among or around them, and an
  optional exponent.
* `Decimal.isSome_ofText?_iff`: those are the texts that are read as decimals.
* `Literal.Spelled`: the literals: nothing, an infinity, digits behind a prefix, or a decimal.
* `Literal.isSome_ofTrimmed?_iff`: those are the trimmed texts that stand for numbers.
-/

namespace Rulebook

open Text (isAsciiDigit)

namespace Decimal

/-- ASCII digits, perhaps none. -/
def AreDigits (text : List Char) : Prop := ∀ c ∈ text, isAsciiDigit c = true

/-- `Signed text rest`: `text` is `rest` behind an optional sign. -/
inductive Signed : List Char → List Char → Prop where
  | bare {rest} : Signed rest rest
  | plus {rest} : Signed ('+' :: rest) rest
  | minus {rest} : Signed ('-' :: rest) rest

/-- Digits with at most one point among or around them, and at least one digit. -/
inductive Mantissa : List Char → Prop where
  | whole {digits} : digits ≠ [] → AreDigits digits → Mantissa digits
  | pointed {digits fraction} : digits ≠ [] → AreDigits digits → AreDigits fraction →
      Mantissa (digits ++ '.' :: fraction)
  | leading {fraction} : fraction ≠ [] → AreDigits fraction → Mantissa ('.' :: fraction)

/-- An exponent part, perhaps none. -/
inductive ExponentPart : List Char → Prop where
  | absent : ExponentPart []
  | present {mark text digits} : mark = 'e' ∨ mark = 'E' → Signed text digits → digits ≠ [] →
      AreDigits digits → ExponentPart (mark :: text)

/-- The texts of decimals. -/
inductive Spelled : List Char → Prop where
  | intro {text mantissa exponent} : Signed text (mantissa ++ exponent) → Mantissa mantissa →
      ExponentPart exponent → Spelled text

/-! ### Signs and exponents -/

theorem signed_takeSign (text : List Char) : Signed text (takeSign text).2 := by
  unfold takeSign
  split
  · exact .plus
  · exact .minus
  · exact .bare

/-- A sign is taken off where the rest does not begin with one. -/
theorem takeSign_of_signed {text rest : List Char} (h : Signed text rest)
    (plain : ∀ c ∈ rest.head?, c ≠ '+' ∧ c ≠ '-') : (takeSign text).2 = rest := by
  cases h with
  | plus => rfl
  | minus => rfl
  | bare =>
    unfold takeSign
    split
    · next tail => exact absurd rfl (plain '+' rfl).1
    · next tail => exact absurd rfl (plain '-' rfl).2
    · rfl

theorem ne_sign_of_isAsciiDigit {c : Char} (h : isAsciiDigit c = true) : c ≠ '+' ∧ c ≠ '-' := by
  constructor
  · rintro rfl
    exact absurd h (by decide)
  · rintro rfl
    exact absurd h (by decide)

theorem isSome_signedDigits?_iff {text : List Char} :
    (signedDigits? text).isSome = true ↔
      ∃ digits, Signed text digits ∧ digits ≠ [] ∧ AreDigits digits := by
  have read : (signedDigits? text).isSome = true ↔
      (takeSign text).2 ≠ [] ∧ AreDigits (takeSign text).2 := by
    unfold signedDigits?
    cases takeSign text with
    | mk negative digits => by_cases empty : digits = [] <;> simp [empty, AreDigits]
  rw [read]
  constructor
  · rintro ⟨ne, digits⟩
    exact ⟨_, signed_takeSign text, ne, digits⟩
  · rintro ⟨digits, signed, ne, all⟩
    rw [takeSign_of_signed signed fun c first =>
      ne_sign_of_isAsciiDigit (all c (List.mem_of_mem_head? first))]
    exact ⟨ne, all⟩

theorem isSome_exponentPart?_iff {text : List Char} :
    (exponentPart? text).isSome = true ↔ ExponentPart text := by
  unfold exponentPart?
  split
  · simp [ExponentPart.absent]
  · next rest =>
    rw [isSome_signedDigits?_iff]
    constructor
    · rintro ⟨digits, signed, ne, all⟩
      exact .present (.inl rfl) signed ne all
    · intro h
      cases h with
      | present _ signed ne all => exact ⟨_, signed, ne, all⟩
  · next rest =>
    rw [isSome_signedDigits?_iff]
    constructor
    · rintro ⟨digits, signed, ne, all⟩
      exact .present (.inr rfl) signed ne all
    · intro h
      cases h with
      | present _ signed ne all => exact ⟨_, signed, ne, all⟩
  · next text notNil notSmall notCapital =>
    constructor
    · intro h
      simp at h
    · intro h
      cases h with
      | absent => exact absurd rfl notNil
      | present isMark _ _ _ =>
        rcases isMark with rfl | rfl
        · exact absurd rfl (notSmall _)
        · exact absurd rfl (notCapital _)

/-! ### Decimals -/

theorem of_spanDigits {text digits rest : List Char} (h : spanDigits text = (digits, rest)) :
    AreDigits digits ∧ text = digits ++ rest := by
  obtain ⟨rfl, rfl⟩ := Prod.mk.inj h
  exact ⟨fun _ mem => List.mem_takeWhile_imp mem, List.takeWhile_append_dropWhile.symm⟩

/-- Leading digits are split off up to where something else stands. -/
theorem spanDigits_append {digits rest : List Char} (all : AreDigits digits)
    (stop : ∀ c ∈ rest.head?, isAsciiDigit c = false) :
    spanDigits (digits ++ rest) = (digits, rest) := by
  unfold spanDigits
  rw [List.takeWhile_append_of_pos all, List.dropWhile_append_of_pos all]
  cases rest with
  | nil => simp
  | cons c rest => simp [stop c rfl]

theorem ExponentPart.head {text : List Char} (h : ExponentPart text) :
    ∀ c ∈ text.head?, c = 'e' ∨ c = 'E' := by
  cases h with
  | absent => simp
  | present isMark _ _ _ => simpa using isMark

/-- Behind digits without a point there is no fraction. -/
theorem fractionPart_of_exponentPart {text : List Char} (h : ExponentPart text) :
    fractionPart text = ([], text) := by
  unfold fractionPart
  split
  · next rest =>
    have := h.head '.' rfl
    simp at this
  · rfl

theorem Mantissa.head {text : List Char} (h : Mantissa text) :
    ∃ c rest, text = c :: rest ∧ c ≠ '+' ∧ c ≠ '-' := by
  have ofDigits {digits : List Char} (ne : digits ≠ []) (all : AreDigits digits) (back) :
      ∃ c rest, digits ++ back = c :: rest ∧ c ≠ '+' ∧ c ≠ '-' := by
    cases digits with
    | nil => exact absurd rfl ne
    | cons c rest => exact ⟨c, rest ++ back, rfl, ne_sign_of_isAsciiDigit (all c (by simp))⟩
  cases h with
  | whole ne all => simpa using ofDigits ne all []
  | pointed ne all _ => exact ofDigits ne all _
  | leading _ _ => exact ⟨'.', _, rfl, by decide, by decide⟩

/-- What is read as a decimal, by the parts that the text is cut into. -/
theorem isSome_ofText?_iff_parts {text whole rest fraction exponent : List Char}
    (digits : spanDigits (takeSign text).2 = (whole, rest))
    (point : fractionPart rest = (fraction, exponent)) :
    (ofText? text).isSome = true ↔
      (whole ≠ [] ∨ fraction ≠ []) ∧ (exponentPart? exponent).isSome = true := by
  unfold ofText?
  cases sign : takeSign text with
  | mk negative unsigned =>
    rw [sign] at digits
    simp only [digits, point]
    by_cases empty : whole = [] <;> by_cases none : fraction = [] <;> simp [empty, none]

/-- **The texts that are read as decimals.** -/
theorem isSome_ofText?_iff {text : List Char} : (ofText? text).isSome = true ↔ Spelled text := by
  constructor
  · intro h
    have unsigned := signed_takeSign text
    cases digits : spanDigits (takeSign text).2 with
    | mk whole rest =>
    cases point : fractionPart rest with
    | mk fraction exponent =>
    obtain ⟨some, read⟩ := (isSome_ofText?_iff_parts digits point).mp h
    have tail := isSome_exponentPart?_iff.mp read
    obtain ⟨wholeDigits, cut⟩ := of_spanDigits digits
    rw [cut] at unsigned
    unfold fractionPart at point
    split at point
    · next behind =>
      obtain ⟨fractionDigits, rfl⟩ := of_spanDigits point
      by_cases empty : whole = []
      · subst empty
        have mantissa : Mantissa ('.' :: fraction) :=
          .leading (some.resolve_left (by simp)) fractionDigits
        exact @Spelled.intro text _ exponent unsigned mantissa tail
      · have mantissa : Mantissa (whole ++ '.' :: fraction) :=
          .pointed empty wholeDigits fractionDigits
        refine @Spelled.intro text _ exponent ?_ mantissa tail
        rwa [List.append_assoc, List.cons_append]
    · obtain ⟨rfl, rfl⟩ := Prod.mk.inj point
      exact .intro unsigned (.whole (some.resolve_right (by simp)) wholeDigits) tail
  · rintro ⟨signed, mantissa, tail⟩
    next m exponent =>
    have read := isSome_exponentPart?_iff.mpr tail
    have unsigned : (takeSign text).2 = m ++ exponent := by
      obtain ⟨c, rest, rfl, notSign⟩ := mantissa.head
      exact takeSign_of_signed signed (by simpa using notSign)
    have stop : ∀ c ∈ exponent.head?, isAsciiDigit c = false := by
      intro c first
      rcases tail.head c first with rfl | rfl <;> decide
    cases mantissa with
    | whole ne all =>
      have digits := spanDigits_append all stop
      rw [← unsigned] at digits
      exact (isSome_ofText?_iff_parts digits (fractionPart_of_exponentPart tail)).mpr
        ⟨.inl ne, read⟩
    | @pointed digits fraction ne all fractionAll =>
      have split : spanDigits (takeSign text).2 = (digits, '.' :: (fraction ++ exponent)) := by
        rw [unsigned, List.append_assoc, List.cons_append]
        exact spanDigits_append all (by simp [isAsciiDigit])
      exact (isSome_ofText?_iff_parts split (spanDigits_append fractionAll stop)).mpr
        ⟨.inl ne, read⟩
    | @leading fraction ne all =>
      have split : spanDigits (takeSign text).2 = ([], '.' :: (fraction ++ exponent)) := by
        rw [unsigned, List.cons_append]
        exact @spanDigits_append [] _ (by simp [AreDigits]) (by simp [isAsciiDigit])
      exact (isSome_ofText?_iff_parts split (spanDigits_append all stop)).mpr ⟨.inr ne, read⟩

/-- A decimal is written with digits, a point, the mark of an exponent and signs. -/
theorem Spelled.mem {text : List Char} (h : Spelled text) {c : Char} (mem : c ∈ text) :
    isAsciiDigit c = true ∨ c ∈ ['.', 'e', 'E', '+', '-'] := by
  have ofSigned {text rest : List Char} (signed : Signed text rest)
      (inside : ∀ c ∈ rest, isAsciiDigit c = true ∨ c ∈ ['.', 'e', 'E', '+', '-']) :
      ∀ c ∈ text, isAsciiDigit c = true ∨ c ∈ ['.', 'e', 'E', '+', '-'] := by
    cases signed with
    | bare => exact inside
    | plus => exact List.forall_mem_cons.mpr ⟨.inr (by simp), inside⟩
    | minus => exact List.forall_mem_cons.mpr ⟨.inr (by simp), inside⟩
  obtain ⟨signed, mantissa, tail⟩ := h
  refine ofSigned signed (List.forall_mem_append.mpr ⟨?_, ?_⟩) c mem
  · cases mantissa with
    | whole _ all => exact fun c mem => .inl (all c mem)
    | pointed _ all fraction =>
      exact List.forall_mem_append.mpr ⟨fun c mem => .inl (all c mem),
        List.forall_mem_cons.mpr ⟨.inr (by simp), fun c mem => .inl (fraction c mem)⟩⟩
    | leading _ fraction =>
      exact List.forall_mem_cons.mpr ⟨.inr (by simp), fun c mem => .inl (fraction c mem)⟩
  · cases tail with
    | absent => simp
    | present isMark signed' _ all =>
      refine List.forall_mem_cons.mpr ⟨.inr ?_, ofSigned signed' fun c mem => .inl (all c mem)⟩
      rcases isMark with rfl | rfl <;> simp

end Decimal
namespace Literal

/-- `Announces mark base`: behind a zero, a letter announces a base. -/
inductive Announces : Char → Nat → Prop where
  | sixteen {mark} : mark = 'x' ∨ mark = 'X' → Announces mark 16
  | two {mark} : mark = 'b' ∨ mark = 'B' → Announces mark 2
  | eight {mark} : mark = 'o' ∨ mark = 'O' → Announces mark 8

/-- The texts of literals, without the blanks around them. -/
inductive Spelled : List Char → Prop where
  | empty : Spelled []
  | infinity {text} : Decimal.Signed text "Infinity".toList → Spelled text
  | based {mark base digits} : Announces mark base → digits ≠ [] →
      (∀ c ∈ digits, (Decimal.digitValue? base c).isSome = true) →
      Spelled ('0' :: mark :: digits)
  | decimal {text} : Decimal.Spelled text → Spelled text

theorem plusInfinity_toList : "+Infinity".toList = '+' :: "Infinity".toList := by decide

theorem minusInfinity_toList : "-Infinity".toList = '-' :: "Infinity".toList := by decide

theorem isSome_infinity?_iff {text : List Char} :
    (infinity? text).isSome = true ↔ Decimal.Signed text "Infinity".toList := by
  unfold infinity?
  rw [plusInfinity_toList, minusInfinity_toList]
  generalize "Infinity".toList = word
  constructor
  · intro h
    split at h
    · next positive =>
      rw [Bool.or_eq_true, decide_eq_true_eq, decide_eq_true_eq] at positive
      rcases positive with rfl | rfl
      · exact .bare
      · exact .plus
    · split at h
      · next minus =>
        rw [minus]
        exact .minus
      · cases h
  · intro h
    cases h <;> simp

theorem prefixed?_eq_some_iff {text digits : List Char} {base : Nat} :
    prefixed? text = some (base, digits) ↔
      ∃ mark, Announces mark base ∧ text = '0' :: mark :: digits := by
  constructor
  · intro h
    unfold prefixed? at h
    split at h <;> cases h
    · exact ⟨'x', .sixteen (.inl rfl), rfl⟩
    · exact ⟨'X', .sixteen (.inr rfl), rfl⟩
    · exact ⟨'b', .two (.inl rfl), rfl⟩
    · exact ⟨'B', .two (.inr rfl), rfl⟩
    · exact ⟨'o', .eight (.inl rfl), rfl⟩
    · exact ⟨'O', .eight (.inr rfl), rfl⟩
  · rintro ⟨mark, announced, rfl⟩
    rcases announced with (rfl | rfl) | (rfl | rfl) | (rfl | rfl) <;> rfl

theorem lt_of_digitValue? {base d : Nat} {c : Char} (value : Decimal.digitValue? base c = some d) :
    d < base := by
  unfold Decimal.digitValue? at value
  simp only [Option.ite_none_right_eq_some, Option.some.injEq] at value
  obtain ⟨small, rfl⟩ := value
  exact small

theorem isSome_accumulate?_iff {base : Nat} {acc : Double} {digits : List Char} :
    (accumulate? base acc digits).isSome = true ↔
      ∀ c ∈ digits, (Decimal.digitValue? base c).isSome = true := by
  induction digits generalizing acc with
  | nil => simp [accumulate?]
  | cons c rest ih =>
    cases value : Decimal.digitValue? base c with
    | none => simp [accumulate?, value]
    | some digit => simp [accumulate?, value, ih]

/-- Behind the letter of a base there is nothing but digits of that base. -/
theorem spelled_based_iff {mark : Char} {base : Nat} {digits : List Char}
    (h : Announces mark base) :
    Spelled ('0' :: mark :: digits) ↔
      digits ≠ [] ∧ ∀ c ∈ digits, (Decimal.digitValue? base c).isSome = true := by
  constructor
  · intro spelled
    cases spelled with
    | infinity signed => cases signed
    | based h' ne all =>
      have announced : prefixed? ('0' :: mark :: digits) = some (base, digits) :=
        prefixed?_eq_some_iff.mpr ⟨mark, h, rfl⟩
      rw [prefixed?_eq_some_iff.mpr ⟨mark, h', rfl⟩] at announced
      cases announced
      exact ⟨ne, all⟩
    | decimal spelled =>
      have := spelled.mem (c := mark) (by simp)
      rcases h with (rfl | rfl) | (rfl | rfl) | (rfl | rfl) <;> simp [isAsciiDigit] at this
  · rintro ⟨ne, all⟩
    exact .based h ne all

/-- **The trimmed texts that stand for numbers.** -/
theorem isSome_ofTrimmed?_iff {text : List Char} :
    (ofTrimmed? text).isSome = true ↔ Spelled text := by
  unfold ofTrimmed?
  by_cases empty : text = []
  · subst empty
    simp [Spelled.empty]
  rw [if_neg (by simpa using empty)]
  cases infinite : infinity? text with
  | some x =>
    have := isSome_infinity?_iff.mp (by rw [infinite]; rfl)
    simp [Spelled.infinity this]
  | none =>
    have finite : ¬ Decimal.Signed text "Infinity".toList := by
      rw [← isSome_infinity?_iff, infinite]
      simp
    cases announced : prefixed? text with
    | some p =>
      obtain ⟨base, digits⟩ := p
      obtain ⟨mark, announces, rfl⟩ := prefixed?_eq_some_iff.mp announced
      rw [spelled_based_iff announces]
      by_cases nothing : digits = []
      · simp [nothing]
      · simp [nothing, isSome_accumulate?_iff]
    | none =>
      simp only [Option.isSome_map, Decimal.isSome_ofText?_iff]
      constructor
      · exact .decimal
      · intro h
        cases h with
        | empty => exact absurd rfl empty
        | infinity signed => exact absurd signed finite
        | based announces ne all =>
          rw [prefixed?_eq_some_iff.mpr ⟨_, announces, rfl⟩] at announced
          cases announced
        | decimal h => exact h

end Literal
end Rulebook
