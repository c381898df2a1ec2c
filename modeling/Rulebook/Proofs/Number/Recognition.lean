import Rulebook.Proofs.Number.Notation
import Rulebook.Settings.Source

/-!
How it is recognised which texts stand for numbers.

A value is taken by the first of several stages. It is trimmed, held against the words for the
infinities, its first two bytes are held against the prefixes, the rest against a pattern that knows
the digits of all scripts, and what matches is given to the reader of real numbers, which knows
words of its own. What gets through is told by one grammar.

* `Text.front?`: the first bytes of a text, if a character ends with them.
* `Decimal.Matches`: the pattern of decimals, with the digits of all scripts.
* `Decimal.matches_and_read_iff`: what matches and can be read is a decimal in ASCII digits.
* `Literal.Taken`: what the stages make of a text, `Literal.ofTrimmed?_eq_some_iff_taken`.
* `Literal.isSome_toNumber?_iff_grammar`: which values stand for numbers.
-/

namespace Rulebook

namespace Text

/-- The characters that the first bytes of a text in UTF-8 are, if these end where a character
ends. -/
def front? : Nat → List Char → Option (List Char)
  | 0, _ => some []
  | _ + 1, [] => none
  | bytes + 1, c :: rest =>
    if c.utf8Size ≤ bytes + 1 then (front? (bytes + 1 - c.utf8Size) rest).map (c :: ·) else none

theorem front?_append (front rest : List Char) :
    front? (String.ofList front).utf8ByteSize (front ++ rest) = some front := by
  induction front with
  | nil =>
    change front? 0 rest = some []
    rw [front?]
  | cons c front ih =>
    obtain ⟨more, isMore⟩ := Nat.exists_eq_add_one.mpr (Char.utf8Size_pos c)
    have size : (String.ofList (c :: front)).utf8ByteSize =
        more + (String.ofList front).utf8ByteSize + 1 := by
      rw [String.ofList_cons, String.utf8ByteSize_append, String.utf8ByteSize_singleton, isMore]
      omega
    have behind : more + (String.ofList front).utf8ByteSize + 1 - c.utf8Size =
        (String.ofList front).utf8ByteSize := by
      omega
    rw [size, List.cons_append, front?, if_pos (by omega), behind, ih]
    rfl

theorem front?_prefix {bytes : Nat} {text front : List Char} (h : front? bytes text = some front) :
    front <+: text := by
  fun_induction front? bytes text generalizing front with
  | case1 text =>
    cases h
    exact List.nil_prefix
  | case2 => cases h
  | case3 bytes c rest fits ih =>
    obtain ⟨behind, found, rfl⟩ := Option.map_eq_some_iff.mp h
    exact List.cons_prefix_cons.mpr ⟨rfl, ih found⟩
  | case4 => cases h

end Text

namespace Decimal

/-- Digits of all scripts. -/
def AreNumerals (text : List Char) : Prop :=
  ∀ c ∈ text, Text.Property.decimalDigit.has c.toNat = true

/-- The exponent of the pattern, perhaps none. -/
inductive ExponentMatches : List Char → Prop where
  | absent : ExponentMatches []
  | present {mark text digits} : mark = 'e' ∨ mark = 'E' → Signed text digits → digits ≠ [] →
      AreNumerals digits → ExponentMatches (mark :: text)

/-- The pattern of decimals: an optional sign, digits with a point behind them or among them or with
none, or a point and digits, and an optional exponent. -/
inductive Matches : List Char → Prop where
  | whole {text digits point fraction exponent} :
      Signed text (digits ++ (point ++ (fraction ++ exponent))) → digits ≠ [] → AreNumerals digits →
      point = [] ∨ point = ['.'] → AreNumerals fraction → ExponentMatches exponent → Matches text
  | leading {text fraction exponent} : Signed text ('.' :: (fraction ++ exponent)) →
      fraction ≠ [] → AreNumerals fraction → ExponentMatches exponent → Matches text

theorem AreDigits.areNumerals {text : List Char} (h : AreDigits text) : AreNumerals text := by
  intro c mem
  have bounds := h c mem
  simp only [Text.isAsciiDigit, Bool.and_eq_true, decide_eq_true_eq, Char.le_def,
    UInt32.le_iff_toNat_le] at bounds
  exact Text.Ranges.has_iff.mpr ⟨(0x30, 0x39), by decide, bounds⟩

theorem ExponentPart.matches {text : List Char} (h : ExponentPart text) : ExponentMatches text := by
  cases h with
  | absent => exact .absent
  | present isMark signed some all => exact .present isMark signed some all.areNumerals

/-- Decimals match. -/
theorem Spelled.matches {text : List Char} (h : Spelled text) : Matches text := by
  obtain ⟨signed, mantissa, exponent⟩ := h
  cases mantissa with
  | whole some all =>
    exact @Matches.whole _ _ [] [] _ signed some all.areNumerals (.inl rfl) (by simp [AreNumerals])
      exponent.matches
  | pointed some all fraction =>
    rw [List.append_assoc, List.cons_append] at signed
    exact @Matches.whole _ _ ['.'] _ _ signed some all.areNumerals (.inr rfl) fraction.areNumerals
      exponent.matches
  | leading some all => exact .leading signed some all.areNumerals exponent.matches

/-- Behind the sign, a text that matches begins with a digit or a point. -/
theorem Matches.head {text : List Char} (h : Matches text) : ∃ c rest, Signed text (c :: rest) ∧
    (Text.Property.decimalDigit.has c.toNat = true ∨ c = '.') := by
  cases h with
  | leading signed _ _ _ => exact ⟨_, _, signed, .inr rfl⟩
  | @whole digits _ _ _ signed some all _ _ _ =>
    cases digits with
    | nil => exact absurd rfl some
    | cons c rest => exact ⟨c, _, signed, .inl (all c List.mem_cons_self)⟩

/-- Digits and points are no letters. -/
theorem toLower_of_numeral {c : Char}
    (h : Text.Property.decimalDigit.has c.toNat = true ∨ c = '.') : c.toLower = c := by
  rcases h with digit | rfl
  · have noLetter : ∀ code, code < 91 → 65 ≤ code →
        Text.Property.decimalDigit.has code = false := by
      decide +kernel
    refine dif_neg ?_
    rintro ⟨first, last⟩
    rw [noLetter c.toNat (Nat.lt_succ_of_le last) first] at digit
    cases digit
  · rfl

theorem ne_of_numeral {c other : Char} (h : Text.Property.decimalDigit.has c.toNat = true ∨ c = '.')
    (noDigit : Text.Property.decimalDigit.has other.toNat = false) (noPoint : other ≠ '.') :
    c ≠ other := by
  rintro rfl
  rcases h with digit | isPoint
  · cases noDigit.symm.trans digit
  · exact noPoint isPoint

/-- The reader of real numbers takes what matches for no word. -/
theorem Matches.realOfText? {text : List Char} (h : Matches text) :
    Setting.realOfText? (String.ofList text) =
      (ofText? text).map fun d => .real d.negative d.toDouble := by
  obtain ⟨c, rest, signed, isNumeral⟩ := h.head
  have notPlus : c ≠ '+' := ne_of_numeral isNumeral (by decide +kernel) (by decide)
  have notMinus : c ≠ '-' := ne_of_numeral isNumeral (by decide +kernel) (by decide)
  have notI : c ≠ 'i' := ne_of_numeral isNumeral (by decide +kernel) (by decide)
  have notN : c ≠ 'n' := ne_of_numeral isNumeral (by decide +kernel) (by decide)
  have digits := takeSign_of_signed signed (by simpa using ⟨notPlus, notMinus⟩)
  have first (word : String) (same : Text.small (String.ofList (takeSign text).2) = word) :
      word.toList.head? = some c := by
    rw [← same, digits, Text.small, String.toList_ofList, String.toList_ofList, List.map_cons,
      toLower_of_numeral isNumeral, List.head?_cons]
  unfold Setting.realOfText?
  rw [String.toList_ofList]
  cases sign : takeSign text with
  | mk negative unsigned =>
    rw [sign] at first
    dsimp only
    split
    · next same => exact absurd (first _ same) (by simpa using notI.symm)
    · next same => exact absurd (first _ same) (by simpa using notI.symm)
    · next same => exact absurd (first _ same) (by simpa using notN.symm)
    · rfl

/-- **The pattern and the reader of real numbers let the same through as the grammar:** what they
take beyond it, digits of other scripts here and words there, the other one does not take. -/
theorem matches_and_read_iff {text : List Char} {x : Double} :
    (ofText? text).map toDouble = some x ↔ Matches text ∧
      ∃ negative, Setting.realOfText? (String.ofList text) = some (.real negative x) := by
  constructor
  · intro h
    obtain ⟨d, read, rfl⟩ := Option.map_eq_some_iff.mp h
    have fits : Matches text := (isSome_ofText?_iff.mp (by rw [read]; rfl)).matches
    exact ⟨fits, d.negative, by rw [fits.realOfText?, read]; rfl⟩
  · rintro ⟨fits, negative, read⟩
    rw [fits.realOfText?] at read
    obtain ⟨d, found, same⟩ := Option.map_eq_some_iff.mp read
    cases same
    rw [found]
    rfl

end Decimal

namespace Literal

/-- The digits of the bases that a prefix announces. -/
def digitsOf : Nat → List Char
  | 2 => "01".toList
  | 8 => "01234567".toList
  | 16 => "0123456789abcdefABCDEF".toList
  | _ => []

theorem lt_of_isSome_digitValue? {base : Nat} {c : Char}
    (h : (Decimal.digitValue? base c).isSome = true) : c.toNat < 128 := by
  by_contra large
  have beyond {last : Char} (small : last.toNat < 128) : ¬c ≤ last := by
    rw [Char.le_def, UInt32.le_iff_toNat_le]
    exact fun before => large (Nat.lt_of_le_of_lt before small)
  have noDigit : ¬c ≤ '9' := beyond (by decide)
  have noSmall : ¬c ≤ 'f' := beyond (by decide)
  have noCapital : ¬c ≤ 'F' := beyond (by decide)
  simp [Decimal.digitValue?, noDigit, noSmall, noCapital] at h

theorem isSome_digitValue?_iff {mark : Char} {base : Nat} (announced : Announces mark base)
    {c : Char} : (Decimal.digitValue? base c).isSome = true ↔ c ∈ digitsOf base := by
  have table : (∀ code < 128, (Decimal.digitValue? base (Char.ofNat code)).isSome = true →
      Char.ofNat code ∈ digitsOf base) ∧
      (digitsOf base).all (fun c => (Decimal.digitValue? base c).isSome) = true := by
    cases announced <;> decide +kernel
  constructor
  · intro isDigit
    have := table.1 c.toNat (lt_of_isSome_digitValue? isDigit)
    rw [Char.ofNat_toNat] at this
    exact this isDigit
  · exact List.all_eq_true.mp table.2 c

/-- `Taken text x`: a trimmed text is taken for a number by the first stage that it is meant for.
Only a text that is not empty and no word for an infinity gets to the prefixes, which are looked for
in its first two bytes, and only one without a prefix gets to the pattern. -/
inductive Taken : List Char → Double → Prop where
  | empty : Taken [] .zero
  | infinity {text x} : infinity? text = some x → Taken text x
  | based {text mark base x} : Announces mark base → Text.front? 2 text = some ['0', mark] →
      text.drop 2 ≠ [] → accumulate? base .zero (text.drop 2) = some x → Taken text x
  | decimal {text negative x} : text ≠ [] → infinity? text = none →
      (∀ mark base, Announces mark base → Text.front? 2 text ≠ some ['0', mark]) →
      Decimal.Matches text → Setting.realOfText? (String.ofList text) = some (.real negative x) →
      Taken text x

/-- A prefix stands at the front of a text if it is its first two bytes. -/
theorem front?_two_iff {text : List Char} {mark : Char} {base : Nat}
    (announced : Announces mark base) :
    Text.front? 2 text = some ['0', mark] ↔ ∃ digits, text = '0' :: mark :: digits := by
  constructor
  · intro h
    obtain ⟨digits, rfl⟩ := Text.front?_prefix h
    exact ⟨digits, rfl⟩
  · rintro ⟨digits, rfl⟩
    have size : (String.ofList ['0', mark]).utf8ByteSize = 2 := by
      rcases announced with (rfl | rfl) | (rfl | rfl) | (rfl | rfl) <;> rfl
    have front := Text.front?_append ['0', mark] digits
    rwa [size] at front

/-- **Trimmed texts stand for what the stages take them for.** -/
theorem ofTrimmed?_eq_some_iff_taken {text : List Char} {x : Double} :
    ofTrimmed? text = some x ↔ Taken text x := by
  constructor
  · intro h
    unfold ofTrimmed? at h
    split at h
    · next empty =>
      cases h
      rw [List.isEmpty_iff.mp empty]
      exact .empty
    · next some =>
      split at h
      · next word =>
        cases h
        exact .infinity word
      · next noWord =>
        split at h
        · next base digits announced =>
          obtain ⟨mark, announces, rfl⟩ := prefixed?_eq_some_iff.mp announced
          split at h
          · cases h
          · next nonempty =>
            exact .based announces ((front?_two_iff announces).mpr ⟨_, rfl⟩)
              (by simpa using nonempty) h
        · next plain =>
          obtain ⟨fits, negative, read⟩ := Decimal.matches_and_read_iff.mp h
          refine .decimal (by simpa using some) noWord (fun mark base announces front => ?_)
            fits read
          obtain ⟨digits, rfl⟩ := (front?_two_iff announces).mp front
          rw [prefixed?_eq_some_iff.mpr ⟨mark, announces, rfl⟩] at plain
          cases plain
  · intro h
    cases h with
    | empty => rfl
    | infinity word =>
      have nothing : infinity? [] = none := by decide
      have some : text ≠ [] := by
        rintro rfl
        cases word.symm.trans nothing
      rw [ofTrimmed?, if_neg (by simpa using some), word]
    | @based _ mark base _ announces front nonempty read =>
      obtain ⟨digits, rfl⟩ := (front?_two_iff announces).mp front
      have noWord : infinity? ('0' :: mark :: digits) = none := by
        rw [← Option.not_isSome_iff_eq_none, isSome_infinity?_iff]
        rintro ⟨⟩
      have announced : prefixed? ('0' :: mark :: digits) = some (base, digits) :=
        prefixed?_eq_some_iff.mpr ⟨mark, announces, rfl⟩
      rw [ofTrimmed?, if_neg (by simp), noWord, announced]
      dsimp only
      rwa [if_neg (by simpa using nonempty)]
    | @decimal _ negative _ some noWord plain fits read =>
      have noPrefix : prefixed? text = none := by
        rw [Option.eq_none_iff_forall_ne_some]
        rintro ⟨base, digits⟩ announced
        obtain ⟨mark, announces, rfl⟩ := prefixed?_eq_some_iff.mp announced
        exact plain mark base announces ((front?_two_iff announces).mpr ⟨_, rfl⟩)
      rw [ofTrimmed?, if_neg (by simpa using some), noWord, noPrefix]
      exact Decimal.matches_and_read_iff.mpr ⟨fits, negative, read⟩

/-- The grammar with the words and the digits written out. -/
theorem spelled_iff {text : List Char} :
    Spelled text ↔ text = [] ∨
      text ∈ ["Infinity".toList, "+Infinity".toList, "-Infinity".toList] ∨
      (∃ mark base digits, Announces mark base ∧ text = '0' :: mark :: digits ∧ digits ≠ [] ∧
        ∀ c ∈ digits, c ∈ digitsOf base) ∨
      Decimal.Spelled text := by
  rw [plusInfinity_toList, minusInfinity_toList]
  constructor
  · intro h
    cases h with
    | empty => exact .inl rfl
    | infinity signed =>
      refine .inr (.inl ?_)
      cases signed <;> simp
    | based announces nonempty all =>
      refine .inr (.inr (.inl ⟨_, _, _, announces, rfl, nonempty, fun c mem => ?_⟩))
      exact (isSome_digitValue?_iff announces).mp (all c mem)
    | decimal spelled => exact .inr (.inr (.inr spelled))
  · rintro (rfl | word | ⟨mark, base, digits, announces, rfl, nonempty, all⟩ | spelled)
    · exact .empty
    · simp only [List.mem_cons, List.not_mem_nil, or_false] at word
      rcases word with rfl | rfl | rfl
      · exact .infinity .bare
      · exact .infinity .plus
      · exact .infinity .minus
    · refine .based announces nonempty fun c mem => ?_
      exact (isSome_digitValue?_iff announces).mpr (all c mem)
    · exact .decimal spelled

/-- A character of a literal: one of ASCII, and not the underscore. -/
def isLiteralChar (c : Char) : Bool := c.toNat < 128 && c ≠ '_'

theorem isLiteralChar_of_digitsOf {mark : Char} {base : Nat} (announced : Announces mark base) :
    isLiteralChar mark = true ∧ (digitsOf base).all isLiteralChar = true := by
  rcases announced with (rfl | rfl) | (rfl | rfl) | (rfl | rfl) <;> decide

theorem isLiteralChar_of_isAsciiDigit {c : Char} (h : Text.isAsciiDigit c = true) :
    isLiteralChar c = true := by
  simp only [Text.isAsciiDigit, Bool.and_eq_true, decide_eq_true_eq, Char.le_def,
    UInt32.le_iff_toNat_le] at h
  have small : c.toNat < 128 := Nat.lt_of_le_of_lt h.2 (by decide)
  have noLine : c ≠ '_' := by
    rintro rfl
    exact absurd h.2 (by decide)
  rw [isLiteralChar, decide_eq_true small, decide_eq_true noLine, Bool.and_self]

/-- Nothing beyond ASCII and no underscore stands in a literal. -/
theorem Spelled.isLiteralChar {text : List Char} (h : Spelled text) :
    ∀ c ∈ text, Literal.isLiteralChar c = true := by
  have word : ∀ c ∈ "Infinity".toList, Literal.isLiteralChar c = true :=
    List.all_eq_true.mp (by decide)
  cases h with
  | empty => exact fun c mem => absurd mem List.not_mem_nil
  | infinity signed =>
    cases signed with
    | bare => exact word
    | plus => exact List.forall_mem_cons.mpr ⟨rfl, word⟩
    | minus => exact List.forall_mem_cons.mpr ⟨rfl, word⟩
  | based announces nonempty all =>
    obtain ⟨isMark, isDigit⟩ := isLiteralChar_of_digitsOf announces
    refine List.forall_mem_cons.mpr ⟨rfl, List.forall_mem_cons.mpr ⟨isMark, fun c mem => ?_⟩⟩
    exact List.all_eq_true.mp isDigit c ((isSome_digitValue?_iff announces).mp (all c mem))
  | decimal spelled =>
    intro c mem
    rcases spelled.mem mem with digit | other
    · exact isLiteralChar_of_isAsciiDigit digit
    · have others : ['.', 'e', 'E', '+', '-'].all Literal.isLiteralChar = true := by decide
      exact List.all_eq_true.mp others c other

/-- **Which values stand for numbers.** A value stands for a number exactly if, without the blanks
around it, it is empty, a word for an infinity, digits behind the prefix of their base, or a decimal
in ASCII digits.

* It stands for what the stages take it for, one after the other.
* No value stands for one that has a character beyond ASCII or an underscore between its blanks, so
  neither digits of other scripts nor a character that two bytes would cut. -/
theorem isSome_toNumber?_iff_grammar (value : String) :
    ((toNumber? value).isSome = true ↔
      Text.trim value.toList = [] ∨
      Text.trim value.toList ∈ ["Infinity".toList, "+Infinity".toList, "-Infinity".toList] ∨
      (∃ mark base digits, Announces mark base ∧ Text.trim value.toList = '0' :: mark :: digits ∧
        digits ≠ [] ∧ ∀ c ∈ digits, c ∈ digitsOf base) ∨
      Decimal.Spelled (Text.trim value.toList)) ∧
    (∀ x, toNumber? value = some x ↔ Taken (Text.trim value.toList) x) ∧
    ∀ c ∈ Text.trim value.toList, isLiteralChar c = false → toNumber? value = none := by
  refine ⟨isSome_ofTrimmed?_iff.trans spelled_iff, fun x => ofTrimmed?_eq_some_iff_taken, ?_⟩
  intro c mem noLiteral
  rw [← Option.not_isSome_iff_eq_none]
  intro isNumber
  have isLiteral := (isSome_ofTrimmed?_iff.mp isNumber).isLiteralChar c mem
  cases noLiteral.symm.trans isLiteral

/-- Half a thousandth between blanks is a number, three in Arabic digits and five euros are none. -/
theorem halfThousandth_recognised :
    (toNumber? " +.5E-3\t").isSome = true ∧
    ((∃ c ∈ Text.trim "٣".toList, isLiteralChar c = false) ∧ toNumber? "٣" = none) ∧
    (∃ c ∈ Text.trim "5€".toList, isLiteralChar c = false) ∧ toNumber? "5€" = none := by
  have half : Decimal.Spelled "+.5E-3".toList := by
    have five : Decimal.AreDigits ['5'] := List.forall_mem_singleton.mpr rfl
    have three : Decimal.AreDigits ['3'] := List.forall_mem_singleton.mpr rfl
    have exponent : Decimal.ExponentPart ['E', '-', '3'] :=
      .present (.inr rfl) .minus (List.cons_ne_nil _ _) three
    exact @Decimal.Spelled.intro _ ['.', '5'] _ .plus (.leading (List.cons_ne_nil _ _) five)
      exponent
  have trimmed : Text.trim " +.5E-3\t".toList = "+.5E-3".toList := by decide +kernel
  have three : '٣' ∈ Text.trim "٣".toList ∧ isLiteralChar '٣' = false := by decide +kernel
  have euro : '€' ∈ Text.trim "5€".toList ∧ isLiteralChar '€' = false := by decide +kernel
  obtain ⟨grammar, -, -⟩ := isSome_toNumber?_iff_grammar " +.5E-3\t"
  obtain ⟨-, -, noScript⟩ := isSome_toNumber?_iff_grammar "٣"
  obtain ⟨-, -, noEuro⟩ := isSome_toNumber?_iff_grammar "5€"
  rw [trimmed] at grammar
  exact ⟨grammar.mpr (.inr (.inr (.inr half))), ⟨⟨_, three⟩, noScript _ three.1 three.2⟩,
    ⟨_, euro⟩, noEuro _ euro.1 euro.2⟩

example : ["inf", "NaN", "1_000", "٣", "0x", "-0x1", "5é", "€", "."].filterMap toNumber? = [] := by
  decide +kernel

end Literal
end Rulebook
