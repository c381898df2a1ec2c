import Rulebook.Proofs.Condition.Format
import Rulebook.Proofs.Number.Notation
import Rulebook.Proofs.Token.Scan

/-!
Which conditions their printed text gives back.

* `spells_self_iff_of_isBare`: a value that is printed without quotes is read back exactly if no
  point stands at either of its ends.
* `plain_layout_iff`: when there is no delimiter in a condition.
* `Separable`, `Written.separable`: what is certain of a condition that has been read from a text
  without delimiters.
* `Separable.ofText?_toText`: such a condition is read back from its printed text, or that is
  refused.
* `Printable`: a condition that its printed text gives back.
-/

namespace Rulebook

open Text

/-! ### The characters of bare values -/

namespace Text

theorem isWord_of_isAsciiAlphanumericCode {c : Char}
    (h : isAsciiAlphanumericCode c.toNat = true) : isWord c = true := by
  have bound : c.toNat < 128 := by
    simp only [isAsciiAlphanumericCode, Bool.or_eq_true, Bool.and_eq_true, decide_eq_true_eq] at h
    omega
  simp [isWord, isWordCode, bound, h]

theorem isWord_of_isAsciiDigit {c : Char} (h : isAsciiDigit c = true) : isWord c = true := by
  refine isWord_of_isAsciiAlphanumericCode ?_
  simp only [isAsciiDigit, Bool.and_eq_true, decide_eq_true_eq, Char.le_def,
    UInt32.le_iff_toNat_le] at h
  simp only [isAsciiAlphanumericCode, Bool.or_eq_true, Bool.and_eq_true, decide_eq_true_eq]
  exact .inl (.inl h)

theorem isAlphanumeric_eq_false_of_isBlank {c : Char} (h : isBlank c = true) :
    isAlphanumeric c = false := by
  have disjoint : ∀ code ∈ blankCodes, (if code < 128 then isAsciiAlphanumericCode code
      else Property.alphabetic.has code || Property.decimalDigit.has code ||
        Property.otherNumber.has code) = false := by
    decide +kernel
  exact disjoint _ (List.contains_iff_mem.mp h)

end Text

theorem Decimal.isWord_of_digitValue? {base : Nat} {c : Char}
    (h : (digitValue? base c).isSome = true) : isWord c = true := by
  refine isWord_of_isAsciiAlphanumericCode ?_
  simp only [isAsciiAlphanumericCode, Bool.or_eq_true, Bool.and_eq_true, decide_eq_true_eq]
  unfold digitValue? at h
  simp only [Bool.and_eq_true, decide_eq_true_eq, Char.le_def, UInt32.le_iff_toNat_le] at h
  by_contra none
  simp only [not_or] at none
  obtain ⟨⟨noDigit, noCapital⟩, noSmall⟩ := none
  have digit : ¬ ('0'.val.toNat ≤ c.val.toNat ∧ c.val.toNat ≤ '9'.val.toNat) := noDigit
  have small : ¬ ('a'.val.toNat ≤ c.val.toNat ∧ c.val.toNat ≤ 'f'.val.toNat) :=
    fun bounds => noSmall ⟨bounds.1, Nat.le_trans bounds.2 (by decide)⟩
  have capital : ¬ ('A'.val.toNat ≤ c.val.toNat ∧ c.val.toNat ≤ 'F'.val.toNat) :=
    fun bounds => noCapital ⟨bounds.1, Nat.le_trans bounds.2 (by decide)⟩
  -- Of neither a digit nor a letter the value is the base, and no digit has that value.
  rw [if_neg digit, if_neg small, if_neg capital] at h
  simp at h

namespace Condition

/-- Whether a character may stand in a value without quotes. -/
def isBareChar (c : Char) : Bool := isAlphanumeric c || c == '_' || c == '.'

theorem isBlank_eq_false_of_isBareChar {c : Char} (h : isBareChar c = true) :
    isBlank c = false := by
  by_contra blank
  rw [Bool.not_eq_false] at blank
  unfold isBareChar at h
  rw [isAlphanumeric_eq_false_of_isBlank blank, Bool.false_or, Bool.or_eq_true, beq_iff_eq,
    beq_iff_eq] at h
  rcases h with rfl | rfl
  · exact absurd blank (by decide)
  · exact absurd blank (by decide)

theorem isBare_iff {value : String} : isBare value = true ↔
    value.toList ≠ [] ∧ (∀ c ∈ value.toList, isBareChar c = true) ∧
      Literal.Spelled value.toList := by
  have untrimmed (all : ∀ c ∈ value.toList, isBareChar c = true) :
      trim value.toList = value.toList :=
    trim_eq_self
      (fun c first => isBlank_eq_false_of_isBareChar (all c (List.mem_of_mem_head? first)))
      (fun c last => isBlank_eq_false_of_isBareChar (all c (List.mem_of_mem_getLast? last)))
  unfold isBare Literal.toNumber?
  simp only [Bool.and_eq_true, List.all_eq_true, Bool.not_eq_true']
  constructor
  · rintro ⟨⟨full, all⟩, number⟩
    refine ⟨?_, all, ?_⟩
    · intro empty
      rw [String.toList_eq_nil_iff] at empty
      subst empty
      cases full
    · rw [untrimmed all] at number
      exact Literal.isSome_ofTrimmed?_iff.mp number
  · rintro ⟨full, all, spelled⟩
    refine ⟨⟨?_, all⟩, ?_⟩
    · rw [← Bool.not_eq_true, String.isEmpty_iff]
      rintro rfl
      exact full rfl
    · rw [untrimmed all]
      exact Literal.isSome_ofTrimmed?_iff.mpr spelled

/-- No sign stands in a value without quotes. -/
theorem unsigned_of_isBareChar {text rest : List Char} (signed : Decimal.Signed text rest)
    (all : ∀ c ∈ text, isBareChar c = true) : text = rest := by
  cases signed with
  | bare => rfl
  | plus => exact absurd (all '+' (by simp)) (by decide)
  | minus => exact absurd (all '-' (by simp)) (by decide)

/-- A decimal without signs and without a point at its ends is a word, or two words with a point
between. -/
theorem spells_self_of_decimal {text : List Char} (all : ∀ c ∈ text, isBareChar c = true)
    (spelled : Decimal.Spelled text) (first : text.head? ≠ some '.')
    (last : text.getLast? ≠ some '.') : Spells text text := by
  have words {digits : List Char} (h : Decimal.AreDigits digits) :
      ∀ c ∈ digits, isWord c = true := fun c mem => isWord_of_isAsciiDigit (h c mem)
  obtain ⟨signed, mantissa, tail⟩ := spelled
  next m exponent =>
  obtain rfl := unsigned_of_isBareChar signed all
  have tailWords : ∀ c ∈ exponent, isWord c = true := by
    cases tail with
    | absent => simp
    | @present mark text digits isMark signed' _ digitsAll =>
      obtain rfl := unsigned_of_isBareChar signed' fun c mem => all c (by simp [mem])
      refine List.forall_mem_cons.mpr ⟨?_, words digitsAll⟩
      rcases isMark with rfl | rfl <;> decide
  cases mantissa with
  | whole some digits =>
    exact .word (isName_iff.mpr ⟨by simp [some], List.forall_mem_append.mpr
      ⟨words digits, tailWords⟩⟩)
  | @pointed front fraction some digits fractionDigits =>
    have backName : isName (fraction ++ exponent) = true := by
      refine isName_iff.mpr ⟨fun empty => last ?_, List.forall_mem_append.mpr
        ⟨words fractionDigits, tailWords⟩⟩
      rw [List.append_assoc, List.cons_append, empty]
      simp
    exact .pointed (isName_iff.mpr ⟨some, words digits⟩) backName (by simp)
  | leading _ _ => exact absurd rfl first

/-- A bare value without a point at its ends is a word, or two words with a point between. -/
theorem spells_self_of_literal {text : List Char} (ne : text ≠ [])
    (all : ∀ c ∈ text, isBareChar c = true) (spelled : Literal.Spelled text)
    (first : text.head? ≠ some '.') (last : text.getLast? ≠ some '.') : Spells text text := by
  cases spelled with
  | empty => exact absurd rfl ne
  | infinity signed =>
    rw [unsigned_of_isBareChar signed all]
    exact .word (by decide)
  | @based mark base digits announces _ inBase =>
    refine .word (isName_iff.mpr ⟨by simp, List.forall_mem_cons.mpr ⟨by decide,
      List.forall_mem_cons.mpr ⟨?_, fun c mem => Decimal.isWord_of_digitValue? (inBase c mem)⟩⟩⟩)
    rcases announces with (rfl | rfl) | (rfl | rfl) | (rfl | rfl) <;> decide
  | decimal decimal => exact spells_self_of_decimal all decimal first last

/-- Neither a word nor two words with a point between them have a point at an end. -/
theorem Spells.ends_ne_point {value literal : List Char} (h : Spells value literal)
    (bare : literal = value) : value.head? ≠ some '.' ∧ value.getLast? ≠ some '.' := by
  have ofEnds {text : List Char} (starts : startsInWord text = true)
      (ends : endsInWord text = true) :
      text.head? ≠ some '.' ∧ text.getLast? ≠ some '.' := by
    constructor
    · intro first
      rw [startsInWord, first] at starts
      exact absurd starts (by decide)
    · intro last
      rw [endsInWord, last] at ends
      exact absurd ends (by decide)
  cases h with
  | quoted _ =>
    have := congrArg List.length bare
    simp only [List.length_cons, List.length_append, List.length_nil] at this
    omega
  | word named => exact ofEnds (startsInWord_of_isName named) (endsInWord_of_isName named)
  | @pointed front back frontName backName split =>
    have frontFull := (isName_iff.mp frontName).1
    have backFull := (isName_iff.mp backName).1
    rw [split]
    refine ofEnds ?_ ?_
    · rw [startsInWord_append frontFull, startsInWord_of_isName frontName]
    · rw [List.append_cons, endsInWord_append backFull, endsInWord_of_isName backName]

/-- **A value that is printed without quotes is read back exactly if no point stands at either of
its ends.** -/
theorem spells_self_iff_of_isBare {value : String} (h : isBare value = true) :
    Spells value.toList value.toList ↔
      value.toList.head? ≠ some '.' ∧ value.toList.getLast? ≠ some '.' := by
  obtain ⟨ne, all, spelled⟩ := isBare_iff.mp h
  constructor
  · intro spells
    exact spells.ends_ne_point rfl
  · rintro ⟨first, last⟩
    exact spells_self_of_literal ne all spelled first last

/-! ### Delimiters in a condition -/

open Token (Plain plain_iff plain_append_iff)

/-- A text without word characters and parentheses is plain. -/
theorem plain_of_not_isWord {text : List Char} (h : ∀ c ∈ text, isWord c = false)
    (noOpen : '(' ∉ text) (noClose : ')' ∉ text) : Plain text := by
  refine plain_iff.mpr ⟨noOpen, noClose, ?_⟩
  rintro op ⟨before, after, rfl, -⟩
  obtain ⟨ne, word⟩ := isName_iff.mp op.isName_keyword
  obtain ⟨c, mem⟩ := List.exists_mem_of_ne_nil _ ne
  have noWord := h c (by simp [mem])
  rw [word c mem] at noWord
  cases noWord

theorem plain_of_blanks {gap : List Char} (h : ∀ c ∈ gap, isBlank c = true) : Plain gap := by
  refine plain_of_not_isWord (fun c mem => isWord_eq_false_of_isBlank (h c mem)) ?_ ?_
  · intro mem
    exact absurd (h _ mem) (by decide)
  · intro mem
    exact absurd (h _ mem) (by decide)

/-- A character of no word is plain by itself, unless it is a parenthesis. -/
theorem plain_singleton {c : Char} (h : isWord c = false) (notOpen : '(' ≠ c) (notClose : ')' ≠ c) :
    Plain [c] :=
  plain_of_not_isWord (List.forall_mem_singleton.mpr h) (by simpa using notOpen)
    (by simpa using notClose)

theorem plain_symbol (c : Comparison) : Plain c.symbol.toList := by
  cases c <;> exact plain_singleton (by decide) (by decide) (by decide)

/-- A name is plain unless it is the word of a connective. -/
theorem plain_name_iff {name : List Char} (h : isName name = true) :
    Plain name ↔ ∀ op : Connective, name ≠ op.keyword.toList := by
  have noParen {c : Char} (paren : isWord c = false) : name ≠ [c] := by
    rintro rfl
    rw [(isName_iff.mp h).2 c (by simp)] at paren
    cases paren
  rw [Plain, Token.pieces_of_isName h]
  simp only [List.mem_singleton, forall_eq, Token.delimiter?_eq_none_iff]
  exact ⟨fun plain => plain.2.2, fun noWord => ⟨noParen (by decide), noParen (by decide), noWord⟩⟩

/-- Quotes around a text neither make a delimiter nor hide one. -/
theorem plain_quoted_iff {text : List Char} : Plain ('\'' :: (text ++ ['\''])) ↔ Plain text := by
  have quote : Plain ['\''] := plain_singleton isWord_quote (by decide) (by decide)
  have ends : endsInWord ['\''] = false := isWord_quote
  have starts : startsInWord ['\''] = false := isWord_quote
  rw [← List.singleton_append, plain_append_iff (.inl ends), plain_append_iff (.inr starts)]
  exact ⟨fun h => h.2.1, fun h => ⟨quote, h, quote⟩⟩

theorem Spells.plain_iff {value literal : List Char} (h : Spells value literal) :
    Plain literal ↔ Plain value := by
  rcases h.eq_or_startsInWord with ⟨rfl, -⟩ | ⟨rfl, -⟩
  · exact plain_quoted_iff
  · exact Iff.rfl

/-- **The delimiters in a condition are those of its name and of its value.** -/
theorem plain_layout_iff {name gap gap' literal : List Char} {c : Comparison}
    (named : isName name = true) (blank : ∀ x ∈ gap, isBlank x = true)
    (blank' : ∀ x ∈ gap', isBlank x = true) :
    Plain (layout name gap c gap' literal) ↔
      (∀ op : Connective, name ≠ op.keyword.toList) ∧ Plain literal := by
  have signEnds : endsInWord c.symbol.toList = false := by cases c <;> decide
  rw [layout, plain_append_iff (.inr (startsInWord_behind_name c blank)),
    plain_append_iff (.inl (endsInWord_of_blanks blank)), plain_append_iff (.inl signEnds),
    plain_append_iff (.inl (endsInWord_of_blanks blank')), plain_name_iff named]
  exact ⟨fun h => ⟨h.1, h.2.2.2.2⟩, fun h =>
    ⟨h.1, plain_of_blanks blank, plain_symbol c, plain_of_blanks blank', h.2⟩⟩

/-! ### Conditions that can be written -/

/-- What the parts of a condition must be so that it can be written without a delimiter. -/
structure Separable (c : Condition) : Prop where
  field_ne_empty : c.field ≠ ""
  field_word : ∀ x ∈ c.field.toList, isWord x = true
  field_ne_keyword : ∀ op : Connective, c.field ≠ op.keyword
  noQuote : '\'' ∉ c.value.toList
  noOpen : '(' ∉ c.value.toList
  noClose : ')' ∉ c.value.toList
  noKeyword : ∀ op : Connective, ¬ StandsIn op.keyword.toList c.value.toList

theorem separable_iff {c : Condition} : Separable c ↔ isName c.field.toList = true ∧
    (∀ op : Connective, c.field.toList ≠ op.keyword.toList) ∧
      '\'' ∉ c.value.toList ∧ Plain c.value.toList := by
  rw [isName_iff, plain_iff, ne_eq, String.toList_eq_nil_iff]
  simp only [ne_eq, String.toList_inj]
  constructor
  · rintro ⟨full, word, noWord, noQuote, noOpen, noClose, noKeyword⟩
    exact ⟨⟨full, word⟩, noWord, noQuote, noOpen, noClose, noKeyword⟩
  · rintro ⟨⟨full, word⟩, noWord, noQuote, noOpen, noClose, noKeyword⟩
    exact ⟨full, word, noWord, noQuote, noOpen, noClose, noKeyword⟩

/-- **What is read from a text without delimiters can be written without one.** -/
theorem Written.separable {c : Condition} {text : List Char} (h : Written c text)
    (plain : Plain text) : Separable c := by
  obtain ⟨gap, gap', literal, rfl, named, blank, blank', spells⟩ := h
  obtain ⟨noWord, plainLiteral⟩ := (plain_layout_iff named blank blank').mp plain
  exact separable_iff.mpr ⟨named, noWord, spells.noQuote, spells.plain_iff.mp plainLiteral⟩

/-! ### Printed conditions -/

/-- How the value of a condition is printed. -/
def printedValue (value : String) : List Char :=
  if isBare value then value.toList else '\'' :: (value.toList ++ ['\''])

theorem toList_toText (c : Condition) :
    c.toText.toList = layout c.field.toList [' '] c.comparison [' '] (printedValue c.value) := by
  unfold toText printedValue layout
  split <;> simp [*]

theorem printedGap : ∀ x ∈ [' '], isBlank x = true := List.forall_mem_singleton.mpr (by decide)

theorem plain_printedValue_iff {value : String} :
    Plain (printedValue value) ↔ Plain value.toList := by
  unfold printedValue
  split
  · exact Iff.rfl
  · exact plain_quoted_iff

/-- A printed value neither starts nor ends with a blank. -/
theorem printedValue_solid (value : String) : printedValue value ≠ [] ∧
    (∀ x ∈ (printedValue value).head?, isBlank x = false) ∧
      ∀ x ∈ (printedValue value).getLast?, isBlank x = false := by
  unfold printedValue
  split
  · next bare =>
    obtain ⟨ne, all, -⟩ := isBare_iff.mp bare
    exact ⟨ne, fun x first => isBlank_eq_false_of_isBareChar (all x (List.mem_of_mem_head? first)),
      fun x last => isBlank_eq_false_of_isBareChar (all x (List.mem_of_mem_getLast? last))⟩
  · have quote : isBlank '\'' = false := by decide
    refine ⟨by simp, by simpa using quote, ?_⟩
    rw [← List.cons_append, List.getLast?_concat]
    simpa using quote

/-- Whether a value is printed without quotes although a point stands at one of its ends. -/
def isMisprinted (value : String) : Bool :=
  isBare value && (value.toList.head? == some '.' || value.toList.getLast? == some '.')

theorem isMisprinted_eq_false_iff {value : String} : isMisprinted value = false ↔
    (isBare value = true → value.toList.head? ≠ some '.' ∧ value.toList.getLast? ≠ some '.') := by
  cases bare : isBare value <;> simp [isMisprinted, bare]

/-- **A printed value is read back, or nothing is read.** -/
theorem value?_printedValue {value : String} (noQuote : '\'' ∉ value.toList) :
    value? (printedValue value) = if isMisprinted value then none else some value := by
  unfold printedValue
  split
  · next bare =>
    split
    · next misprinted =>
      refine Option.eq_none_iff_forall_ne_some.mpr fun other read => ?_
      have spells := value?_eq_some_iff.mp read
      have same : value.toList = other.toList := by
        rcases spells.eq_or_startsInWord with ⟨quoted, -⟩ | ⟨same, -⟩
        · rw [quoted] at noQuote
          exact absurd List.mem_cons_self noQuote
        · exact same
      rw [← same, spells_self_iff_of_isBare bare] at spells
      rw [isMisprinted_eq_false_iff.mpr fun _ => spells] at misprinted
      cases misprinted
    · next printed =>
      rw [Bool.not_eq_true, isMisprinted_eq_false_iff] at printed
      exact value?_eq_some_iff.mpr ((spells_self_iff_of_isBare bare).mpr (printed bare))
  · next quoted =>
    have printed : isMisprinted value = false := by simp [isMisprinted, quoted]
    rw [printed, value?_eq_some_iff.mpr (.quoted noQuote)]
    rfl

theorem Separable.plain_toText {c : Condition} (h : Separable c) : Plain c.toText.toList := by
  obtain ⟨named, noWord, -, plain⟩ := separable_iff.mp h
  rw [toList_toText, plain_layout_iff named printedGap printedGap, plain_printedValue_iff]
  exact ⟨noWord, plain⟩

/-- **A condition that can be written is read back from its printed text, or that is refused.** -/
theorem Separable.ofText?_toText {c : Condition} (h : Separable c) :
    ofText? c.toText =
      if isMisprinted c.value then .error (.invalidCondition c.toText) else .ok c := by
  obtain ⟨named, -, noQuote, -⟩ := separable_iff.mp h
  unfold ofText?
  rw [toList_toText, read?_layout named printedGap printedGap (printedValue_solid _).2.1,
    value?_printedValue noQuote, String.ofList_toList]
  cases isMisprinted c.value <;> rfl

/-- A condition that its printed text gives back, without a delimiter in that text. -/
structure Printable (c : Condition) : Prop extends Separable c where
  /-- No point stands at an end of a value that is printed without quotes. -/
  bareEnds : isBare c.value = true →
    c.value.toList.head? ≠ some '.' ∧ c.value.toList.getLast? ≠ some '.'

theorem printable_iff {c : Condition} :
    c.Printable ↔ c.Separable ∧ isMisprinted c.value = false := by
  rw [isMisprinted_eq_false_iff]
  exact ⟨fun h => ⟨h.toSeparable, h.bareEnds⟩, fun h => ⟨h.1, h.2⟩⟩

theorem Separable.startsInWord_toText {c : Condition} (h : Separable c) :
    startsInWord c.toText.toList = true := by
  have named := (separable_iff.mp h).1
  rw [toList_toText, layout, startsInWord_append (isName_iff.mp named).1,
    startsInWord_of_isName named]

/-- No blank stands at an end of a printed condition. -/
theorem Separable.trim_toText {c : Condition} (h : Separable c) :
    trim c.toText.toList = c.toText.toList := by
  obtain ⟨full, -, last⟩ := printedValue_solid c.value
  have starts := h.startsInWord_toText
  refine trim_eq_self (fun x first => ?_) fun x final => last x ?_
  · rw [startsInWord, Option.mem_def.mp first] at starts
    by_contra blank
    rw [Bool.not_eq_false] at blank
    rw [Option.any_some, isWord_eq_false_of_isBlank blank] at starts
    cases starts
  · rwa [toList_toText, layout, ← List.append_assoc, ← List.append_assoc, ← List.append_assoc,
      List.getLast?_append_of_ne_nil _ full] at final

end Condition
end Rulebook
