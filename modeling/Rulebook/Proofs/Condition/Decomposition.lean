import Rulebook.Proofs.Condition.Format

/-!
The one way to take a text apart as a condition.

* `Decomposition`: a text as a name, blanks, a sign, blanks and a literal that spells a value.
* `Decomposition.unique`: no text can be taken apart in two ways.
* `Spells.trimQuotes_literal`: the value is the literal without the quotes at its ends.
* `ofText?_iff_decomposition`: a text is a condition exactly if it can be taken apart, and then the
  one with these parts; any other text is refused as it is.
-/

namespace Rulebook.Condition

open Text

/-- A text taken apart as a condition. -/
@[ext]
structure Decomposition (text : List Char) where
  name : List Char
  gap : List Char
  comparison : Comparison
  gap' : List Char
  literal : List Char
  value : List Char
  text_eq : text = layout name gap comparison gap' literal
  named : isName name = true
  blank : ∀ x ∈ gap, isBlank x = true
  blank' : ∀ x ∈ gap', isBlank x = true
  spells : Spells value literal

/-- A text without the quotes at its ends, however many there are. -/
def trimQuotes (text : List Char) : List Char :=
  ((text.dropWhile (· == '\'')).reverse.dropWhile (· == '\'')).reverse

/-! ### Forced parts -/

/-- Where a run of characters of a class ends is forced. -/
theorem eq_of_append_eq {p : Char → Bool} {run run' rest rest' : List Char}
    (inside : ∀ x ∈ run, p x = true) (outside : ∀ x ∈ rest.head?, p x = false)
    (inside' : ∀ x ∈ run', p x = true) (outside' : ∀ x ∈ rest'.head?, p x = false)
    (same : run ++ rest = run' ++ rest') : run = run' ∧ rest = rest' := by
  have first : run = run' := by
    rw [← takeWhile_append_of_head inside outside, same, takeWhile_append_of_head inside' outside']
  subst first
  exact ⟨rfl, List.append_cancel_left same⟩

/-- A literal spells one value only. -/
theorem Spells.eq {value value' literal : List Char} (h : Spells value literal)
    (h' : Spells value' literal) : value = value' := by
  have read {value : List Char} (h : Spells value literal) :
      value? literal = some (String.ofList value) :=
    value?_eq_some_iff.mpr (by rwa [String.toList_ofList])
  exact String.ofList_injective (Option.some.inj ((read h).symm.trans (read h')))

/-- Nothing is dropped from a text that does not begin with a quote. -/
theorem dropQuotes_of_head {text : List Char} (solid : text.head? ≠ some '\'') :
    text.dropWhile (· == '\'') = text := by
  cases text with
  | nil => rfl
  | cons x rest =>
    have other : (x == '\'') = false := by simpa using solid
    simp [other]

/-- **The value is the literal without the quotes at its ends.** No quote is in the value, so no more
is dropped than the two around it, if there are two. -/
theorem Spells.trimQuotes_literal {value literal : List Char} (h : Spells value literal) :
    trimQuotes literal = value := by
  have front {text : List Char} (noQuote : '\'' ∉ text) : text.head? ≠ some '\'' :=
    fun first => noQuote (List.mem_of_mem_head? first)
  have noQuote : '\'' ∉ value := h.noQuote
  have noQuoteBehind : '\'' ∉ value.reverse := by simpa using noQuote
  unfold trimQuotes
  rcases h.eq_or_startsInWord with ⟨rfl, -⟩ | ⟨rfl, -⟩
  · cases value with
    | nil => rfl
    | cons x rest =>
      have starts : (x :: rest ++ ['\'']).head? ≠ some '\'' :=
        (front noQuote : (x :: rest).head? ≠ some '\'')
      rw [List.dropWhile_cons_of_pos rfl, dropQuotes_of_head starts, List.reverse_append,
        List.reverse_singleton, List.singleton_append, List.dropWhile_cons_of_pos rfl,
        dropQuotes_of_head (front noQuoteBehind), List.reverse_reverse]
  · rw [dropQuotes_of_head (front noQuote), dropQuotes_of_head (front noQuoteBehind),
      List.reverse_reverse]

namespace Decomposition

variable {text : List Char}

/-- The condition with the parts of a text. -/
def condition (d : Decomposition text) : Condition :=
  ⟨String.ofList d.name, d.comparison, String.ofList d.value⟩

/-- **No text can be taken apart in two ways.** A name ends where the word characters end, and the
gaps end where the blanks do. -/
theorem unique (d e : Decomposition text) : d = e := by
  obtain ⟨name, gap, comparison, gap', literal, value, rfl, named, blank, blank', spells⟩ := d
  obtain ⟨name₂, gap₂, comparison₂, gap₂', literal₂, value₂, same, named₂, blank₂, blank₂',
    spells₂⟩ := e
  obtain ⟨sign, symbol, -, solid, known⟩ := comparison.exists_sign
  obtain ⟨sign₂, symbol₂, -, solid₂, known₂⟩ := comparison₂.exists_sign
  obtain ⟨rfl, behindName⟩ := eq_of_append_eq (isName_iff.mp named).2
    (startsInWord_eq_false_iff.mp (startsInWord_behind_name comparison blank))
    (isName_iff.mp named₂).2
    (startsInWord_eq_false_iff.mp (startsInWord_behind_name comparison₂ blank₂)) same
  rw [symbol, symbol₂] at behindName
  obtain ⟨rfl, fromSign⟩ := eq_of_append_eq blank (by simpa using solid) blank₂
    (by simpa using solid₂) behindName
  obtain ⟨rfl, behindSign⟩ := List.cons.inj fromSign
  obtain rfl : comparison = comparison₂ := Option.some.inj (known.symm.trans known₂)
  obtain ⟨rfl, rfl⟩ := eq_of_append_eq blank' spells.head_solid blank₂' spells₂.head_solid
    behindSign
  obtain rfl := spells.eq spells₂
  rfl

end Decomposition

/-- A way to write a condition is a way to take the text apart. -/
theorem written_iff_exists_decomposition {c : Condition} {text : List Char} :
    Written c text ↔ ∃ d : Decomposition text, d.condition = c := by
  constructor
  · rintro ⟨gap, gap', literal, text_eq, named, blank, blank', spells⟩
    refine ⟨⟨_, gap, c.comparison, gap', literal, _, text_eq, named, blank, blank', spells⟩, ?_⟩
    simp [Decomposition.condition]
  · rintro ⟨⟨name, gap, comparison, gap', literal, value, text_eq, named, blank, blank', spells⟩, rfl⟩
    refine ⟨gap, gap', literal, ?_⟩
    simp only [Decomposition.condition, String.toList_ofList]
    exact ⟨text_eq, named, blank, blank', spells⟩

/-- **A text is a condition exactly if it can be taken apart as one**, and then the one with these
parts. It can be taken apart in one way at most; its value is the literal without the quotes at its
ends. Every other text is refused, and the refusal carries it unchanged. -/
theorem ofText?_iff_decomposition (fragment : String) :
    (∀ c, ofText? fragment = .ok c ↔ ∃ d : Decomposition fragment.toList, d.condition = c) ∧
    (∀ d e : Decomposition fragment.toList, d = e) ∧
    (∀ d : Decomposition fragment.toList, d.value = trimQuotes d.literal) ∧
    (∀ cause, ofText? fragment = .error cause ↔
      IsEmpty (Decomposition fragment.toList) ∧ cause = .invalidCondition fragment) := by
  have accepts (c : Condition) :
      ofText? fragment = .ok c ↔ ∃ d : Decomposition fragment.toList, d.condition = c :=
    ofText?_eq_ok_iff.trans written_iff_exists_decomposition
  refine ⟨accepts, Decomposition.unique, fun d => d.spells.trimQuotes_literal.symm, fun cause => ?_⟩
  constructor
  · intro refused
    refine ⟨⟨fun d => ?_⟩, ?_⟩
    · have read := (accepts d.condition).mpr ⟨d, rfl⟩
      rw [read] at refused
      cases refused
    · unfold ofText? at refused
      split at refused <;> cases refused
      rfl
  · rintro ⟨⟨none⟩, rfl⟩
    cases read : ofText? fragment with
    | ok c =>
      obtain ⟨d, -⟩ := (accepts c).mp read
      exact (none d).elim
    | error cause =>
      unfold ofText? at read
      split at read <;> cases read
      rfl

/-- Line breaks are blanks, and a literal can be empty. -/
example : ofText? "a\n=''" = .ok ⟨"a", .equal, ""⟩ := by decide +kernel

end Rulebook.Condition
