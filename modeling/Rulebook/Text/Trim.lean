import Rulebook.Text.Class

/-!
Text without the blanks around it.

* `trim`: drops blanks on both sides and none inside.
* `trim_eq_nil_iff`: nothing is left exactly of a text made of blanks.
-/

namespace Rulebook.Text

/-- Drops the blanks at the start. -/
def trimStart (text : List Char) : List Char := text.dropWhile isBlank

/-- Drops the blanks at the end. -/
def trimEnd (text : List Char) : List Char := (trimStart text.reverse).reverse

/-- Drops the blanks on both sides. -/
def trim (text : List Char) : List Char := trimEnd (trimStart text)

theorem trimStart_eq_nil_iff {text : List Char} :
    trimStart text = [] ↔ ∀ c ∈ text, isBlank c = true := by
  induction text with
  | nil => simp [trimStart]
  | cons c rest ih =>
    by_cases h : isBlank c = true
    · have dropped : trimStart (c :: rest) = trimStart rest := by simp [trimStart, h]
      rw [dropped, ih]
      simp [h]
    · simp [trimStart, h]

theorem trimEnd_eq_nil_iff {text : List Char} :
    trimEnd text = [] ↔ ∀ c ∈ text, isBlank c = true := by
  simp [trimEnd, trimStart_eq_nil_iff]

/-- A text that starts with no blank is left as it is. -/
theorem trimStart_of_head {c : Char} {rest : List Char} (h : isBlank c = false) :
    trimStart (c :: rest) = c :: rest := by
  simp [trimStart, h]

/-- What is left starts with no blank. -/
theorem trimStart_head {text rest : List Char} {c : Char} (h : trimStart text = c :: rest) :
    isBlank c = false := by
  induction text with
  | nil => simp [trimStart] at h
  | cons d text ih =>
    by_cases hd : isBlank d = true
    · exact ih (by simpa [trimStart, hd] using h)
    · rw [trimStart_of_head (by simpa using hd)] at h
      simp_all

theorem trim_eq_nil_iff {text : List Char} :
    trim text = [] ↔ ∀ c ∈ text, isBlank c = true := by
  rw [← trimStart_eq_nil_iff, trim, trimEnd_eq_nil_iff]
  constructor
  · intro h
    cases start : trimStart text with
    | nil => rfl
    | cons c rest => simp_all [trimStart_head start]
  · intro h
    simp [h]

end Rulebook.Text
