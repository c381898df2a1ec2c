/-!
The operators of the rule language.

* `Comparison`: how a condition compares a field with its value.
* `Connective`: how a rule joins two parts. Both have the same rank.
-/

namespace Rulebook

/-- How a field is compared with a value. There is no "at least" and no "at most". -/
inductive Comparison where
  | greater
  | less
  | equal
  deriving DecidableEq, Repr, Inhabited

namespace Comparison

/-- The sign of a comparison. -/
def symbol : Comparison → String
  | greater => ">"
  | less => "<"
  | equal => "="

/-- The comparison with a sign. -/
def ofSymbol? (text : String) : Option Comparison :=
  if text = ">" then some greater
  else if text = "<" then some less
  else if text = "=" then some equal
  else none

theorem ofSymbol?_eq_some_iff {text : String} {c : Comparison} :
    ofSymbol? text = some c ↔ text = c.symbol := by
  unfold ofSymbol?
  constructor
  · intro h
    repeat' split at h
    all_goals simp_all <;> subst h <;> rfl
  · rintro rfl
    cases c <;> decide

end Comparison

/-- How two parts of a rule are joined. -/
inductive Connective where
  | and
  | or
  deriving DecidableEq, Repr, Inhabited

namespace Connective

/-- The word for a connective. -/
def keyword : Connective → String
  | and => "AND"
  | or => "OR"

/-- The connective with a word, which has to be in capitals. -/
def ofKeyword? (text : String) : Option Connective :=
  if text = "AND" then some and
  else if text = "OR" then some or
  else none

theorem ofKeyword?_eq_some_iff {text : String} {op : Connective} :
    ofKeyword? text = some op ↔ text = op.keyword := by
  unfold ofKeyword?
  constructor
  · intro h
    repeat' split at h
    all_goals simp_all <;> subst h <;> rfl
  · rintro rfl
    cases op <;> decide

/-- The truth of a whole from the truth of its parts. -/
def apply : Connective → Bool → Bool → Bool
  | and, left, right => left && right
  | or, left, right => left || right

end Connective
end Rulebook
