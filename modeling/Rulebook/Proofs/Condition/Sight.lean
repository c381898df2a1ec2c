import Rulebook.Condition.Basic

/-!
What a condition can tell of a field.

Conditions compare texts and numbers. Of anything else that a field may hold, and of a field that
is missing, a condition can tell nothing; numbers with the same double are one number to it.

* `Json.sight`: what a field shows to a condition.
* `Condition.holds_eq_meets`: whether a condition is met depends on that alone.
-/

namespace Rulebook

/-- What a condition can tell of a field. -/
inductive Sight where
  | text (s : String)
  | number (x : Double)
  /-- The field is missing, or holds nothing that can be compared. -/
  | nothing
  deriving DecidableEq, Repr

/-- What a field shows to a condition. -/
def Json.sight : Option Json → Sight
  | some (.string s) => .text s
  | some (.number n) => .number n.toDouble
  | _ => .nothing

namespace Condition

/-- Whether a condition is met by what it can tell of its field. -/
def meets (c : Condition) : Sight → Bool
  | .text s => c.comparison = .equal && s = c.value
  | .number x => (Literal.toNumber? c.value).any (c.comparison.holds x ·)
  | .nothing => false

theorem holds_eq_meets (c : Condition) (found : Option Json) :
    c.holds found = c.meets (Json.sight found) := by
  cases found with
  | none => rfl
  | some value =>
    cases value with
    | number n =>
      simp only [holds, Json.sight, meets]
      cases Literal.toNumber? c.value <;> rfl
    | _ => rfl

/-- Fields that show the same meet the same conditions. -/
theorem holds_congr {c : Condition} {found other : Option Json}
    (same : Json.sight found = Json.sight other) : c.holds found = c.holds other := by
  rw [holds_eq_meets, holds_eq_meets, same]

end Condition
end Rulebook
