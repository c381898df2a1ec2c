import Rulebook.Json.Basic
import Rulebook.Number.Literal
import Rulebook.Operator

/-!
Conditions: a field of the data, compared with a value.

The value is kept as the text that was written. It becomes a number only when the field holds one,
so `0x10` and `16` differ as text and agree as numbers.

* `Condition.holds`: whether the condition is met by what the field holds. A field that is missing,
  or holds something that cannot be compared, meets no condition; that is never an error.
-/

namespace Rulebook

/-- A comparison of a field with a value. -/
structure Condition where
  field : String
  comparison : Comparison
  /-- The text of the value, without quotes. -/
  value : String
  deriving DecidableEq, Repr, Inhabited

/-- Whether the comparison holds between two numbers. -/
def Comparison.holds (c : Comparison) (left right : Double) : Bool :=
  match c with
  | greater => right.lt left
  | less => left.lt right
  | equal => left = right

namespace Condition

/-- Whether the condition is met by what its field holds: a string has to be equal to the value
letter by letter, a number is compared with the number that the value stands for. -/
def holds (c : Condition) (found : Option Json) : Bool :=
  match found with
  | some (.string s) => c.comparison = .equal && s = c.value
  | some (.number n) =>
    match Literal.toNumber? c.value with
    | some expected => c.comparison.holds n.toDouble expected
    | none => false
  | _ => false

end Condition
end Rulebook
