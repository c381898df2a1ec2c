import Rulebook.Json.Basic

/-!
Members that a document has to have.

* `Json.once?`: the value of a name that is given exactly once. A document that gives one of its
  names twice does not say which value it means, so it is refused.
-/

namespace Rulebook.Json

/-- The value that goes by a name, if exactly one does. -/
def once? {α : Type} (name : String) (members : List (String × α)) : Option α :=
  match members.filter (·.1 = name) with
  | [(_, value)] => some value
  | _ => none

/-- The value that goes by a name, if at most one does: `none` when it is given twice, `some none`
when it is missing. -/
def atMostOnce? {α : Type} (name : String) (members : List (String × α)) : Option (Option α) :=
  match members.filter (·.1 = name) with
  | [] => some none
  | [(_, value)] => some (some value)
  | _ => none

/-- The strings of an array of strings. -/
def texts? (value : Json) : Option (List String) := do
  let items ← value.items?
  items.mapM text?

end Rulebook.Json
