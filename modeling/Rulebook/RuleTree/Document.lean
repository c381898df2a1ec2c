import Rulebook.Json.Member
import Rulebook.RuleTree.Basic

/-!
The JSON form of rules.

A condition is an object with the members `field`, `operator` and `value`, or the array of the
three. A rule is an object with a `type`: an `operand` has a condition as its `value`, an
`operator` has a connective as its `operator` and rules as its `left` and `right`; or it is the
array of the same parts in that order. Other members are of no account, but one of these that is
given twice spoils the document, as does anything wrong at any depth.

Signs, connectives and types are words, written as strings. The word of a sign or a connective may
also be the name of the only member of an object, which then has to be empty. A form inside a rule
has some more ways of writing than one that stands by itself; `Standing` tells the two apart.

* `Condition.ofJson?`, `RuleTree.ofJson?`: the condition or rule that a value is a form of.
* `Condition.toJson`, `RuleTree.toJson`: the object forms.
-/

namespace Rulebook

/-- Where a form stands. -/
inductive Standing where
  /-- By itself, as a whole document or as the member of one. -/
  | alone
  /-- Inside a rule. -/
  | inside
  deriving DecidableEq, Repr

/-- Whether a value can be the empty member of a word: null, and inside a rule `{}` too. -/
def Standing.isEmpty : Standing → Json → Bool
  | _, .null => true
  | .inside, .object [] => true
  | _, _ => false

/-- The word that a value is: a string, or the name of an empty member that is the only one. -/
def Json.word? (standing : Standing) : Json → Option String
  | .string word => some word
  | .object [(word, value)] => if standing.isEmpty value then some word else none
  | _ => none

/-- The comparison whose sign a value is. -/
def Comparison.ofJson? (standing : Standing) (value : Json) : Option Comparison :=
  value.word? standing >>= Comparison.ofSymbol?

/-- The connective whose word a value is. -/
def Connective.ofJson? (standing : Standing) (value : Json) : Option Connective :=
  value.word? standing >>= Connective.ofKeyword?

namespace Condition

/-- The condition with the given parts. -/
def ofParts? (standing : Standing) (field comparison value : Json) : Option Condition := do
  let field ← field.text?
  let comparison ← Comparison.ofJson? standing comparison
  let value ← value.text?
  some { field, comparison, value }

/-- The condition that a value is a form of. -/
def ofJson? (standing : Standing) : Json → Option Condition
  | .object members => do
    ofParts? standing (← Json.once? "field" members) (← Json.once? "operator" members)
      (← Json.once? "value" members)
  | .array [field, comparison, value] => ofParts? standing field comparison value
  | _ => none

/-- The object form of a condition. -/
def toJson (c : Condition) : Json :=
  .object [("field", .string c.field), ("operator", .string c.comparison.symbol),
    ("value", .string c.value)]

end Condition

namespace RuleTree

/-- The two types of rules. -/
inductive Kind where
  | operand
  | operator
  deriving DecidableEq, Repr

/-- The type that a value names; inside a rule the types are also numbered, from zero. -/
def kind? : Standing → Json → Option Kind
  | _, .string "operand" => some .operand
  | _, .string "operator" => some .operator
  | .inside, .number ⟨⟨false, 0, _⟩, true⟩ => some .operand
  | .inside, .number ⟨⟨false, 1, _⟩, true⟩ => some .operator
  | _, _ => none

/-- The rule that is a condition. -/
def leafOfPart? (condition : Json) : Option RuleTree := (Condition.ofJson? .inside condition).map leaf

/-- The rule with the given connective and parts. -/
def nodeOfParts? (op : Json) (left right : Option RuleTree) : Option RuleTree := do
  let op ← Connective.ofJson? .inside op
  some (node op (← left) (← right))

/-- The rule that an object is, from its members and the rules that they are. -/
def ofMembers? (standing : Standing) (members : List (String × Json))
    (trees : List (String × Option RuleTree)) : Option RuleTree := do
  match ← kind? standing (← Json.once? "type" members) with
  | .operand => leafOfPart? (← Json.once? "value" members)
  | .operator =>
    nodeOfParts? (← Json.once? "operator" members) (← Json.once? "left" trees)
      (← Json.once? "right" trees)

/-- The rule that an array is, from its items and the rules that they are. -/
def ofItems? (standing : Standing) (items : List Json) (trees : List (Option RuleTree)) :
    Option RuleTree := do
  match ← kind? standing (← items.head?), items, trees with
  | .operand, [_, condition], _ => leafOfPart? condition
  | .operator, [_, op, _, _], [_, _, left, right] => nodeOfParts? op left right
  | _, _, _ => none

mutual

/-- The rule that a value is a form of, where the value stands. -/
def ofJsonAt? (standing : Standing) : Json → Option RuleTree
  | .object members => ofMembers? standing members (memberTrees members)
  | .array items => ofItems? standing items (itemTrees items)
  | _ => none

/-- The rules that the members of an object are. -/
def memberTrees : List (String × Json) → List (String × Option RuleTree)
  | [] => []
  | (name, value) :: rest => (name, ofJsonAt? .inside value) :: memberTrees rest

/-- The rules that the items of an array are. -/
def itemTrees : List Json → List (Option RuleTree)
  | [] => []
  | item :: rest => ofJsonAt? .inside item :: itemTrees rest

end

/-- The rule that a value is a form of. -/
def ofJson? (value : Json) : Option RuleTree := ofJsonAt? .alone value

/-- The object form of a rule. -/
def toJson : RuleTree → Json
  | leaf condition => .object [("type", .string "operand"), ("value", condition.toJson)]
  | node op left right =>
    .object [("type", .string "operator"), ("operator", .string op.keyword),
      ("left", left.toJson), ("right", right.toJson)]

end RuleTree
end Rulebook
