import Rulebook.Condition.Format
import Rulebook.FieldSet

/-!
Rules as trees: conditions at the leaves, connectives above them.

* `RuleTree.leaves`: the conditions from left to right.
* `RuleTree.fields`: the fields that the conditions look at.
* `RuleTree.toText`: the rule in text, with parentheses around every joined pair.
* `RuleTree.conjoin?`: several rules joined by AND, from the left.
-/

namespace Rulebook

/-- A rule. -/
inductive RuleTree where
  | leaf (condition : Condition)
  | node (op : Connective) (left right : RuleTree)
  deriving DecidableEq, Repr, Inhabited

namespace RuleTree

/-- The conditions from left to right. -/
def leaves : RuleTree → List Condition
  | leaf condition => [condition]
  | node _ left right => left.leaves ++ right.leaves

/-- Adds the fields of a rule to a set. -/
def addFields : RuleTree → FieldSet → FieldSet
  | leaf condition, names => names.insert condition.field
  | node _ left right, names => right.addFields (left.addFields names)

/-- The fields that the conditions look at. -/
def fields (t : RuleTree) : FieldSet := t.addFields []

/-- The rule in text. -/
def toText : RuleTree → String
  | leaf condition => condition.toText
  | node op left right => "(" ++ left.toText ++ " " ++ op.keyword ++ " " ++ right.toText ++ ")"

/-- A rule and further ones, joined by AND from the left. -/
def conjoin (first : RuleTree) (rest : List RuleTree) : RuleTree := rest.foldl (node .and) first

/-- Rules joined by AND from the left; a single rule stays as it is, and none join to nothing. -/
def conjoin? : List RuleTree → Option RuleTree
  | [] => none
  | first :: rest => some (conjoin first rest)

theorem mem_addFields {t : RuleTree} {name : String} {names : FieldSet} :
    name ∈ t.addFields names ↔ (∃ c ∈ t.leaves, c.field = name) ∨ name ∈ names := by
  induction t generalizing names with
  | leaf condition => simp [addFields, leaves, FieldSet.mem_insert, eq_comm]
  | node op left right ihl ihr =>
    simp only [addFields, leaves, ihl, ihr, List.mem_append]
    constructor
    · rintro (⟨c, mem, rfl⟩ | ⟨c, mem, rfl⟩ | mem)
      · exact .inl ⟨c, .inr mem, rfl⟩
      · exact .inl ⟨c, .inl mem, rfl⟩
      · exact .inr mem
    · rintro (⟨c, mem | mem, rfl⟩ | mem)
      · exact .inr (.inl ⟨c, mem, rfl⟩)
      · exact .inl ⟨c, mem, rfl⟩
      · exact .inr (.inr mem)

theorem ascending_addFields {t : RuleTree} {names : FieldSet} (h : names.Ascending) :
    (t.addFields names).Ascending := by
  induction t generalizing names with
  | leaf condition => exact FieldSet.ascending_insert h
  | node op left right ihl ihr => exact ihr (ihl h)

end RuleTree
end Rulebook
