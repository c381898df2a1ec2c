import Rulebook.RuleError
import Rulebook.RuleRecord

/-!
Rules applied to data.

Data are any JSON value; only an object has fields. A rule is evaluated in full: both parts of a
pair are looked at even when the first decides.

* `RuleTree.holds`: whether data meet a rule.
* `missing`: the required fields that data lack.
* `execute`: the verdict on data that lack none, with the conditions that are met and, if wanted, a
  trace of every step.
-/

namespace Rulebook

/-- Whether data have a field, whatever it holds. -/
def Json.has (data : Json) (field : String) : Bool := (data.get? field).isSome

/-- Whether data meet a rule. -/
def RuleTree.holds (data : Json) : RuleTree → Bool
  | leaf condition => condition.holds (data.get? condition.field)
  | node op left right => op.apply (left.holds data) (right.holds data)

/-- The required fields that data lack, in the order they are required. -/
def missing (data : Json) (fields : List String) : List String := fields.filter (!data.has ·)

/-- Succeeds when data lack no required field. -/
def require (data : Json) (fields : List String) : Except RuleError Unit :=
  if (missing data fields).isEmpty then .ok () else .error (.missingFields (missing data fields))

/-! ### The steps of an evaluation -/

/-- A turn on the way from the root of a rule. -/
inductive Side where
  | left
  | right
  deriving DecidableEq, Repr

/-- The place of a part in a rule: the turns from the root to it. -/
abbrev Place := List Side

/-- The text of a place. -/
def Place.toText (place : Place) : String :=
  "root" ++ String.join (place.map fun
    | .left => ".left"
    | .right => ".right")

/-- One step of an evaluation. -/
inductive Step where
  | condition (place : Place) (condition : Condition) (met : Bool)
  | join (place : Place) (op : Connective) (left right whole : Bool)
  deriving DecidableEq, Repr

/-- The word for a truth value. -/
def truthText (b : Bool) : String := if b then "true" else "false"

/-- A condition with its place. -/
def placedText (place : Place) (condition : Condition) : String :=
  place.toText ++ ": " ++ condition.toText

/-- The text of a step. -/
def Step.toText : Step → String
  | condition place c met => placedText place c ++ " => " ++ (if met then "MATCHED" else "NOT_MATCHED")
  | join place op left right whole =>
    place.toText ++ ": " ++ op.keyword ++ "(" ++ truthText left ++ ", " ++ truthText right ++ ") => " ++
      truthText whole

/-- What evaluating a part of a rule gives. -/
structure Walk where
  matched : Bool
  /-- The conditions that are met, from left to right. -/
  met : List (Place × Condition)
  /-- The steps, every part after its own parts. -/
  steps : List Step
  deriving DecidableEq, Repr

/-- Evaluates the part of a rule at a place, keeping the steps if they are wanted. -/
def walk (traced : Bool) (data : Json) (place : Place) : RuleTree → Walk
  | .leaf c =>
    let met := c.holds (data.get? c.field)
    { matched := met
      met := if met then [(place, c)] else []
      steps := if traced then [.condition place c met] else [] }
  | .node op left right =>
    let l := walk traced data (place ++ [.left]) left
    let r := walk traced data (place ++ [.right]) right
    let whole := op.apply l.matched r.matched
    { matched := whole
      met := l.met ++ r.met
      steps := l.steps ++ r.steps ++
        if traced then [.join place op l.matched r.matched whole] else [] }

/-- The verdict of a rule on data. -/
structure Verdict where
  ruleId : String
  matched : Bool
  matchedConditions : List String
  trace : List String
  deriving DecidableEq, Repr

/-- Applies a kept rule to data, which have to have every field that the record requires. -/
def execute (traced : Bool) (record : RuleRecord) (data : Json) : Except RuleError Verdict := do
  require data record.fields
  let w := walk traced data [] record.tree
  .ok {
    ruleId := record.id
    matched := w.matched
    matchedConditions := w.met.map fun (place, c) => placedText place c
    trace := w.steps.map Step.toText }

end Rulebook
