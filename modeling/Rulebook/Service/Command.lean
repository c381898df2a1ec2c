import Rulebook.Json.Shape

/-!
What a request can ask the service to do with rules.

A body gives the fields of a task, every one of which has to be filled.

* `Task.command`: the command of a task and its fields.
* `Task.read`: the command that a body is.
-/

namespace Rulebook

/-- A kind of work on rules. -/
inductive Task where
  | create
  | update
  | combine
  | evaluate
  deriving DecidableEq, Repr

/-- A piece of work on rules. -/
inductive Command where
  /-- Keep a rule. -/
  | create (rule : String)
  /-- Give an id another rule. -/
  | update (id rule : String)
  /-- Keep the rule that joins some rules. -/
  | combine (ids : List String)
  /-- Apply a rule to data. -/
  | evaluate (id : String) (data : Json)
  deriving Repr

/-- Why a body is not a command. -/
inductive BodyFault where
  /-- It is not JSON. -/
  | malformed
  /-- Its fields are not what they should be. -/
  | mismatched
  /-- Fields are not filled; there is a line for each. -/
  | unfilled (lines : List String)
  deriving DecidableEq, Repr

namespace Task

/-- The fields of a task. -/
def fields : Task → List (String × Json.Shape)
  | create => [("rule", .oneText)]
  | update => [("ruleId", .oneText), ("updatedRuleString", .oneText)]
  | combine => [("ruleIds", .manyTexts)]
  | evaluate => [("ruleId", .oneText), ("data", .anything)]

/-- The text that a field is filled with. -/
def filledText? (name : String) (values : List (String × Json)) : Option String :=
  match values.lookup name with
  | some (.string s) => if s.isEmpty then none else some s
  | _ => none

/-- The texts that a field is filled with. -/
def filledTexts? (name : String) (values : List (String × Json)) : Option (List String) :=
  match values.lookup name with
  | some (.array items) => if items.isEmpty then none else items.mapM Json.text?
  | _ => none

/-- The value, other than null, that a field is filled with. -/
def filledValue? (name : String) (values : List (String × Json)) : Option Json :=
  match values.lookup name with
  | none => none
  | some .null => none
  | some value => some value.normalize

/-- The line for a field that should have been filled. -/
def lineFor {α : Type} (line : String) : Option α → List String
  | some _ => []
  | none => [line]

/-- The line for a rule that is not given. -/
def ruleLine : String := "rule: 规则字符串不能为空"

/-- The line for an id that is not given. -/
def idLine : String := "rule_id: 规则 ID 不能为空"

/-- The line for another rule that is not given. -/
def updatedRuleLine : String := "updated_rule_string: 更新后的规则字符串不能为空"

/-- What is wrong when there are no ids. -/
def noIds : String := "规则 ID 列表不能为空"

/-- The line for ids that are not given. -/
def idsLine : String := "rule_ids: " ++ noIds

/-- The line for data that are not given. -/
def dataLine : String := "data: 待评估数据不能为空"

/-- The command of a task with some fields, or a line for each field that is not filled. -/
def command (task : Task) (values : List (String × Json)) : Except (List String) Command :=
  match task with
  | create =>
    match filledText? "rule" values with
    | some rule => .ok (.create rule)
    | none => .error [ruleLine]
  | update =>
    match filledText? "ruleId" values, filledText? "updatedRuleString" values with
    | some id, some rule => .ok (.update id rule)
    | id, rule => .error (lineFor idLine id ++ lineFor updatedRuleLine rule)
  | combine =>
    match filledTexts? "ruleIds" values with
    | some ids => .ok (.combine ids)
    | none => .error [idsLine]
  | evaluate =>
    match filledText? "ruleId" values, filledValue? "data" values with
    | some id, some data => .ok (.evaluate id data)
    | id, data => .error (lineFor idLine id ++ lineFor dataLine data)

/-- The command that a body is. -/
def read (task : Task) (body : String) : Except BodyFault Command :=
  match Json.Shape.readFields task.fields body.toList with
  | .error .malformed => .error .malformed
  | .error .mismatched => .error .mismatched
  | .ok values => (task.command values).mapError .unfilled

end Task
end Rulebook
