import Rulebook.Json.Writer
import Rulebook.RuleRecord
import Rulebook.Service.Error
import Rulebook.Service.Rejection
import Rulebook.Service.Request

/-!
What the service answers.

* `Answer.status`, `Answer.content`: the reply that an answer makes.
-/

namespace Rulebook

/-- What a body can hold. -/
inductive Content where
  | nothing
  | text (s : String)
  | json (value : Json)
  deriving Repr

/-- What the service answers. -/
inductive Answer where
  | greeting
  | healthy
  | rules (records : List RuleRecord)
  | created (id : String) (tree : RuleTree)
  | updated (id : String)
  | combined (id : String) (tree : RuleTree)
  | evaluated (result : Bool)
  | failed (error : ServiceError)
  | rejected (reason : Rejection)
  deriving Repr

namespace Answer

/-- The status of an answer. -/
def status : Answer → Nat
  | failed error => error.status
  | rejected reason => reason.status
  | _ => 200

/-- A rule in a list of rules. -/
def listed (record : RuleRecord) : Json :=
  .object [("id", .string record.id), ("ruleString", .string record.text)]

/-- What an answer says. -/
def content : Answer → Content
  | greeting => .text "Rule Engine Backend"
  | healthy => .json (.object [("status", .string "ok"), ("service", .string "rule-engine-service")])
  | rules records => .json (.object [("rules", .array (records.map listed))])
  | created id tree =>
    .json (.object [("message", .string "Rule created"), ("ruleId", .string id),
      ("ast", tree.toJson)])
  | updated id =>
    .json (.object [("message", .string "Rule updated successfully"), ("ruleId", .string id)])
  | combined id tree =>
    .json (.object [("message", .string "Rules combined successfully"), ("ruleId", .string id),
      ("combinedAST", tree.toJson)])
  | evaluated result => .json (.object [("result", .bool result)])
  | failed error =>
    .json (.object [("error", .string error.publicMessage), ("code", .string error.code)])
  | rejected _ => .nothing

end Answer

/-- What is sent back. -/
structure Reply where
  answer : Answer
  requestId : RequestId
  /-- Without its content, as `HEAD` asks for. -/
  bare : Bool
  deriving Repr

namespace Reply

/-- The status of a reply. -/
def status (r : Reply) : Nat := r.answer.status

/-- What a reply says; text leaves an empty text where the content is left out. -/
def content (r : Reply) : Content :=
  match r.bare, r.answer.content with
  | false, content => content
  | true, .text _ => .text ""
  | true, _ => .nothing

end Reply
end Rulebook
