import Rulebook.RuleError

/-!
Errors of the service.

* `ServiceError.status`, `ServiceError.code`: how an error is classed.
* `ServiceError.message`: the wording.
* `ServiceError.publicMessage`: the wording in replies, which keeps inner faults to itself.
-/

namespace Rulebook

/-- Why the service does not do what a request asks for. -/
inductive ServiceError where
  /-- Fields that the request does not fill, one line each. -/
  | validation (lines : List String)
  /-- The text of a rule is refused. -/
  | invalidRule (cause : ParseError)
  /-- The data lack fields that the rule looks at. -/
  | missingFields (names : List String)
  /-- No rule goes by the id. -/
  | ruleNotFound (id : String)
  /-- A fault of the service itself. -/
  | internal (detail : String)
  deriving DecidableEq, Repr, Inhabited

namespace ServiceError

/-- The status of the reply. -/
def status : ServiceError → Nat
  | validation _ | invalidRule _ | missingFields _ => 400
  | ruleNotFound _ => 404
  | internal _ => 500

/-- The code of an error; that of a refused rule is the code of its cause. -/
def code : ServiceError → String
  | validation _ => "VALIDATION_ERROR"
  | invalidRule cause => cause.code
  | missingFields _ => "MISSING_ATTRIBUTE"
  | ruleNotFound _ => "RULE_NOT_FOUND"
  | internal _ => "INTERNAL_ERROR"

/-- The wording of an error. -/
def message : ServiceError → String
  | validation lines => "参数验证失败: " ++ "\n".intercalate lines
  | invalidRule cause => "无效的规则格式: " ++ cause.message
  | missingFields names => "缺少必需属性: " ++ RuleError.listed names
  | ruleNotFound id => "规则不存在: " ++ id
  | internal detail => "内部错误: " ++ detail

/-- The wording that a reply has: the lines of a validation in ascending order, and nothing of what
went wrong inside. -/
def publicMessage : ServiceError → String
  | validation lines => (validation (lines.mergeSort (· ≤ ·))).message
  | internal _ => "服务内部错误，请稍后重试"
  | e => e.message

/-- What an error of the rules is to the service. -/
def ofRuleError : RuleError → ServiceError
  | .parse cause => invalidRule cause
  | .missingFields names => missingFields names
  | .notFound id => ruleNotFound id
  | .document detail => internal (RuleError.document detail).message

end ServiceError
end Rulebook
