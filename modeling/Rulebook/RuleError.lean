import Rulebook.ParseError

/-!
Why something cannot be done with a rule.

* `RuleError.message`: the wording.
-/

namespace Rulebook

/-- Why something cannot be done with a rule. -/
inductive RuleError where
  /-- The text of the rule is refused. -/
  | parse (cause : ParseError)
  /-- The data lack fields that the rule looks at. -/
  | missingFields (names : List String)
  /-- No rule goes by the id. -/
  | notFound (id : String)
  /-- A document is not the form of a rule. -/
  | document (detail : String)
  deriving DecidableEq, Repr, Inhabited

/-- Names in a row. -/
def RuleError.listed (names : List String) : String := ", ".intercalate names

/-- The wording of a cause. -/
def RuleError.message : RuleError → String
  | parse cause => "规则解析失败: " ++ cause.message
  | missingFields names => "缺少必需属性: " ++ listed names
  | notFound id => "规则未找到: " ++ id
  | document detail => "JSON 序列化错误: " ++ detail

end Rulebook
