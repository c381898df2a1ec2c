/-!
Why a rule text is refused.

Every cause is in the text itself, so the same text is refused whenever it is sent.

* `ParseError.code`: the code by which clients and counters know the cause.
* `ParseError.message`: the wording.
-/

namespace Rulebook

/-- Why a rule text is refused. -/
inductive ParseError where
  /-- The text is empty or blank. -/
  | emptyInput
  /-- A group closes before it holds anything. -/
  | unexpectedClose
  /-- A connective lacks one of its parts. -/
  | danglingConnective (keyword : String)
  /-- A piece of text is no condition. -/
  | invalidCondition (fragment : String)
  /-- Two parts stand side by side without a connective. -/
  | malformedExpression
  /-- There are no tokens at all. -/
  | emptyRule
  /-- A parenthesis has no partner. -/
  | unbalancedParentheses
  deriving DecidableEq, Repr, Inhabited

namespace ParseError

/-- The code of a cause. -/
def code : ParseError → String
  | emptyInput => "EMPTY_INPUT"
  | unexpectedClose => "UNEXPECTED_CLOSE_PAREN"
  | danglingConnective _ => "DANGLING_OPERATOR"
  | invalidCondition _ => "INVALID_CONDITION_FORMAT"
  | malformedExpression => "MALFORMED_EXPRESSION"
  | emptyRule => "EMPTY_RULE"
  | unbalancedParentheses => "UNBALANCED_PARENTHESES"

/-- The wording of a cause; a fragment is quoted as it stands. -/
def message : ParseError → String
  | emptyInput => "规则字符串不能为空"
  | unexpectedClose => "无效的规则: 括号内缺少子表达式"
  | danglingConnective keyword => "无效的规则: 逻辑操作符 " ++ keyword ++ " 缺少操作数"
  | invalidCondition fragment => "无效的条件格式: \"" ++ fragment ++ "\""
  | malformedExpression => "无效的规则: 多个表达式之间缺少逻辑操作符"
  | emptyRule => "无效的规则: 规则字符串未生成有效的语法树"
  | unbalancedParentheses => "无效的规则: 括号不匹配"

end ParseError
end Rulebook
