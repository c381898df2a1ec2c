import Rulebook.Json.Writer
import Rulebook.RuleTree.Parser
import Rulebook.Text.Quoted

/-!
What the program has to say about its work.

Every event has a level and a source, which filters go by, a message, and fields with further
particulars. A span is a stretch of work; its only event is its end.

* `Event`: the events.
* `Event.line`: the log line of an event.
* `Line.toText`, `Line.toJson`: the two ways to write a line.
-/

namespace Rulebook

/-- How much an event matters. -/
inductive Level where
  | error
  | warn
  | info
  | debug
  | trace
  deriving DecidableEq, Repr

namespace Level

/-- Levels by how much they let through. -/
def rank : Level → Nat
  | error => 1
  | warn => 2
  | info => 3
  | debug => 4
  | trace => 5

/-- The name of a level. -/
def name : Level → String
  | error => "ERROR"
  | warn => "WARN"
  | info => "INFO"
  | debug => "DEBUG"
  | trace => "TRACE"

end Level

/-- A stretch of work that is logged when it ends. -/
inductive Span where
  | request
  | createRule
  | updateRule
  | combineRules
  | evaluateRule
  | add
  | addCombined
  | update
  deriving DecidableEq, Repr

/-- The name of a span. -/
def Span.name : Span → String
  | request => "http_request"
  | createRule => "create_rule"
  | updateRule => "update_rule"
  | combineRules => "combine_rules"
  | evaluateRule => "evaluate_rule"
  | add => "add"
  | addCombined => "add_combined"
  | update => "update"

/-- The part of the program that an event comes from. -/
inductive Source where
  | parser
  | executor
  | catalog
  | handlers
  | layers
  | setup
  | endpoint
  deriving DecidableEq, Repr

/-- The path of a source, by which filters know it. -/
def Source.path : Source → String
  | parser => "rule_engine::parser"
  | executor => "rule_engine::executor"
  | catalog => "rule_engine::store"
  | handlers => "rule_engine_service::handlers::rule"
  | layers => "rule_shared::observability::middleware"
  | setup => "rule_shared::observability"
  | endpoint => "rule_shared::observability::metrics"

/-- The source of a span. -/
def Span.source : Span → Source
  | request => .layers
  | createRule | updateRule | combineRules | evaluateRule => .handlers
  | add | addCombined | update => .catalog

/-- What the program has to say. -/
inductive Event where
  /-- A rule text has been read. -/
  | parsed (rule : ParsedRule)
  /-- A rule text has been refused. -/
  | refused (text : String) (cause : ParseError)
  /-- A record is kept. -/
  | saved (id : String)
  /-- A record has another rule. -/
  | revised (id : String)
  /-- There is no record to give another rule. -/
  | reviseMissing (id : String)
  /-- A request to create a rule is done. -/
  | createDone (id : String)
  /-- A request to update a rule is done. -/
  | updateDone (id : String)
  /-- A request to combine rules is done. -/
  | combineDone (id : String) (sources : Nat)
  /-- A rule is about to be applied to data. -/
  | evaluating (id : String) (tree : RuleTree) (data : Json)
  /-- A rule has been applied. -/
  | executed (id : String) (matched : Bool)
  /-- A request to evaluate a rule is done. -/
  | evaluateDone (id : String) (matched : Bool) (conditions : List String)
  /-- A span has ended. -/
  | closed (span : Span)
  /-- Logging is set up. -/
  | initialized (service : String) (counting : Bool) (port : Nat)
  /-- The metrics can be asked for. -/
  | listening (port : Nat)
  /-- What was set up is torn down. -/
  | shuttingDown
  deriving Repr

/-- A particular of an event. -/
inductive Particular where
  /-- Text as it is. -/
  | shown (text : String)
  /-- Text that plain lines put in quotes. -/
  | literal (text : String)
  /-- Several texts. -/
  | several (texts : List String)
  | flag (b : Bool)
  | number (n : Nat)
  deriving DecidableEq, Repr

/-- A log line. -/
structure Line where
  level : Level
  source : Source
  message : String
  particulars : List (String × Particular) := []
  /-- The span whose end this is. -/
  span : Option Span := none
  deriving DecidableEq, Repr

namespace Event

/-- The level of an event. -/
def level : Event → Level
  | parsed _ | evaluating .. | executed .. | evaluateDone .. => .debug
  | refused .. | reviseMissing _ => .warn
  | _ => .info

/-- The source of an event. -/
def source : Event → Source
  | parsed _ => .parser
  | executed .. => .executor
  | saved _ | revised _ | reviseMissing _ => .catalog
  | refused .. | createDone _ | updateDone _ | combineDone .. | evaluating .. | evaluateDone .. =>
    .handlers
  | closed span => span.source
  | initialized .. | shuttingDown => .setup
  | listening _ => .endpoint

/-- The message of an event. -/
def message : Event → String
  | parsed rule => "规则解析完成: " ++ rule.tree.toText
  | refused _ cause => "规则解析失败: " ++ cause.message
  | saved id => "规则已保存: " ++ id
  | revised id => "规则已更新: " ++ id
  | reviseMissing id => "更新不存在的规则: " ++ id
  | createDone _ => "规则创建成功"
  | updateDone _ => "规则更新成功"
  | combineDone .. => "规则合并成功"
  | evaluating .. => "开始评估规则"
  | executed .. => "规则评估完成"
  | evaluateDone .. => "规则评估完成"
  | closed _ => "close"
  | initialized .. => "Observability initialized"
  | listening port => "Metrics server listening on 0.0.0.0:" ++ toString port
  | shuttingDown => "Shutting down observability..."

/-- The particulars of an event. -/
def particulars : Event → List (String × Particular)
  | parsed rule => [("used_attributes", .several rule.fields)]
  | refused text cause => [("rule", .shown text), ("code", .literal cause.code)]
  | createDone id => [("rule_id", .shown id)]
  | updateDone id => [("rule_id", .shown id)]
  | combineDone id sources => [("rule_id", .shown id), ("sources", .number sources)]
  | evaluating id tree data =>
    [("rule_id", .shown id), ("ast", .shown tree.toText), ("data", .shown data.toText)]
  | executed id matched => [("rule_id", .shown id), ("matched", .flag matched)]
  | evaluateDone id matched conditions =>
    [("rule_id", .shown id), ("matched", .flag matched), ("matched_conditions", .several conditions)]
  | initialized service counting port =>
    [("service", .shown service), ("metrics_enabled", .flag counting), ("metrics_port", .number port)]
  | _ => []

/-- The span whose end an event is. -/
def span? : Event → Option Span
  | closed span => some span
  | _ => none

/-- The log line of an event. -/
def line (e : Event) : Line :=
  { level := e.level, source := e.source, message := e.message, particulars := e.particulars,
    span := e.span? }

end Event

namespace Particular

/-- A particular in a plain line. -/
def toText : Particular → String
  | shown text => text
  | literal text => Text.quoted text
  | several texts => Text.quotedList texts
  | flag b => if b then "true" else "false"
  | number n => toString n

/-- A particular in a JSON line. -/
def toJson : Particular → Json
  | shown text => .string text
  | literal text => .string text
  | several texts => .string (Text.quotedList texts)
  | flag b => .bool b
  | number n => .nat n

end Particular

namespace Line

/-- A plain line, without its level and source: the message and the particulars behind it. -/
def toText (l : Line) : String :=
  Text.tamed l.message ++ String.join (l.particulars.map fun (name, p) => " " ++ name ++ "=" ++ p.toText)

/-- A line as a JSON object. -/
def toJson (l : Line) : Json :=
  .object ([("level", .string l.level.name), ("target", .string l.source.path),
      ("fields", .object (("message", .string l.message) ::
        l.particulars.map fun (name, p) => (name, p.toJson)))] ++
    l.span.toList.map fun span => ("span", .string span.name))

end Line
end Rulebook
