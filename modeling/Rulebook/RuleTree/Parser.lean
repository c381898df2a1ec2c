import Rulebook.RuleTree.Basic
import Rulebook.Token

/-!
From tokens to a rule, in one pass.

The connectives have one rank and group from the left, so a rule is read by hanging every new part
under what stands before it; a parenthesis opens a part of its own. What has been read of the part
in progress is a `Slot`, and the slots of the parts around it wait on a stack.

* `Reading.feed`: takes in one token, or says why it cannot follow the ones before it.
* `ParsedRule.ofTokens?`: the rule that a sequence of tokens is.
* `ParsedRule.ofText?`: the rule that a text is.
-/

namespace Rulebook

/-- A rule that has been read, with the fields it looks at. -/
structure ParsedRule where
  tree : RuleTree
  fields : FieldSet
  deriving DecidableEq, Repr, Inhabited

/-- What has been read of one part of a rule. -/
inductive Slot where
  /-- Nothing yet. -/
  | empty
  /-- A whole rule. -/
  | complete (tree : RuleTree)
  /-- A rule and a connective that waits for its right part. -/
  | awaiting (op : Connective) (left : RuleTree)
  deriving DecidableEq, Repr, Inhabited

/-- Hangs a rule into a slot; a complete slot has no place for it. -/
def Slot.fill (s : Slot) (tree : RuleTree) : Except ParseError Slot :=
  match s with
  | empty => .ok (complete tree)
  | awaiting op left => .ok (complete (.node op left tree))
  | complete _ => .error .malformedExpression

/-- A rule in the middle of being read. -/
structure Reading where
  /-- The slots around the open parentheses, the innermost first. -/
  outer : List Slot := []
  current : Slot := .empty
  /-- The fields of the conditions so far. -/
  fields : FieldSet := []
  deriving DecidableEq, Repr, Inhabited

namespace Reading

/-- An opening parenthesis starts a part of its own. -/
def openGroup (r : Reading) : Reading := { r with outer := r.current :: r.outer, current := .empty }

/-- A closing parenthesis hangs the finished part into the slot around it. -/
def closeGroup (r : Reading) : Except ParseError Reading :=
  match r.current with
  | .empty => .error .unexpectedClose
  | .awaiting op _ => .error (.danglingConnective op.keyword)
  | .complete tree =>
    match r.outer with
    | [] => .error .unbalancedParentheses
    | slot :: outer => do
      let current ← slot.fill tree
      .ok { r with outer, current }

/-- A connective waits for a right part; it needs a left one. -/
def connect (r : Reading) (op : Connective) : Except ParseError Reading :=
  match r.current with
  | .empty => .error (.danglingConnective op.keyword)
  | .awaiting earlier _ => .error (.danglingConnective earlier.keyword)
  | .complete left => .ok { r with current := .awaiting op left }

/-- A fragment has to be a condition, and then hangs into the current slot. -/
def attach (r : Reading) (fragment : String) : Except ParseError Reading := do
  let condition ← Condition.ofText? fragment
  let current ← r.current.fill (.leaf condition)
  .ok { r with current, fields := r.fields.insert condition.field }

/-- Takes in one token. -/
def feed (r : Reading) : Token → Except ParseError Reading
  | .openParen => .ok r.openGroup
  | .closeParen => r.closeGroup
  | .connective op => r.connect op
  | .fragment text => r.attach text

/-- Takes in tokens from the left, up to the first that cannot follow. -/
def feedAll (r : Reading) : List Token → Except ParseError Reading
  | [] => .ok r
  | token :: rest => do
    let r ← r.feed token
    r.feedAll rest

/-- The rule, once all tokens are in. -/
def finish (r : Reading) : Except ParseError ParsedRule :=
  if r.outer.isEmpty then
    match r.current with
    | .empty => .error .emptyRule
    | .awaiting op _ => .error (.danglingConnective op.keyword)
    | .complete tree => .ok { tree, fields := r.fields }
  else .error .unbalancedParentheses

end Reading

namespace ParsedRule

/-- The rule that a sequence of tokens is. -/
def ofTokens? (tokens : List Token) : Except ParseError ParsedRule := do
  let reading ← Reading.feedAll {} tokens
  reading.finish

/-- The rule that a text is. -/
def ofText? (text : String) : Except ParseError ParsedRule := do
  let tokens ← Token.ofText? text
  ofTokens? tokens

end ParsedRule
end Rulebook
