import Rulebook.Instant.Reader
import Rulebook.RuleTree.Document
import Rulebook.RuleTree.Parser

/-!
Rules as they are kept: with an id, their text, the fields they look at, and two times.

* `RuleRecord.ofJson?`: the record that a document is; times left out are the present.
* `RuleRecord.combine?`: several records in one.
-/

namespace Rulebook

/-- A rule as it is kept. -/
structure RuleRecord where
  id : String
  text : String
  tree : RuleTree
  /-- The fields that data have to have. -/
  fields : List String
  createdAt : Instant
  updatedAt : Instant
  deriving DecidableEq, Repr, Inhabited

/-- A rule before it has an id. -/
structure RuleDraft where
  text : String
  tree : RuleTree
  fields : List String
  deriving DecidableEq, Repr, Inhabited

/-- The draft of a rule that has been read from a text. -/
def RuleDraft.ofParsed (text : String) (parsed : ParsedRule) : RuleDraft :=
  { text, tree := parsed.tree, fields := parsed.fields }

/-- A draft with an id, new at an instant. -/
def RuleDraft.record (d : RuleDraft) (id : String) (now : Instant) : RuleRecord :=
  { id, text := d.text, tree := d.tree, fields := d.fields, createdAt := now, updatedAt := now }

namespace RuleRecord

/-- The instant that a value is the text of; a value left out is the present. -/
def time? (now : Instant) : Option Json → Option Instant
  | none => some now
  | some value => value.text? >>= Instant.ofText?

/-- The record with the given parts. -/
def ofParts? (now : Instant) (id text tree fields : Json) (createdAt updatedAt : Option Json) :
    Option RuleRecord := do
  let id ← id.text?
  let text ← text.text?
  let tree ← RuleTree.ofJson? tree
  let fields ← fields.texts?
  let createdAt ← time? now createdAt
  let updatedAt ← time? now updatedAt
  some { id, text, tree, fields, createdAt, updatedAt }

/-- The record that a value is a form of: an object, or the array of its parts, of which the times
may be left out. -/
def ofJson? (now : Instant) : Json → Option RuleRecord
  | .object members => do
    ofParts? now (← Json.once? "id" members) (← Json.once? "ruleString" members)
      (← Json.once? "ast" members) (← Json.once? "usedAttributes" members)
      (← Json.atMostOnce? "createdAt" members) (← Json.atMostOnce? "updatedAt" members)
  | .array [id, text, tree, fields] => ofParts? now id text tree fields none none
  | .array [id, text, tree, fields, createdAt] =>
    ofParts? now id text tree fields (some createdAt) none
  | .array [id, text, tree, fields, createdAt, updatedAt] =>
    ofParts? now id text tree fields (some createdAt) (some updatedAt)
  | _ => none

/-- Several records in one: the rules joined by AND in their order, the texts in a row, and the
fields taken from the joined rule, not from what the records say. -/
def combine? (records : List RuleRecord) : Option RuleDraft :=
  (RuleTree.conjoin? (records.map (·.tree))).map fun tree =>
    { text := "Combined Rule: " ++ " + ".intercalate (records.map (·.text)), tree,
      fields := tree.fields }

end RuleRecord
end Rulebook
