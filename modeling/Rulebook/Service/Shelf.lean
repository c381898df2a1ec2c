import Rulebook.Catalog
import Rulebook.Execution
import Rulebook.Service.Answer
import Rulebook.Service.Command
import Rulebook.Telemetry.Counter
import Rulebook.Telemetry.Event

/-!
Commands carried out.

* `Shelf`: the rules of the service and the ids it has given out.
* `Shelf.perform`: what a command does to them and what there is to say about it.

A command that fails leaves the shelf as it was.
-/

namespace Rulebook

/-- The rules that the service keeps, with how many ids it has given out. -/
structure Shelf where
  catalog : Catalog := .empty
  issued : Nat := 0
  deriving Inhabited

/-- What carrying out a command comes to. -/
structure Deed where
  shelf : Shelf
  answer : Answer
  /-- What is said about it, in order. -/
  events : List Event
  /-- What is counted. -/
  counts : List Counter := []

namespace Shelf

/-- Keeps a draft under the next id. -/
def keep (s : Shelf) (ids : Nat → String) (now : Instant) (draft : RuleDraft) : Shelf :=
  { catalog := s.catalog.save (draft.record (ids s.issued) now), issued := s.issued + 1 }

/-- A command that cannot be carried out. -/
def fail (s : Shelf) (error : ServiceError) (span : Span) (events : List Event)
    (counts : List Counter) : Deed :=
  { shelf := s, answer := .failed error, events := events ++ [.closed span], counts }

/-- A command with a rule whose text is refused. -/
def refuse (s : Shelf) (rule : String) (cause : ParseError) (span : Span) : Deed :=
  s.fail (.invalidRule cause) span [.refused rule cause] [.parseFailures cause.code]

/-- Keeps a rule under a new id. -/
def create (s : Shelf) (ids : Nat → String) (now : Instant) (rule : String) : Deed :=
  match ParsedRule.ofText? rule with
  | .error cause => s.refuse rule cause .createRule
  | .ok parsed =>
    let id := ids s.issued
    { shelf := s.keep ids now (.ofParsed rule parsed)
      answer := .created id parsed.tree
      events := [.parsed parsed, .saved id, .closed .add, .createDone id, .closed .createRule] }

/-- Gives an id another rule. The rule is read first. -/
def update (s : Shelf) (now : Instant) (id rule : String) : Deed :=
  match ParsedRule.ofText? rule with
  | .error cause => s.refuse rule cause .updateRule
  | .ok parsed =>
    match s.catalog.revise id (.ofParsed rule parsed) now with
    | .error e =>
      s.fail (.ofRuleError e) .updateRule [.parsed parsed, .reviseMissing id, .closed .update] []
    | .ok catalog =>
      { shelf := { s with catalog }
        answer := .updated id
        events := [.parsed parsed, .revised id, .closed .update, .updateDone id,
          .closed .updateRule] }

/-- Keeps the rule that joins the rules of some ids. The first id that has none decides. -/
def combine (s : Shelf) (ids : Nat → String) (now : Instant) (sources : List String) : Deed :=
  match sources.mapM s.catalog.require with
  | .error e => s.fail (.ofRuleError e) .combineRules [] []
  | .ok records =>
    match RuleRecord.combine? records with
    | none => s.fail (.validation [Task.noIds]) .combineRules [] []
    | some draft =>
      let id := ids s.issued
      { shelf := s.keep ids now draft
        answer := .combined id draft.tree
        events := [.saved id, .closed .addCombined, .combineDone id sources.length,
          .closed .combineRules] }

/-- Applies the rule of an id to data. -/
def evaluate (s : Shelf) (id : String) (data : Json) : Deed :=
  match s.catalog.require id with
  | .error e => s.fail (.ofRuleError e) .evaluateRule [] []
  | .ok record =>
    match execute false record data with
    | .error e => s.fail (.ofRuleError e) .evaluateRule [.evaluating id record.tree data] []
    | .ok verdict =>
      { shelf := s
        answer := .evaluated verdict.matched
        events := [.evaluating id record.tree data, .executed id verdict.matched,
          .evaluateDone id verdict.matched verdict.matchedConditions, .closed .evaluateRule]
        counts := [.evaluations verdict.matched] }

/-- Carries out a command, at an instant, with `ids` as the ids to give out. -/
def perform (s : Shelf) (ids : Nat → String) (now : Instant) : Command → Deed
  | .create rule => s.create ids now rule
  | .update id rule => s.update now id rule
  | .combine sources => s.combine ids now sources
  | .evaluate id data => s.evaluate id data

end Shelf
end Rulebook
