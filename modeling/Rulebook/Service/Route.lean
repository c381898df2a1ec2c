import Rulebook.Service.Command
import Rulebook.Service.Rejection
import Rulebook.Service.Request

/-!
Where requests go.

* `Endpoint.ofPath?`: what the service has at a path. Paths are compared as they are.
* `route`: the endpoint of a request, or why it is turned away.
-/

namespace Rulebook

/-- What the service has at a path. -/
inductive Endpoint where
  /-- The name of the service. -/
  | greeting
  /-- Whether the service is up. -/
  | health
  /-- The rules that are kept. -/
  | rules
  /-- Work on rules. -/
  | task (task : Task)
  deriving DecidableEq, Repr

namespace Endpoint

/-- What the service has at a path. -/
def ofPath? : String → Option Endpoint
  | "/" => some greeting
  | "/health" => some health
  | "/rules" => some rules
  | "/create_rule" => some (task .create)
  | "/update_rule" => some (task .update)
  | "/combine_rules" => some (task .combine)
  | "/evaluate_rule" => some (task .evaluate)
  | _ => none

/-- The methods that an endpoint takes. -/
def methods : Endpoint → List String
  | task _ => ["POST"]
  | _ => ["GET", "HEAD"]

end Endpoint

/-- The endpoint of a request. -/
def route (r : Request) : Except Rejection Endpoint :=
  match Endpoint.ofPath? r.path with
  | none => .error .unknownPath
  | some endpoint => if r.method ∈ endpoint.methods then .ok endpoint else .error .wrongMethod

end Rulebook
