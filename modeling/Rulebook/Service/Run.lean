import Rulebook.Service.Shelf
import Rulebook.Service.Route

/-!
The service as a whole: requests come in one after the other, and each is answered.

* `Service.respond`: what one request does.
* `Service.run`: what a list of requests does.

The time of a request comes with it, and the ids to give out are a parameter, so both are functions.
-/

namespace Rulebook

/-- The span that a task is done in. -/
def Task.span : Task → Span
  | create => .createRule
  | update => .updateRule
  | combine => .combineRules
  | evaluate => .evaluateRule

namespace Shelf

/-- Turns a request away. -/
def reject (s : Shelf) (reason : Rejection) : Deed :=
  { shelf := s, answer := .rejected reason, events := [] }

/-- Does a task with the body of a request. -/
def doTask (s : Shelf) (ids : Nat → String) (now : Instant) (task : Task) (request : Request) :
    Deed :=
  if !request.carriesJson then s.reject .wrongMediaType
  else if Request.longestBody < request.body.utf8ByteSize then s.reject .longBody
  else match task.read request.body with
    | .error .malformed => s.reject .malformedBody
    | .error .mismatched => s.reject .mismatchedBody
    | .error (.unfilled lines) => s.fail (.validation lines) task.span [] []
    | .ok command => s.perform ids now command

/-- What a request does at an endpoint. -/
def visit (s : Shelf) (ids : Nat → String) (now : Instant) (request : Request) : Endpoint → Deed
  | .greeting => { shelf := s, answer := .greeting, events := [] }
  | .health => { shelf := s, answer := .healthy, events := [] }
  | .rules => { shelf := s, answer := .rules s.catalog.toList, events := [] }
  | .task task => s.doTask ids now task request

/-- What a request does. -/
def handle (s : Shelf) (ids : Nat → String) (arrival : Arrival) : Deed :=
  match route arrival.request with
  | .error reason => s.reject reason
  | .ok endpoint => s.visit ids arrival.now arrival.request endpoint

end Shelf

/-- The state of the service. -/
structure Service where
  shelf : Shelf := {}
  counters : Counters := {}
  deriving Inhabited

/-- What is left of a request that has been answered. -/
structure Exchange where
  reply : Reply
  events : List Event
  /-- How many rules there are after it. -/
  rules : Nat
  deriving Repr

namespace Service

/-- The rules that are kept. -/
def catalog (s : Service) : Catalog := s.shelf.catalog

/-- Answers a request. -/
def respond (ids : Nat → String) (s : Service) (arrival : Arrival) : Service × Exchange :=
  let request := arrival.request
  let deed := s.shelf.handle ids arrival
  let counts := deed.counts ++ [.requests request.method request.path deed.answer.status]
  ({ shelf := deed.shelf, counters := counts.foldl Counters.bump s.counters },
    { reply := {
        answer := deed.answer
        requestId := .ofHeader request.requestId
        bare := request.method = "HEAD" }
      events := deed.events ++ [.closed .request]
      rules := deed.shelf.catalog.size })

/-- Answers requests in their order. -/
def run (ids : Nat → String) (s : Service) : List Arrival → Service × List Exchange
  | [] => (s, [])
  | arrival :: rest =>
    let (s, exchange) := s.respond ids arrival
    let (s, exchanges) := s.run ids rest
    (s, exchange :: exchanges)

end Service
end Rulebook
