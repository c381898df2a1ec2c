import Rulebook.Instant.Basic
import Rulebook.Service.MediaType

/-!
Requests to the service.

* `Request.path`: what a request is for, without the query behind it.
* `RequestId.ofHeader`: the id that a request goes by.
-/

namespace Rulebook

/-- A request, as far as the service looks at it. -/
structure Request where
  method : String
  /-- Path and query, which a scheme and a host may stand before. -/
  target : String
  contentType : Option String := none
  /-- The id that the sender gave it. -/
  requestId : Option String := none
  /-- What stands in the body, which is text: bytes that are no UTF-8 have no counterpart here. -/
  body : String := ""
  deriving DecidableEq, Repr, Inhabited

namespace Request

/-- What stands before the query of a target. -/
def beforeQuery (target : List Char) : List Char := target.takeWhile fun c => c ≠ '?' ∧ c ≠ '#'

/-- What stands behind the name of the host, which begins the text. -/
def behindHost (text : List Char) : List Char :=
  text.dropWhile fun c => c ≠ '/' ∧ c ≠ '?' ∧ c ≠ '#'

/-- The path that a target names. One that begins with a scheme and a host has its path behind them,
or else the shortest path; one that is only a host has none. -/
def pathOf (target : List Char) : List Char :=
  match target with
  | '/' :: _ => beforeQuery target
  | ['*'] => target
  | _ =>
    match target.dropWhile (· ≠ ':') with
    | ':' :: '/' :: '/' :: rest =>
      let path := beforeQuery (behindHost rest)
      if path.isEmpty then ['/'] else path
    | _ => []

/-- The path of a request. -/
def path (r : Request) : String := String.ofList (pathOf r.target.toList)

/-- How many bytes a body may have. -/
def longestBody : Nat := 2 * 1024 * 1024

/-- Whether the header says that the body is JSON. -/
def carriesJson (r : Request) : Bool := r.contentType.any MediaType.namesJson

end Request

/-- A request and the time it comes in. -/
structure Arrival where
  request : Request
  now : Instant
  deriving DecidableEq, Repr, Inhabited

/-- The id that a request goes by, which its reply carries. -/
inductive RequestId where
  /-- The one the sender gave it. -/
  | given (text : String)
  /-- A new one. -/
  | fresh
  deriving DecidableEq, Repr

/-- Whether a character can be printed in a header. -/
def RequestId.isPrintable (c : Char) : Bool :=
  c = '\t' || (31 < c.toNat && c.toNat < 127)

/-- The id of a request by its header: kept as it is, even empty, unless it cannot be printed. -/
def RequestId.ofHeader : Option String → RequestId
  | some text => if text.toList.all isPrintable then given text else fresh
  | none => fresh

end Rulebook
