/-!
Why requests are turned away.

A request that is turned away has not been understood: nothing is done, and its reply says nothing
but its status.

* `Rejection.status`: the status of the reply.
-/

namespace Rulebook

/-- Why a request is turned away before its command is known. -/
inductive Rejection where
  /-- There is nothing at its path. -/
  | unknownPath
  /-- What is at its path does not take its method. -/
  | wrongMethod
  /-- Its body is not said to be JSON. -/
  | wrongMediaType
  /-- Its body is too long. -/
  | longBody
  /-- Its body is not JSON. -/
  | malformedBody
  /-- The fields of its body are not what they should be. -/
  | mismatchedBody
  deriving DecidableEq, Repr

/-- The status of a rejection. -/
def Rejection.status : Rejection → Nat
  | unknownPath => 404
  | wrongMethod => 405
  | wrongMediaType => 415
  | longBody => 413
  | malformedBody => 400
  | mismatchedBody => 422

end Rulebook
