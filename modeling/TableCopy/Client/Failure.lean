import TableCopy.Error

/-!
# Failed requests

How a request to the service can fail, and what each way means for the copy. A
code of the service decides first; without a known one it matters whether an
answer could be read at all.
-/

namespace TableCopy

inductive RequestFailure
  /-- The service answered with an error, with a code if it gave one. -/
  | service (code : Option String)
  /-- The request could not be built. -/
  | construction
  | timeout
  /-- The request did not reach the service. -/
  | dispatch
  /-- The answer could not be read. -/
  | response
  deriving DecidableEq, Repr

namespace RequestFailure

/-- Codes that mean the table's capacity is used up. -/
def throttlingCodes : List String :=
  ["ProvisionedThroughputExceededException", "ThrottlingException", "RequestLimitExceeded"]

/-- Codes of faults that pass. -/
def transientCodes : List String := ["InternalServerError", "ServiceUnavailable"]

/-- How a failure is named to the operator. -/
def cause : RequestFailure → String
  | service none => "service error"
  | service (some code) => "service error: " ++ code
  | construction => "failed to construct request"
  | timeout => "request has timed out"
  | dispatch => "dispatch failure"
  | response => "response error"

/-- The error of a failed request; `operation` says what was attempted and `cause`
is the client's own account of the failure. -/
def toError (failure : RequestFailure) (operation cause : String) : CopyError :=
  let message := operation ++ ": " ++ cause
  match failure with
  | service (some code) =>
    if throttlingCodes.contains code then .throttled message
    else if transientCodes.contains code then .communication message
    else .execution message
  | service none | construction => .execution message
  | timeout | dispatch | response => .communication message

end RequestFailure
end TableCopy
