/-!
What can go wrong between a text and its translation.
-/

namespace Harvest.Translation

inductive Failure
  /-- The request could not be built or sent, or its answer broke off. -/
  | requestFailed (reason : String)
  /-- The answer is not of the expected form. -/
  | unreadable (reason : String)
  /-- The service refused the request. -/
  | refused (status : UInt16) (reason : String)
  | disconnected (reason : String)
  | timedOut (reason : String)
deriving DecidableEq, Repr

def Failure.message : Failure → String
  | requestFailed reason => "API request failed: " ++ reason
  | unreadable reason => "Failed to parse API response: " ++ reason
  | refused status reason => s!"API responded with error: {status.toNat} - {reason}"
  | disconnected reason => "Connection error: " ++ reason
  | timedOut reason => "Request timed out: " ++ reason

end Harvest.Translation
