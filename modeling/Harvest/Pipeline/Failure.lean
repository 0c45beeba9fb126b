import Harvest.Failure
import Harvest.Translation.Failure

/-!
Why a record does not get through a pipeline.
-/

namespace Harvest.Pipeline

inductive Failure
  | translation (cause : Translation.Failure)
  | store (cause : Harvest.Failure)
  | invalidItem (reason : String)
deriving DecidableEq, Repr

namespace Failure

def message : Failure → String
  | translation cause => "Provider error: " ++ cause.message
  | store cause => "Store error: " ++ cause.message
  | invalidItem reason => "Invalid item: " ++ reason

/-- A record whose URL is blank. -/
def noUrl (title : String) : Failure := invalidItem s!"record has no url (title: '{title}')"

end Failure

end Harvest.Pipeline
