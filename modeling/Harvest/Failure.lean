/-!
Application failures: what failed, and below it the causes from the outermost to the root.
-/

namespace Harvest

structure Failure where
  message : String
  causes : List String := []
deriving DecidableEq, Repr

namespace Failure

/-- The same failure as the cause of another. -/
def wrap (f : Failure) (context : String) : Failure := ⟨context, f.message :: f.causes⟩

theorem wrap_message (f : Failure) (context : String) : (f.wrap context).message = context := rfl

end Failure

end Harvest
