import Harvest.Failure
import Harvest.Log
import Harvest.Stored

/-!
Record stores: records are appended, looked up by their exact URL and counted. A store may fail, and a
failed call may still change its state.
-/

namespace Harvest

/-- The operations of a store with states `σ`. -/
structure RecordStore (σ : Type) where
  append : StoredRecord → σ → Except Failure Unit × σ
  /-- The first record with exactly this URL. -/
  find : String → σ → Except Failure (Option StoredRecord) × σ
  count : σ → Except Failure Nat × σ
  /-- What is logged once a record is appended. -/
  notes : StoredRecord → List Log.Entry
  /-- Whether other work runs while a call is under way. -/
  yields : Bool

end Harvest
