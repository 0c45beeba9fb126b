import Harvest.Proofs.Record.RoundTrip
import Harvest.Store.Collection

/-!
Rows of collections. A record that was read from a text comes back from its row if its numbers come back from theirs.
-/

namespace Harvest

namespace Json

theorem parse_compact {v : Json} (kept : ∀ n ∈ v.numbers, IsKept n) (merged : v.isMerged = true)
    (shallow : v.depth ≤ maxRoom) : parse v.compact = .ok v := by
  have value : (toDoc v).value maxRoom = .ok v := by
    rw [Doc.value, content_toDoc v shallow, Except.map, merged_of_isMerged merged]
  rw [parse, decode, ofText_compact kept, Document.read, value]
  rfl

end Json

namespace Store

open Json

/-- A stored record comes back from its row: its texts as they are, the optional ones absent or empty as they were, and
its extra fields from their text. -/
theorem toStored_ofStored {s : StoredRecord} {text : String} (read : Record.parse text = .ok s.record)
    (kept : ∀ n ∈ s.record.numbers, IsKept n) : (Row.ofStored s).toStored = .ok s := by
  obtain ⟨formed, shallow⟩ := Record.wellFormed_of_parse read
  have same_depth : (object s.record.extra).depth = s.record.toJson.depth := (Record.depth_toJson s.record).symm
  have extra : Json.parse (object s.record.extra).compact = .ok (object s.record.extra) :=
    Json.parse_compact kept formed.merged (same_depth ▸ shallow)
  rw [Row.toStored, Row.ofStored, Row.extraOfText, extra]
  rfl

end Store

end Harvest
