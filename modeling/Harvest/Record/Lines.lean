import Harvest.Failure
import Harvest.Record.Decode
import Harvest.Text.Lines

/-!
Records from JSON lines: one record a line, blank lines between them, all or nothing.
-/

namespace Harvest.Record

def ofLines : Nat → List String → Except Failure (List Record)
  | _, [] => .ok []
  | n, line :: rest =>
    if Text.isBlankText line then ofLines (n + 1) rest
    else
      match parse line with
      | .ok r => (ofLines (n + 1) rest).map (r :: ·)
      | .error e => .error ⟨s!"Invalid record on line {n}", [e.message]⟩

/-- The records of a text, or the first line that is neither blank nor a record. -/
def parseLines (text : String) : Except Failure (List Record) := ofLines 1 (Text.lines text)

end Harvest.Record
