import Harvest.Json.Writer

/-!
What a pipeline counts.
-/

namespace Harvest.Pipeline

structure Counters where
  processed : Nat := 0
  stored : Nat := 0
  /-- Records dropped because of their URL. -/
  duplicatesSkipped : Nat := 0
  /-- Records that went on to be stored without a complete translation. -/
  translationFailures : Nat := 0
  errors : Nat := 0
deriving DecidableEq, Repr

namespace Counters

def kept (c : Counters) : Counters := { c with processed := c.processed + 1, stored := c.stored + 1 }

/-- A record was dropped. That it was a duplicate is counted where it is found out. -/
def dropped (c : Counters) : Counters := { c with processed := c.processed + 1 }

def failed (c : Counters) : Counters := { c with processed := c.processed + 1, errors := c.errors + 1 }

def duplicate (c : Counters) : Counters := { c with duplicatesSkipped := c.duplicatesSkipped + 1 }

def untranslated (c : Counters) : Counters :=
  { c with translationFailures := c.translationFailures + 1 }

/-- The counters under their names, in the order of reports. -/
def entries (c : Counters) : List (String × Nat) :=
  [("processed", c.processed), ("stored", c.stored), ("duplicates_skipped", c.duplicatesSkipped),
    ("translation_failures", c.translationFailures), ("errors", c.errors)]

def toJson (c : Counters) : Json := .object (c.entries.map fun e => (e.1, .nat e.2))

def text (c : Counters) : String :=
  s!"processed: {c.processed}, stored: {c.stored}, duplicates skipped: {c.duplicatesSkipped}, " ++
    s!"translation failures: {c.translationFailures}, errors: {c.errors}"

end Counters

end Harvest.Pipeline
