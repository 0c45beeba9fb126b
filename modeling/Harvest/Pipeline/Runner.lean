import Harvest.Pipeline.Schedule
import Harvest.Settings.Basic

/-!
Runs: all records of an input go through one pipeline, and then it is closed.
-/

namespace Harvest

namespace Settings

def Translating.plan (t : Translating) : Pipeline.Plan := ⟨t.targetLanguage, t.delayMs.toNat, t.mode, t.delimiter⟩

/-- The translation that a variant asks for. -/
def plan? (s : Settings) : Option Pipeline.Plan :=
  match s.pipeline.variant with
  | .plain => none
  | .translate => some s.translation.plan

end Settings

namespace Pipeline

variable {σ τ : Type}

def ofSettings (s : Settings) (taskId : String) (store : RecordStore σ)
    (translator : Translation.Translator τ) (identity : Nat → Identity) : Pipeline σ τ where
  store := store
  translator := translator
  taskId := taskId
  dropDuplicates := s.pipeline.dropDuplicates
  plan := s.plan?
  identity := identity

structure Summary where
  received : Nat
  counters : Counters
deriving DecidableEq, Repr

/-- The summary as JSON, with the nanoseconds that the run took. -/
def Summary.toJson (s : Summary) (elapsed : Nat) : Json := .object [
  ("received", .nat s.received), ("stats", s.counters.toJson),
  ("elapsed", .object
    [("secs", .nat (elapsed / 1000000000)), ("nanos", .nat (elapsed % 1000000000))])]

def closingNote (p : Pipeline σ τ) (c : Counters) : Log.Entry := Log.info s!"{p.name} closed: {c.text}"

def failureNotes (r : Record) : Outcome → List Log.Entry
  | .error f => [Log.error s!"Failed to process {r.url}: {f.message}"]
  | .ok _ => []

/-- Runs records through a pipeline, at most `concurrency` at the same time but at least one. -/
def runAll (p : Pipeline σ τ) (concurrency : Nat) (s : Shared σ τ) (records : List Record) :
    Summary × Shared σ τ × Nat :=
  let limit := max 1 concurrency
  let s := s.note [Log.info s!"Running {p.name} with concurrency {limit}"]
  let (w, slept) := runBounded { p with report := failureNotes } limit (World.ofRecords s records)
  let s := w.shared
  (⟨records.length, s.counters⟩, s.note [closingNote p s.counters], slept)

end Pipeline

end Harvest
