import Harvest.Pipeline.Counters
import Harvest.Pipeline.Failure
import Harvest.Settings.Basic
import Harvest.Store.Basic
import Harvest.Translation.Translator

/-!
Pipelines. A pipeline takes records in, marks them as part of a run, has them translated if it is to, and
stores them. Its records share a store, a translator, the set of URLs under way, counters and a log.
-/

namespace Harvest

namespace Pipeline

structure Plan where
  target : String
  /-- The pause between the two calls for one record, in milliseconds. -/
  delay : Nat
  mode : Settings.Mode
  delimiter : String
deriving DecidableEq, Repr

/-- What a stored record gets besides the record. -/
structure Identity where
  id : String
  createdAt : String
deriving DecidableEq, Repr

/-- What comes of a record: it is kept as it was stored, dropped, or fails. -/
abbrev Outcome := Except Failure (Option Record)

/-- A field, or both in one, as it is sent to the translator. -/
inductive Part
  | both | content | title
deriving DecidableEq, Repr

def Part.name : Part → String
  | both => "packed"
  | content => "content"
  | title => "title"

/-- How far a record has come. -/
inductive Stage
  | arrived
  /-- Its URL is claimed and about to be looked up. -/
  | looking
  | looked (answer : Except Harvest.Failure (Option StoredRecord))
  /-- A part is about to be sent to the translator. -/
  | asking (part : Part)
  | asked (part : Part) (answer : Translation.Answer)
  | saving
  | saved (answer : Except Harvest.Failure StoredRecord)
  | finished (outcome : Outcome)

/-- A bound for the number of steps that are left. -/
def Stage.rank : Stage → Nat
  | arrived => 11
  | looking => 10
  | looked _ => 9
  | asking .both => 8
  | asked .both _ => 7
  | asking .content => 6
  | asked .content _ => 5
  | asking .title => 4
  | asked .title _ => 3
  | saving => 2
  | saved _ => 1
  | finished _ => 0

structure Item where
  record : Record
  stage : Stage := .arrived

def Item.outcome? (i : Item) : Option Outcome :=
  match i.stage with
  | .finished o => some o
  | _ => none

/-- What the records of a pipeline share; the store has states `σ`, the translator `τ`. -/
structure Shared (σ τ : Type) where
  store : σ
  session : Translation.Session τ
  /-- The URLs that are claimed. -/
  inFlight : List String := []
  counters : Counters := {}
  log : List Log.Entry := []
  /-- How many identities were given out. -/
  minted : Nat := 0

def Shared.note {σ τ : Type} (s : Shared σ τ) (entries : List Log.Entry) : Shared σ τ :=
  { s with log := s.log ++ entries }

/-- What lies between two steps of a record. -/
inductive Pause
  | none
  /-- Other work goes first, but no time passes. -/
  | turn
  | sleep (milliseconds : Nat)
deriving DecidableEq, Repr

/-- Sleeping for no time is no pause, and no sleep is longer than the longest wait. -/
def Pause.ofWait (milliseconds : Nat) : Pause :=
  if milliseconds = 0 then none else sleep (min milliseconds Translation.longestWait)

/-- Stores that yield let other work go first. -/
def Pause.ofYield (yields : Bool) : Pause := if yields then turn else none

end Pipeline

structure Pipeline (σ τ : Type) where
  store : RecordStore σ
  translator : Translation.Translator τ
  taskId : String
  /-- Whether records whose URL is stored or under way are dropped. -/
  dropDuplicates : Bool
  /-- Nothing, where records are only stored. -/
  plan : Option Pipeline.Plan
  identity : Nat → Pipeline.Identity
  /-- What is logged at the end of a record. -/
  report : Record → Pipeline.Outcome → List Log.Entry := fun _ _ => []

def Pipeline.name {σ τ : Type} (p : Pipeline σ τ) : String :=
  if p.plan.isSome then "TranslatePipeline" else "StorePipeline"

end Harvest
