import Harvest.Proofs.Store.Lawful

/-!
Stores that are watched. A watched store does what the store behind it does, and keeps the calls that it received
with their answers.
-/

namespace Harvest.Store

/-- A call that looks for a record or adds one, with its answer. -/
inductive Exchange
  | find (url : String) (answer : Except Failure (Option StoredRecord))
  | append (row : StoredRecord) (answer : Except Failure Unit)

namespace Exchange

def row? : Exchange → Option StoredRecord
  | append row (.ok ()) => some row
  | _ => none

def isFailed : Exchange → Bool
  | find _ (.error _) | append _ (.error _) => true
  | _ => false

/-- The state of a store after a call. -/
def replay {σ : Type} (store : RecordStore σ) (s : σ) : Exchange → σ
  | find url _ => (store.find url s).2
  | append row _ => (store.append row s).2

end Exchange

structure Watched (σ : Type) where
  inner : σ
  exchanges : List Exchange := []

def watched {σ : Type} (s : RecordStore σ) : RecordStore (Watched σ) where
  append row t :=
    let (answer, inner) := s.append row t.inner
    (answer, ⟨inner, t.exchanges ++ [.append row answer]⟩)
  find url t :=
    let (answer, inner) := s.find url t.inner
    (answer, ⟨inner, t.exchanges ++ [.find url answer]⟩)
  count t :=
    let (answer, inner) := s.count t.inner
    (answer, { t with inner := inner })
  notes := s.notes
  yields := s.yields

end Harvest.Store
