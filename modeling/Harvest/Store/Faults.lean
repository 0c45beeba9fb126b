import Harvest.Store.Basic

/-!
A store of which chosen calls fail: appends and look-ups are counted from 1, and those whose number is
listed do not reach the store behind.
-/

namespace Harvest.Store

/-- The numbers of the calls that fail. -/
structure Faults where
  appends : List Nat := []
  finds : List Nat := []
deriving Repr

/-- A store's state with the number of calls made so far. -/
structure Faulty (σ : Type) where
  inner : σ
  appends : Nat := 0
  finds : Nat := 0

namespace Faults

def appendFailure (n : Nat) : Failure := ⟨s!"scripted save failure {n}", []⟩

def findFailure (n : Nat) : Failure := ⟨s!"scripted find failure {n}", ["scripted root"]⟩

def store {σ : Type} (f : Faults) (s : RecordStore σ) : RecordStore (Faulty σ) where
  append r t :=
    let n := t.appends + 1
    if n ∈ f.appends then (.error (appendFailure n), { t with appends := n })
    else
      let (answer, inner) := s.append r t.inner
      (answer, { t with inner := inner, appends := n })
  find url t :=
    let n := t.finds + 1
    if n ∈ f.finds then (.error (findFailure n), { t with finds := n })
    else
      let (answer, inner) := s.find url t.inner
      (answer, { t with inner := inner, finds := n })
  count t :=
    let (answer, inner) := s.count t.inner
    (answer, { t with inner := inner })
  notes := s.notes
  yields := s.yields

end Faults

end Harvest.Store
