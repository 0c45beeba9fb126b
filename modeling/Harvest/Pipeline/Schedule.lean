import Harvest.Pipeline.World

/-!
Orders in which records take their turns. Records that wait for a store go on before any time passes, and
then the clock jumps to the moment at which the first sleeping record wakes up.
-/

namespace Harvest.Pipeline

variable {σ τ : Type}

/-- Which records can go on, which have yielded, and which sleep until when. -/
structure Agenda where
  ready : List Nat
  yielded : List Nat := []
  /-- Wake-up times, in the order in which the records fell asleep. -/
  asleep : List (Nat × Nat) := []
  now : Nat := 0

namespace Agenda

def pause (a : Agenda) (n : Nat) : Pause → Agenda
  | .none => a
  | .turn => { a with yielded := a.yielded ++ [n] }
  | .sleep ms => { a with asleep := a.asleep ++ [(a.now + ms, n)] }

/-- The first time at which a record wakes up. -/
def wakeTime? (a : Agenda) : Option Nat := (a.asleep.map (·.1)).min?

/-- Makes records ready when none is: those that yielded, or else those that wake up first. -/
def wake (a : Agenda) : Agenda :=
  if a.yielded ≠ [] then { a with ready := a.yielded, yielded := [] }
  else
    match a.wakeTime? with
    | none => a
    | some t =>
      { a with
        ready := (a.asleep.filter (·.1 = t)).map (·.2)
        asleep := a.asleep.filter (·.1 ≠ t)
        now := t }

end Agenda

structure Progress (σ τ : Type) where
  world : World σ τ
  agenda : Agenda

namespace Progress

/-- Lets a record go on until it pauses or ends. -/
def poll (p : Pipeline σ τ) (s : Progress σ τ) (n : Nat) : Progress σ τ :=
  let (world, pause) := s.world.goOn p n
  ⟨world, s.agenda.pause n pause⟩

def setReady (s : Progress σ τ) (ready : List Nat) : Progress σ τ :=
  { s with agenda := { s.agenda with ready := ready } }

/-- Polls all ready records in the order of their indices, as often as records become ready. -/
def rounds (p : Pipeline σ τ) (s : Progress σ τ) : Nat → Progress σ τ
  | 0 => s
  | fuel + 1 =>
    let order := s.agenda.ready.mergeSort
    let s := order.foldl (poll p) (s.setReady [])
    let agenda := s.agenda.wake
    if agenda.ready = [] then s else rounds p { s with agenda := agenda } fuel

/-- Polls ready records in the order in which they became ready, until one of them ends. -/
def drain (p : Pipeline σ τ) (s : Progress σ τ) : List Nat → Bool × Progress σ τ
  | [] => (false, s.setReady [])
  | n :: rest =>
    let s := s.poll p n
    if s.world.isFinished n then (true, s.setReady rest) else drain p s rest

end Progress

/-- Records that are started as others end. -/
structure Shift (σ τ : Type) where
  progress : Progress σ τ
  started : Nat
  /-- How many of these have not ended. -/
  active : Nat

namespace Shift

/-- Starts the next record, if there is one and fewer than `limit` are under way. -/
def start (limit : Nat) (s : Shift σ τ) : Option (Shift σ τ) :=
  if s.active < limit ∧ s.started < s.progress.world.items.length then
    some ⟨s.progress.setReady (s.progress.agenda.ready ++ [s.started]), s.started + 1, s.active + 1⟩
  else none

/-- Starts records and lets them go on until all have ended. -/
def work (p : Pipeline σ τ) (limit : Nat) (s : Shift σ τ) : Nat → Shift σ τ
  | 0 => s
  | fuel + 1 =>
    let started := s.start limit
    let s := started.getD s
    match s.progress.drain p s.progress.agenda.ready with
    | (true, progress) => work p limit ⟨progress, s.started, s.active - 1⟩ fuel
    | (false, progress) =>
      if started.isSome then work p limit { s with progress := progress } fuel
      else
        let agenda := progress.agenda.wake
        if agenda.ready = [] then { s with progress := progress }
        else work p limit { s with progress := { progress with agenda := agenda } } fuel

def fuel (w : World σ τ) : Nat := 2 * w.rank + 3 * w.items.length + 1

end Shift

/-- The greatest number of records that are polled in the order of their indices. -/
def indexedLimit : Nat := 30

/-- Lets all records go on together, and tells the milliseconds that it takes. -/
def join (p : Pipeline σ τ) (w : World σ τ) : World σ τ × Nat :=
  let all := w.items.length
  let progress : Progress σ τ := ⟨w, { ready := List.range all }⟩
  let progress :=
    if all ≤ indexedLimit then progress.rounds p (w.rank + 1)
    else (Shift.work p all ⟨progress, all, all⟩ (Shift.fuel w)).progress
  (progress.world, progress.agenda.now)

/-- Lets records go on with at most `limit` of them under way, which are started in order. -/
def runBounded (p : Pipeline σ τ) (limit : Nat) (w : World σ τ) : World σ τ × Nat :=
  let progress := (Shift.work p limit ⟨⟨w, { ready := [] }⟩, 0, 0⟩ (Shift.fuel w)).progress
  (progress.world, progress.agenda.now)

end Harvest.Pipeline
