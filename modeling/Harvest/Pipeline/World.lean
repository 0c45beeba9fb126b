import Harvest.Pipeline.Step

/-!
Several records in one pipeline. A move lets one of them take a step; every way in which records may be
interleaved is a list of moves.
-/

namespace Harvest.Pipeline

variable {σ τ : Type}

structure World (σ τ : Type) where
  shared : Shared σ τ
  items : List Item

namespace World

/-- Records that have just arrived. -/
def ofRecords (s : Shared σ τ) (records : List Record) : World σ τ := ⟨s, records.map (⟨·, .arrived⟩)⟩

/-- Lets the record with index `n` take a step. -/
def move (p : Pipeline σ τ) (w : World σ τ) (n : Nat) : World σ τ :=
  match w.items[n]? with
  | none => w
  | some i =>
    let next := step p w.shared i
    ⟨next.shared, w.items.set n next.item⟩

/-- Lets records take steps in the order of a list. -/
def run (p : Pipeline σ τ) (w : World σ τ) (moves : List Nat) : World σ τ := moves.foldl (move p) w

def isDone (w : World σ τ) : Bool := w.items.all fun i => i.outcome?.isSome

def isFinished (w : World σ τ) (n : Nat) : Bool := w.items[n]?.all fun i => i.outcome?.isSome

/-- Lets the record with index `n` go on until it pauses or ends. -/
def goOn (p : Pipeline σ τ) (w : World σ τ) (n : Nat) : World σ τ × Pause :=
  match w.items[n]? with
  | none => (w, .none)
  | some i =>
    let next := Pipeline.goOn p w.shared i
    (⟨next.shared, w.items.set n next.item⟩, next.pause)

/-- A bound for the number of steps that are left. -/
def rank (w : World σ τ) : Nat := w.items.foldr (fun i n => i.stage.rank + n) 0

theorem run_cons (p : Pipeline σ τ) (w : World σ τ) (n : Nat) (moves : List Nat) :
    w.run p (n :: moves) = (w.move p n).run p moves := rfl

theorem run_append (p : Pipeline σ τ) (w : World σ τ) (before after : List Nat) :
    w.run p (before ++ after) = (w.run p before).run p after := List.foldl_append

end World

end Harvest.Pipeline
