import Harvest.Proofs.Pipeline.Order

/-!
One record at a time. The run in which each record is completed before the next one begins is one of the runs
that start their records in order, and in it all records come to their end.
-/

namespace Harvest.Pipeline

variable {σ τ : Type}

theorem Stage.rank_le (stage : Stage) : stage.rank ≤ Stage.arrived.rank := by
  cases stage with
  | asking part | asked part _ => cases part <;> simp [Stage.rank]
  | _ => simp [Stage.rank]

theorem complete_finished {p : Pipeline σ τ} {s : Shared σ τ} {i : Item} (ended : i.outcome? ≠ none) :
    complete p s i = (s, i, 0) := by
  rw [complete, dif_neg ended]

theorem complete_unfinished {p : Pipeline σ τ} {s : Shared σ τ} {i : Item} (unfinished : i.outcome? = none) :
    (complete p s i).1 = (complete p (step p s i).shared (step p s i).item).1 ∧
      (complete p s i).2.1 = (complete p (step p s i).shared (step p s i).item).2.1 := by
  rw [complete, dif_pos unfinished]
  dsimp only
  split <;> exact ⟨rfl, rfl⟩

namespace World

def complete (p : Pipeline σ τ) (w : World σ τ) (n : Nat) : World σ τ :=
  match w.items[n]? with
  | none => w
  | some i => ⟨(Pipeline.complete p w.shared i).1, w.items.set n (Pipeline.complete p w.shared i).2.1⟩

/-- Lets all records go through one at a time. -/
def inTurn (p : Pipeline σ τ) (w : World σ τ) : World σ τ := (List.range w.items.length).foldl (complete p) w

variable {p : Pipeline σ τ} {w : World σ τ} {n : Nat}

theorem complete_still (still : ∀ i, w.items[n]? = some i → i.outcome? ≠ none) : w.complete p n = w := by
  unfold complete
  split
  · rfl
  · rename_i i found
    rw [complete_finished (still i found)]
    obtain ⟨inside, rfl⟩ := List.getElem?_eq_some_iff.1 found
    simp only [List.set_getElem_self]

theorem complete_move {i : Item} (found : w.items[n]? = some i) (unfinished : i.outcome? = none) :
    (w.move p n).complete p n = w.complete p n := by
  obtain ⟨shared, item⟩ := complete_unfinished (p := p) (s := w.shared) unfinished
  simp only [complete, move_here found, found, shared, item]
  rw [move_eq found, List.set_set]

theorem run_still (still : w.move p n = w) (k : Nat) : w.run p (List.replicate k n) = w := by
  induction k with
  | zero => rfl
  | succ k ih => rw [List.replicate_succ, run_cons, still, ih]

/-- To complete a record is to let it take as many steps as it has left, or more. -/
theorem complete_eq_run {k : Nat} (enough : ∀ i, w.items[n]? = some i → i.stage.rank ≤ k) :
    w.complete p n = w.run p (List.replicate k n) := by
  induction k generalizing w with
  | zero =>
    refine complete_still fun i found unfinished => ?_
    have closer := step_rank_lt p w.shared i unfinished
    have none_left := enough i found
    omega
  | succ k ih =>
    rcases w.active_or_still n with ⟨i, found, unfinished⟩ | still
    · rw [List.replicate_succ, run_cons, ← complete_move found unfinished]
      apply ih
      intro j moved
      obtain rfl := Option.some.inj (moved.symm.trans (move_here found))
      have closer := step_rank_lt p w.shared i unfinished
      have some_left := enough i found
      omega
    · rw [complete_still still, run_still (move_eq_self still)]

def turns (indices : List Nat) : List Nat := indices.flatMap (List.replicate Stage.arrived.rank)

theorem isFinished_of_turn {moves : List Nat} (inside : n < w.items.length)
    (turn : Stage.arrived.rank ≤ moves.count n) : (w.run p moves).isFinished n = true :=
  isFinished_of_count (List.getElem?_eq_getElem inside) (Nat.le_trans (Stage.rank_le _) turn)

theorem rank_le_count_turns {indices : List Nat} (member : n ∈ indices) :
    Stage.arrived.rank ≤ (turns indices).count n := by
  have copies : (List.replicate Stage.arrived.rank n).Sublist (turns indices) := by
    rw [turns, List.flatMap_def]
    exact List.sublist_flatten_of_mem (List.mem_map_of_mem member)
  have count := copies.count_le n
  rwa [List.count_replicate_self] at count

theorem complete_all_eq_run (p : Pipeline σ τ) (w : World σ τ) (indices : List Nat) :
    indices.foldl (complete p) w = w.run p (turns indices) := by
  induction indices generalizing w with
  | nil => rfl
  | cons n rest ih =>
    rw [turns, List.flatMap_cons, run_append, List.foldl_cons, ih, ← turns]
    rw [complete_eq_run fun i _ => i.stage.rank_le]

theorem inTurn_eq_run (p : Pipeline σ τ) (w : World σ τ) :
    w.inTurn p = w.run p (turns (List.range w.items.length)) := complete_all_eq_run p w _

theorem inTurn_ofRecords (p : Pipeline σ τ) (s : Shared σ τ) (records : List Record) :
    (ofRecords s records).inTurn p = (ofRecords s records).run p (turns (List.range records.length)) := by
  rw [inTurn_eq_run, ofRecords, List.length_map]

theorem mem_turns {indices : List Nat} {n : Nat} : n ∈ turns indices ↔ n ∈ indices := by
  simp [turns, List.mem_flatMap, Stage.rank]

theorem turns_inOrder (length : Nat) : InOrder (turns (List.range length)) := by
  apply InOrder.of_sorted
  · rw [turns, List.pairwise_flatMap]
    refine ⟨fun n _ => List.pairwise_replicate.2 (.inr (Nat.le_refl n)), ?_⟩
    refine List.pairwise_lt_range.imp ?_
    intro m n smaller x memberX y memberY
    rw [(List.mem_replicate.1 memberX).2, (List.mem_replicate.1 memberY).2]
    exact Nat.le_of_lt smaller
  · intro m member k smaller
    rw [mem_turns, List.mem_range] at member ⊢
    exact Nat.lt_trans smaller member

theorem inTurn_isDone (p : Pipeline σ τ) (w : World σ τ) : (w.inTurn p).isDone = true := by
  rw [inTurn_eq_run, isDone, List.all_eq_true]
  intro i member
  obtain ⟨n, found⟩ := List.mem_iff_getElem?.1 member
  have inside := (List.getElem?_eq_some_iff.1 found).1
  rw [run_length] at inside
  have ended := isFinished_of_turn (p := p) inside (rank_le_count_turns (List.mem_range.2 inside))
  rwa [isFinished_of_item found] at ended

end World

end Harvest.Pipeline
