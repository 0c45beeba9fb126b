import Harvest.Proofs.Pipeline.Bounded

/-!
The mark of a run. Every record that a run asks its store to add bears the task id of the run, so that the state of the
store afterwards comes from the one before by look-ups and by additions of such records.
-/

namespace Harvest.Pipeline

variable {σ τ : Type} {p : Pipeline σ τ}

/-- Whether a record has been let in and is not at its end. -/
def Stage.isAdmitted : Stage → Bool
  | .asking _ | .asked _ _ | .saving | .saved _ => true
  | _ => false

/-- Whether a record bears the mark of a run, once it has been let in. -/
def Item.Marked (taskId : String) (i : Item) : Prop := i.stage.isAdmitted = true → i.record.taskId = some taskId

theorem Work.taskId {t : Translation.Translator τ} {plan : Plan} {i i' : Item} (work : Work t plan i i') :
    i'.record.taskId = i.record.taskId ∧ i.stage.isAdmitted = true := by
  cases work <;> exact ⟨rfl, rfl⟩

theorem Ready.taskId {plan : Plan} {i : Item} {r : Record} (ready : Ready plan i r) :
    r.taskId = i.record.taskId ∧ i.stage.isAdmitted = true := by
  cases ready <;> exact ⟨rfl, rfl⟩

/-- A record is marked as it is let in, and translations leave the mark alone. -/
theorem Effect.marked {b b' : Books σ} {i i' : Item} (effect : Effect p b i b' i') (marked : i.Marked p.taskId) :
    i'.Marked p.taskId := by
  cases effect with
  | enter | fresh => exact fun _ => rfl
  | work planned work =>
    obtain ⟨same, admitted⟩ := work.taskId
    exact fun _ => same.trans (marked admitted)
  | ready planned ready =>
    obtain ⟨same, admitted⟩ := ready.taskId
    exact fun _ => same.trans (marked admitted)
  | @unplanned i plain asked =>
    obtain ⟨r, stage⟩ := i
    cases stage with
    | asking | asked => exact fun _ => marked rfl
    | _ => cases asked
  | save => exact fun _ => marked rfl
  | _ => exact nofun

/-- Which states a store may have after look-ups and additions of records with a mark. -/
structure KeptByMarked (store : RecordStore σ) (taskId : String) (good : σ → Prop) : Prop where
  find : ∀ url s, good s → good (store.find url s).2
  append : ∀ (row : StoredRecord) s, row.record.taskId = some taskId → good s → good (store.append row s).2

variable {good : σ → Prop}

theorem Effect.keeps {b b' : Books σ} {i i' : Item} (kept : KeptByMarked p.store p.taskId good)
    (effect : Effect p b i b' i') (marked : i.Marked p.taskId) (before : good b.store) : good b'.store := by
  cases effect with
  | look => exact kept.find _ _ before
  | save same => exact kept.append _ _ ((congrArg Record.taskId same).trans (marked rfl)) before
  | _ => exact before

theorem World.run_marked (kept : KeptByMarked p.store p.taskId good) {s : Shared σ τ} (before : good s.store)
    (records : List Record) (moves : List Nat) : good ((ofRecords s records).run p moves).shared.store := by
  refine (run_keeps (p := p) (fun b items => good b.store ∧ ∀ i ∈ items, i.Marked p.taskId) ?_ (ofRecords s records)
    ⟨before, ?_⟩).1
  · rintro b items n i b' i' _ ⟨now, marked⟩ found _ effect
    have here := marked i (List.mem_of_getElem? found)
    refine ⟨effect.keeps kept here now, fun j member => ?_⟩
    rcases List.mem_or_eq_of_mem_set member with old | rfl
    · exact marked j old
    · exact effect.marked here
  · intro i arrived
    obtain ⟨r, _, rfl⟩ := List.mem_map.1 arrived
    exact nofun

/-- What look-ups and additions of records with the mark of a run keep, the run keeps. -/
theorem runAll_marked (kept : KeptByMarked p.store p.taskId good) {s : Shared σ τ} (before : good s.store)
    (concurrency : Nat) (records : List Record) : good (runAll p concurrency s records).2.1.store := by
  obtain ⟨entries, moves, _, _, _, books⟩ := runAll_spec p concurrency s records
  have same := congrArg Books.store books
  change (runAll p concurrency s records).2.1.store = _ at same
  rw [same]
  exact World.run_marked (p := { p with report := failureNotes }) (s := s.note entries) kept before records moves

end Harvest.Pipeline
