import Harvest.Proofs.Pipeline.Course

/-!
What the counters of a run tell. Those of the outcomes balance at every moment. The counter of incomplete translations
is raised before the record is saved, so it counts the attempts to save such records and not the records themselves.
-/

namespace Harvest

open Store (Exchange)

namespace Store.Exchange

/-- Whether a call is to add a record without a complete translation. -/
def savesIncomplete : Exchange → Bool
  | append row _ => !row.record.isTranslated
  | find _ _ => false

/-- Whether a call failed to add a record without a complete translation. -/
def losesIncomplete : Exchange → Bool
  | append row (.error _) => !row.record.isTranslated
  | _ => false

end Store.Exchange

namespace Pipeline

variable {σ τ : Type} {p : Pipeline σ τ} {contents : σ → List StoredRecord}

namespace Outcome

def isIncomplete : Outcome → Bool
  | .ok (some r) => !r.isTranslated
  | _ => false

theorem length_eq (outcomes : List Outcome) :
    outcomes.length = outcomes.countP isKept + outcomes.countP isDropped + outcomes.countP isFailed := by
  induction outcomes with
  | nil => rfl
  | cons o rest ih =>
    rcases o with f | _ | r <;>
      simp only [List.length_cons, List.countP_cons, isKept, isDropped, isFailed, ih, Bool.false_eq_true,
        ↓reduceIte] <;>
      omega

theorem length_kept (outcomes : List Outcome) : (outcomes.filterMap kept?).length = outcomes.countP isKept := by
  rw [List.length_filterMap_eq_countP]
  refine List.countP_congr fun o _ => ?_
  rcases o with f | _ | r <;> simp [kept?, isKept]

theorem countP_kept (outcomes : List Outcome) :
    (outcomes.filterMap kept?).countP (fun r => !r.isTranslated) = outcomes.countP isIncomplete := by
  rw [List.countP_filterMap]
  refine List.countP_congr fun o _ => ?_
  rcases o with f | _ | r <;> simp [kept?, isIncomplete]

end Outcome

/-- For a fresh pipeline, after any steps in any order and whatever failed: the counters tell how many calls have
returned, and how many of them with a record, without one and with an error. While no call is running, as many records
were added as were counted. -/
theorem counters_balance (law : p.store.Lawful contents) (s : Shared σ τ) (fresh : s.counters = {})
    (records : List Record) (moves : List Nat) :
    let w := (World.ofRecords s records).run p moves
    let c := w.shared.counters
    c.processed = w.outcomes.length ∧ c.processed ≤ records.length ∧
    c.stored = w.outcomes.countP Outcome.isKept ∧
    c.duplicatesSkipped = w.outcomes.countP Outcome.isDropped ∧
    c.errors = w.outcomes.countP Outcome.isFailed ∧
    c.processed = c.stored + c.duplicatesSkipped + c.errors ∧
    (w.isAtRest = true →
      ∃ added, contents w.shared.store = contents s.store ++ added ∧ added.length = c.stored) := by
  intro w c
  have counted : Counted s.counters c w.outcomes := World.run_counted p s records moves
  obtain ⟨processed, stored, duplicates, errors⟩ := counted
  simp only [fresh, Nat.zero_add] at processed stored duplicates errors
  have returned : w.outcomes.length ≤ records.length :=
    calc w.outcomes.length
      _ ≤ w.items.length := List.length_filterMap_le _ _
      _ = records.length := by rw [World.run_length, World.ofRecords, List.length_map]
  refine ⟨processed, processed ▸ returned, stored, duplicates, errors, ?_, ?_⟩
  · rw [processed, stored, duplicates, errors]
    exact Outcome.length_eq w.outcomes
  · intro rest
    refine ⟨_, World.run_rows law _ moves, ?_⟩
    have perm := (World.run_returned p s records moves rest).length_eq
    rw [List.length_map, Outcome.length_kept] at perm
    exact perm.trans stored.symm

/-- One record cannot be looked up, one is in flight at the time, one is stored and one cannot be saved. -/
theorem counters_balance_with_faults :
    let p := trial ⟨[2], [1]⟩ true none
    let records : List Record :=
      [⟨"a", "", "u", none, none, none, []⟩, ⟨"b", "", "u", none, none, none, []⟩,
        ⟨"c", "", "v", none, none, none, []⟩, ⟨"d", "", "w", none, none, none, []⟩]
    let moves := [0, 1, 0, 0] ++ List.replicate 5 2 ++ List.replicate 5 3
    let w := (World.ofRecords trialStart records).run p moves
    let c := w.shared.counters
    trialStart.counters = {} ∧ w.isAtRest = true ∧ c.processed = w.outcomes.length ∧
      c.processed = c.stored + c.duplicatesSkipped + c.errors ∧ c = ⟨4, 1, 1, 0, 2⟩ ∧
      ∃ added, w.shared.store.inner = trialStart.store.inner ++ added ∧ added.length = c.stored := by
  intro p records moves w c
  have law := Store.Faults.lawful ⟨[2], [1]⟩ Store.Memory.lawful
  have rest : w.isAtRest = true := by decide +kernel
  have values : c = ⟨4, 1, 1, 0, 2⟩ := by decide +kernel
  obtain ⟨processed, _, _, _, _, balance, stored⟩ := counters_balance (p := p) law trialStart rfl records moves
  refine ⟨rfl, rest, ?_⟩
  simp only [c, w] at values ⊢
  exact ⟨processed, balance, values, stored rest⟩

def Item.isPending (i : Item) : Bool :=
  match i.stage with
  | .saving => !i.record.isTranslated
  | _ => false

theorem Item.isPending_of_isTranslating {i : Item} (asked : i.stage.isTranslating = true) : i.isPending = false := by
  obtain ⟨r, stage⟩ := i
  cases stage <;> first | rfl | cases asked

theorem countP_set_add {α : Type} (f : α → Bool) {items : List α} {n : Nat} {i : α} (found : items[n]? = some i)
    (i' : α) : (items.set n i').countP f + (f i).toNat = items.countP f + (f i').toNat := by
  obtain ⟨inside, rfl⟩ := List.getElem?_eq_some_iff.1 found
  rw [List.countP_set inside]
  cases counted : f items[n] with
  | false => cases f i' <;> rfl
  | true =>
    have positive : 0 < items.countP f := List.countP_pos_iff.2 ⟨_, List.getElem_mem inside, counted⟩
    cases f i' <;> simp <;> omega

/-- What a step of a pipeline that translates adds to the counter: a record that becomes ready to be saved without a
complete translation is counted, and is no longer pending when the call to save it is made. -/
theorem Effect.incomplete {plan : Plan} (planned : p.plan = some plan) {b b' : Books σ} {i i' : Item}
    {calls : List Exchange} (effect : Effect p b i b' i') (asks : Asks p b.store i calls i') :
    b'.counters.translationFailures + i.isPending.toNat =
      b.counters.translationFailures + calls.countP Exchange.savesIncomplete + i'.isPending.toNat := by
  have first (r : Record) : (⟨r, firstStage p.plan⟩ : Item).isPending = false :=
    Item.isPending_of_isTranslating (by rw [planned]; exact firstStage_isTranslating plan)
  cases asks with
  | @append r row same =>
    subst same
    -- Without the answer, the two stages leave a save as the only kind of step.
    generalize (p.store.append row b.store).1.map (fun _ => row) = answer at effect
    cases effect with
    | save =>
      cases translated : row.record.isTranslated <;> simp [Item.isPending, Exchange.savesIncomplete, translated]
    | work _ work => cases work
  | find =>
    cases effect with
    | look => rfl
    | work _ work => cases work
  | nothing quiet =>
    rw [List.countP_nil]
    cases effect with
    | reject | collide | claim | lookFailed | known | saveFailed | keep => rfl
    | enter | fresh =>
      rw [first]
      rfl
    | look | save => cases quiet
    | work _ work =>
      obtain ⟨before, after⟩ := work.isTranslating
      rw [Item.isPending_of_isTranslating before, Item.isPending_of_isTranslating after]
      rfl
    | @ready plan i r _ ready =>
      rw [Item.isPending_of_isTranslating ready.isTranslating]
      cases translated : r.isTranslated <;> simp [Item.isPending, translated, Counters.untranslated]
    | unplanned plain =>
      rw [plain] at planned
      cases planned

namespace World

/-- The counter is raised for each attempt to save a record without a complete translation, shortly before it. -/
theorem run_pending {plan : Plan} (planned : p.plan = some plan) (s : Shared σ τ) (records : List Record)
    (moves : List Nat) :
    ((ofRecords s records).run p moves).shared.counters.translationFailures =
      s.counters.translationFailures +
        ((ofRecords s records).history p moves).countP (fun call => call.2.savesIncomplete) +
        ((ofRecords s records).run p moves).items.countP Item.isPending := by
  refine run_traced (p := p) (fun history b items => b.counters.translationFailures =
    s.counters.translationFailures + history.countP (fun call => call.2.savesIncomplete) +
      items.countP Item.isPending) ?_ (ofRecords s records) ?_ moves
  · intro history b items n i calls b' i' count found _ effect asks _
    have now := effect.incomplete planned asks
    have pending := countP_set_add Item.isPending found i'
    have calls_count : (calls.map (n, ·)).countP (fun call => call.2.savesIncomplete) =
        calls.countP Exchange.savesIncomplete := by
      rw [List.countP_map]
      rfl
    rw [List.countP_append, calls_count]
    omega
  · have none_pending : (ofRecords s records).items.countP Item.isPending = 0 := by
      rw [List.countP_eq_zero]
      intro i member
      obtain ⟨r, _, rfl⟩ := List.mem_map.1 member
      exact Bool.false_ne_true
    rw [none_pending]
    rfl

theorem countP_pending_of_isAtRest {w : World σ τ} (rest : w.isAtRest = true) : w.items.countP Item.isPending = 0 := by
  rw [List.countP_eq_zero]
  rintro ⟨r, stage⟩ member
  rcases isAtRest_cases rest member with rfl | ⟨o, rfl⟩ <;> exact Bool.false_ne_true

end World

theorem countP_savesIncomplete (history : List (Nat × Exchange)) :
    history.countP (fun call => call.2.savesIncomplete) =
      ((rowsOf history).map StoredRecord.record).countP (fun r => !r.isTranslated) +
        history.countP (fun call => call.2.losesIncomplete) := by
  induction history with
  | nil => rfl
  | cons call rest ih =>
    rw [List.countP_cons, List.countP_cons, ih]
    obtain ⟨n, call⟩ := call
    cases call with
    | find url answer => simp [rowsOf, Exchange.row?, Exchange.savesIncomplete, Exchange.losesIncomplete]
    | append row answer =>
      rcases answer with f | _ <;> cases translated : row.record.isTranslated <;>
        simp [rowsOf, Exchange.row?, Exchange.savesIncomplete, Exchange.losesIncomplete, translated] <;> omega

theorem Course.countP_savesIncomplete {r : Record} {i : Item} {calls : List Exchange} (course : Course p r i calls) :
    calls.countP Exchange.savesIncomplete ≤ 1 := by
  obtain ⟨lookup, save, rfl, looked, _⟩ := course.calls_eq
  have unsaved : lookup.toList.countP Exchange.savesIncomplete = 0 := by
    rw [List.countP_eq_zero]
    intro call member
    obtain ⟨_, _, answer, rfl⟩ := looked call (Option.mem_toList.1 member)
    exact Bool.false_ne_true
  rw [List.countP_append, unsaved, Nat.zero_add]
  exact Nat.le_trans List.countP_le_length Option.length_toList_le

/-- What the counter of incomplete translations of a fresh pipeline tells while no call is running: how many attempts
were made to save a record without a complete translation, at most one by each call. It is the number of calls that
returned such a record just if none of the attempts failed; each that failed is counted beyond them. -/
theorem translationFailures_eq_attempts {plan : Plan} (planned : p.plan = some plan) (s : Shared σ τ)
    (fresh : s.counters = {}) (records : List Record) (moves : List Nat)
    (rest : ((World.ofRecords s records).run p moves).isAtRest = true) :
    let w := (World.ofRecords s records).run p moves
    let history := (World.ofRecords s records).history p moves
    let lost := history.countP fun call => call.2.losesIncomplete
    let c := w.shared.counters
    c.translationFailures = history.countP (fun call => call.2.savesIncomplete) ∧
    (∀ n r, records[n]? = some r → (callsOf history n).countP Exchange.savesIncomplete ≤ 1) ∧
    c.translationFailures = w.outcomes.countP Outcome.isIncomplete + lost ∧
    c.translationFailures ≤ c.stored + lost ∧
    ((∀ call ∈ history, call.2.losesIncomplete = false) ↔
      c.translationFailures = w.outcomes.countP Outcome.isIncomplete) := by
  intro w history lost c
  have attempts : c.translationFailures = history.countP (fun call => call.2.savesIncomplete) := by
    have pending := World.run_pending planned s records moves
    rwa [fresh, World.countP_pending_of_isAtRest rest, Nat.add_zero, Nat.zero_add] at pending
  have returned : ((rowsOf history).map StoredRecord.record).countP (fun r => !r.isTranslated) =
      w.outcomes.countP Outcome.isIncomplete := by
    rw [(World.run_returned p s records moves rest).countP_eq, Outcome.countP_kept]
  have split : c.translationFailures = w.outcomes.countP Outcome.isIncomplete + lost := by
    rw [attempts, countP_savesIncomplete, returned]
  have stored : w.outcomes.countP Outcome.isIncomplete ≤ c.stored := by
    have counted := (World.run_counted p s records moves).stored
    rw [fresh, Nat.zero_add] at counted
    rw [counted]
    refine List.countP_mono_left fun o _ incomplete => ?_
    rcases o with f | _ | r
    · cases incomplete
    · cases incomplete
    · rfl
  refine ⟨attempts, ?_, split, by omega, ?_⟩
  · intro n r given
    obtain ⟨i, found⟩ := World.run_present p s moves given
    obtain ⟨r', _, course⟩ := World.run_course found
    exact course.countP_savesIncomplete
  · have none_lost : (∀ call ∈ history, call.2.losesIncomplete = false) ↔ lost = 0 := by
      rw [List.countP_eq_zero]
      simp only [Bool.not_eq_true]
    rw [none_lost]
    omega

/-- Neither record is translated, the first one cannot be saved and the second one is stored: both are counted. -/
theorem translationFailures_eq_attempts_with_fault :
    let plan : Plan := ⟨"zh", 0, .separate, "|"⟩
    let p := { trial ⟨[1], []⟩ true (some plan) with translator := Translation.Rehearsal.failing.translator }
    let records : List Record := [⟨"a", "x", "u", none, none, none, []⟩, ⟨"b", "y", "v", none, none, none, []⟩]
    let moves := List.replicate 9 0 ++ List.replicate 9 1
    let w := (World.ofRecords trialStart records).run p moves
    let history := (World.ofRecords trialStart records).history p moves
    p.plan = some plan ∧ trialStart.counters = {} ∧ w.isAtRest = true ∧
      w.shared.counters.translationFailures =
        w.outcomes.countP Outcome.isIncomplete + history.countP (fun call => call.2.losesIncomplete) ∧
      w.shared.counters = ⟨2, 1, 0, 2, 1⟩ := by
  intro plan p records moves w history
  have rest : w.isAtRest = true := by decide +kernel
  have values : w.shared.counters = ⟨2, 1, 0, 2, 1⟩ := by decide +kernel
  obtain ⟨_, _, split, _⟩ := translationFailures_eq_attempts (p := p) rfl trialStart rfl records moves rest
  refine ⟨rfl, rfl, rest, ?_⟩
  simp only [w] at values ⊢
  exact ⟨split, values⟩

/-- A record that is neither translated nor saved is counted as one that was stored without a translation, although
none was stored. -/
theorem translationFailures_counts_unsaved :
    let p := { trial ⟨[1], []⟩ true (some ⟨"zh", 0, .separate, "|"⟩) with
      translator := Translation.Rehearsal.failing.translator }
    let records : List Record := [⟨"a", "b", "http://x", none, none, none, []⟩]
    let w := (World.ofRecords trialStart records).run p (List.replicate 9 0)
    p.plan.isSome = true ∧ trialStart.counters = {} ∧ w.isAtRest = true ∧
      w.outcomes.countP Outcome.isIncomplete = 0 ∧ w.shared.counters.stored = 0 ∧
      w.shared.counters.translationFailures = 1 := by
  decide +kernel

end Pipeline

end Harvest
