import Harvest.Proofs.Pipeline.Saves
import Harvest.Proofs.Store.Watched

/-!
Histories. The history of a run lists what its records asked of the store, in the order of the calls and with their
answers; the state of the store after the run is what these calls made of it.
-/

namespace Harvest

open Store (Exchange Watched)

variable {σ τ : Type}

/-- The pipeline over its store, watched. -/
def Pipeline.watched (p : Pipeline σ τ) : Pipeline (Watched σ) τ where
  store := Store.watched p.store
  translator := p.translator
  taskId := p.taskId
  dropDuplicates := p.dropDuplicates
  plan := p.plan
  identity := p.identity
  report := p.report

namespace Pipeline

def Shared.watched (s : Shared σ τ) : Shared (Watched σ) τ where
  store := ⟨s.store, []⟩
  session := s.session
  inFlight := s.inFlight
  counters := s.counters
  log := s.log
  minted := s.minted

/-- What a record asks of the store in its next step. -/
def exchanges (p : Pipeline σ τ) (s : Shared σ τ) (i : Item) : List Exchange :=
  (step p.watched s.watched i).shared.store.exchanges

def newRow (p : Pipeline σ τ) (s : Shared σ τ) (r : Record) : StoredRecord :=
  ⟨(p.identity s.minted).id, r, (p.identity s.minted).createdAt⟩

/-- The calls of a step, with what they make of the record. -/
inductive Asks (p : Pipeline σ τ) (store : σ) : Item → List Exchange → Item → Prop
  | nothing {i i' : Item} (quiet : i.stage.isCalling = false) : Asks p store i [] i'
  | find {r : Record} :
      Asks p store ⟨r, .looking⟩ [.find r.url (p.store.find r.url store).1]
        ⟨r, .looked (p.store.find r.url store).1⟩
  | append {r : Record} {row : StoredRecord} (same : row.record = r) :
      Asks p store ⟨r, .saving⟩ [.append row (p.store.append row store).1]
        ⟨r, .saved ((p.store.append row store).1.map fun _ => row)⟩

theorem exchanges_of_quiet (p : Pipeline σ τ) (s : Shared σ τ) {i : Item} (unfinished : i.outcome? = none)
    (quiet : i.stage.isCalling = false) : exchanges p s i = [] := by
  have same : (step p.watched s.watched i).shared.store = s.watched.store :=
    (step_effect p.watched s.watched i unfinished).store_of_quiet quiet
  rw [exchanges, same]
  rfl

theorem step_asks (p : Pipeline σ τ) (s : Shared σ τ) (i : Item) (unfinished : i.outcome? = none) :
    Asks p s.store i (exchanges p s i) (step p s i).item := by
  by_cases quiet : i.stage.isCalling = false
  · rw [exchanges_of_quiet p s unfinished quiet]
    exact .nothing quiet
  · obtain ⟨r, stage⟩ := i
    cases stage with
    | looking => exact .find
    | saving =>
      have same : (newRow p s r).record = r := rfl
      exact .append same
    | _ => exact absurd rfl quiet

theorem step_replayed (p : Pipeline σ τ) (s : Shared σ τ) (i : Item) (unfinished : i.outcome? = none) :
    (step p s i).shared.store = (exchanges p s i).foldl (Exchange.replay p.store) s.store := by
  by_cases quiet : i.stage.isCalling = false
  · rw [exchanges_of_quiet p s unfinished quiet]
    exact (step_effect p s i unfinished).store_of_quiet quiet
  · obtain ⟨r, stage⟩ := i
    cases stage with
    | looking | saving => rfl
    | _ => exact absurd rfl quiet

namespace World

/-- What the record with index `n` asks of the store in its next step. -/
def exchanges (p : Pipeline σ τ) (w : World σ τ) (n : Nat) : List (Nat × Exchange) :=
  match w.items[n]? with
  | none => []
  | some i => (Pipeline.exchanges p w.shared i).map (n, ·)

/-- All that the records of a run ask of the store, in order, each call with the index of its record. -/
def history (p : Pipeline σ τ) (w : World σ τ) : List Nat → List (Nat × Exchange)
  | [] => []
  | n :: moves => w.exchanges p n ++ (w.move p n).history p moves

end World

/-- The entries of a log that belong to the index `n`. -/
def ownOf {α : Type} (log : List (Nat × α)) (n : Nat) : List α :=
  log.filterMap fun entry => if entry.1 = n then some entry.2 else none

def callsOf (history : List (Nat × Exchange)) (n : Nat) : List Exchange :=
  history.filterMap fun call => if call.1 = n then some call.2 else none

def rowsOf (history : List (Nat × Exchange)) : List StoredRecord := history.filterMap fun call => call.2.row?

theorem ownOf_append {α : Type} (before after : List (Nat × α)) (n : Nat) :
    ownOf (before ++ after) n = ownOf before n ++ ownOf after n := List.filterMap_append

theorem ownOf_here {α : Type} (entries : List α) (n : Nat) : ownOf (entries.map (n, ·)) n = entries := by
  have own : (fun entry : Nat × α => if entry.1 = n then some entry.2 else none) ∘ (n, ·) = some := by
    funext entry
    exact if_pos rfl
  rw [ownOf, List.filterMap_map, own, List.filterMap_some]

theorem ownOf_there {α : Type} (entries : List α) {m n : Nat} (other : m ≠ n) :
    ownOf (entries.map (m, ·)) n = [] := by
  rw [ownOf, List.filterMap_map, List.filterMap_eq_nil_iff]
  exact fun _ _ => if_neg other

theorem callsOf_append (before after : List (Nat × Exchange)) (n : Nat) :
    callsOf (before ++ after) n = callsOf before n ++ callsOf after n := ownOf_append before after n

theorem callsOf_here (calls : List Exchange) (n : Nat) : callsOf (calls.map (n, ·)) n = calls := ownOf_here calls n

theorem callsOf_there (calls : List Exchange) {m n : Nat} (other : m ≠ n) : callsOf (calls.map (m, ·)) n = [] :=
  ownOf_there calls other

theorem rowsOf_append (before after : List (Nat × Exchange)) :
    rowsOf (before ++ after) = rowsOf before ++ rowsOf after := List.filterMap_append

theorem rowsOf_calls (calls : List Exchange) (n : Nat) : rowsOf (calls.map (n, ·)) = calls.filterMap Exchange.row? := by
  rw [rowsOf, List.filterMap_map]
  rfl

namespace Asks

variable {p : Pipeline σ τ} {store : σ} {i i' : Item} {calls : List Exchange}

theorem rows {contents : σ → List StoredRecord} (law : p.store.Lawful contents) (asks : Asks p store i calls i') :
    contents (calls.foldl (Exchange.replay p.store) store) = contents store ++ calls.filterMap Exchange.row? := by
  cases asks with
  | nothing quiet => exact (List.append_nil _).symm
  | find => exact (law.find_keeps _ _).trans (List.append_nil _).symm
  | @append r row same =>
    simp only [List.foldl_cons, List.foldl_nil, Exchange.replay]
    cases answer : (p.store.append row store).1 with
    | error f => exact (law.append_error answer).trans (List.append_nil _).symm
    | ok => exact law.append_ok answer

theorem stored? {b b' : Books σ} (asks : Asks p store i calls i') (effect : Effect p b i b' i') :
    i'.stored?.toList = i.stored?.toList ++ (calls.filterMap Exchange.row?).map StoredRecord.record := by
  cases asks with
  | nothing quiet =>
    rw [effect.stored?_of_quiet quiet]
    exact (List.append_nil _).symm
  | find => rfl
  | @append r row same =>
    cases answer : (p.store.append row store).1 with
    | error f => rfl
    | ok => simp [Item.stored?, Except.map, Exchange.row?, same]

end Asks

namespace World

variable {p : Pipeline σ τ}

theorem callsOf_exchanges_other (w : World σ τ) {m n : Nat} (other : m ≠ n) : callsOf (w.exchanges p m) n = [] := by
  unfold exchanges
  split
  · rfl
  · exact callsOf_there _ other

theorem exchanges_finished {w : World σ τ} {n : Nat} (still : ∀ i, w.items[n]? = some i → i.outcome? ≠ none) :
    w.exchanges p n = [] := by
  unfold exchanges
  split
  · rfl
  · rename_i i found
    obtain ⟨r, stage⟩ := i
    cases stage with
    | finished o => rfl
    | _ => exact absurd rfl (still _ found)

theorem history_append (p : Pipeline σ τ) (w : World σ τ) (before after : List Nat) :
    w.history p (before ++ after) = w.history p before ++ (w.run p before).history p after := by
  induction before generalizing w with
  | nil => rfl
  | cons n before ih => rw [List.cons_append, history, ih, history, run_cons, List.append_assoc]

theorem callsOf_finished {w : World σ τ} {n : Nat} {i : Item} (found : w.items[n]? = some i)
    (ended : i.outcome? ≠ none) (moves : List Nat) : callsOf (w.history p moves) n = [] := by
  have still : ∀ j, w.items[n]? = some j → j.outcome? ≠ none := by
    intro j here
    rwa [← Option.some.inj (found.symm.trans here)]
  induction moves generalizing w with
  | nil => rfl
  | cons m moves ih =>
    rw [history, callsOf_append]
    by_cases same : m = n
    · subst same
      rw [exchanges_finished still, move_eq_self still]
      exact ih found still
    · rw [callsOf_exchanges_other w same, List.nil_append]
      have there := (move_other (p := p) same).trans found
      refine ih there fun j here => ?_
      rwa [← Option.some.inj (there.symm.trans here)]

theorem history_still {w : World σ τ} {n : Nat} (still : ∀ i, w.items[n]? = some i → i.outcome? ≠ none) (k : Nat) :
    w.history p (List.replicate k n) = [] := by
  induction k with
  | zero => rfl
  | succ k ih => rw [List.replicate_succ, history, exchanges_finished still, move_eq_self still, ih, List.nil_append]

/-- What holds before a run with an empty history, and is kept by every kind of step together with its calls, holds
of the run with its history. -/
theorem run_traced (Inv : List (Nat × Exchange) → Books σ → List Item → Prop)
    (keep : ∀ {history b items n i calls b' i'}, Inv history b items → items[n]? = some i → i.outcome? = none →
      Effect p b i b' i' → Asks p b.store i calls i' → b'.store = calls.foldl (Exchange.replay p.store) b.store →
      Inv (history ++ calls.map (n, ·)) b' (items.set n i'))
    (w : World σ τ) (holds : Inv [] w.shared.books w.items) (moves : List Nat) :
    Inv (w.history p moves) (w.run p moves).shared.books (w.run p moves).items := by
  suffices all : ∀ past, Inv past w.shared.books w.items →
      Inv (past ++ w.history p moves) (w.run p moves).shared.books (w.run p moves).items from all [] holds
  clear holds
  induction moves generalizing w with
  | nil =>
    intro past holds
    rwa [history, List.append_nil]
  | cons n moves ih =>
    intro past holds
    rw [history, run_cons, ← List.append_assoc]
    apply ih
    rcases w.active_or_still n with ⟨i, found, unfinished⟩ | still
    · have kept := keep holds found unfinished (step_effect p w.shared i unfinished)
        (step_asks p w.shared i unfinished) (step_replayed p w.shared i unfinished)
      simpa only [exchanges, found, move_eq found] using kept
    · rwa [exchanges_finished still, move_eq_self still, List.append_nil]

/-- The store after a run is what the calls of the history made of it. -/
theorem run_replayed (p : Pipeline σ τ) (w : World σ τ) (moves : List Nat) :
    (w.run p moves).shared.store =
      ((w.history p moves).map Prod.snd).foldl (Exchange.replay p.store) w.shared.store := by
  refine run_traced (p := p) (fun history b _ =>
    b.store = (history.map Prod.snd).foldl (Exchange.replay p.store) w.shared.store) ?_ w rfl moves
  intro history b items n i calls b' i' same _ _ _ _ replayed
  rw [replayed, List.map_append, List.map_map, List.foldl_append, ← same]
  exact congrArg (List.foldl _ b.store) (List.map_id' calls).symm

theorem run_rows {contents : σ → List StoredRecord} (law : p.store.Lawful contents) (w : World σ τ)
    (moves : List Nat) :
    contents (w.run p moves).shared.store = contents w.shared.store ++ rowsOf (w.history p moves) := by
  refine run_traced (p := p) (fun history b _ => contents b.store = contents w.shared.store ++ rowsOf history) ?_ w
    (List.append_nil _).symm moves
  intro history b items n i calls b' i' same _ _ _ asks replayed
  rw [replayed, asks.rows law, same, rowsOf_append, rowsOf_calls, List.append_assoc]

/-- The rows that a run adds are the records that count as stored. -/
theorem run_saved (p : Pipeline σ τ) (s : Shared σ τ) (records : List Record) (moves : List Nat) :
    ((rowsOf ((ofRecords s records).history p moves)).map StoredRecord.record).Perm
      (((ofRecords s records).run p moves).items.filterMap Item.stored?) := by
  refine run_traced (p := p) (fun history _ items =>
    ((rowsOf history).map StoredRecord.record).Perm (items.filterMap Item.stored?)) ?_ (ofRecords s records) ?_ moves
  · intro history b items n i calls b' i' perm found _ effect asks _
    obtain ⟨rest, before, after⟩ := filterMap_set_perm Item.stored? found
    have all := after i'
    rw [asks.stored? effect] at all
    rw [rowsOf_append, rowsOf_calls, List.map_append]
    calc (rowsOf history).map StoredRecord.record ++ (calls.filterMap Exchange.row?).map StoredRecord.record
      _ |>.Perm (i.stored?.toList ++ rest ++ (calls.filterMap Exchange.row?).map StoredRecord.record) :=
        (perm.trans before).append_right _
      _ |>.Perm (i.stored?.toList ++ (calls.filterMap Exchange.row?).map StoredRecord.record ++ rest) := by
        rw [List.append_assoc, List.append_assoc]
        exact List.perm_append_comm.append_left _
      _ |>.Perm ((items.set n i').filterMap Item.stored?) := all.symm
  · rw [ofRecords, filterMap_arrived fun _ => rfl]
    exact .refl _

end World

end Pipeline

end Harvest
