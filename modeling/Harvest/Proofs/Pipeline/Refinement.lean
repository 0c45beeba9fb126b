import Harvest.Proofs.Pipeline.Course

/-!
Translation decides nothing. Step by step, a pipeline that translates does what the pipeline does that only stores, but
for its calls to the translator, during which the other one stands still.
-/

namespace Harvest

open Store (Exchange SamePlain Faulty)

/-- The call without the translations in it. -/
def Store.Exchange.plain : Exchange → Exchange
  | .find url answer => .find url (answer.map (Option.map StoredRecord.plain))
  | .append row answer => .append row.plain answer

/-- The pipeline that only stores. -/
def Pipeline.storing {σ τ : Type} (p : Pipeline σ τ) : Pipeline σ τ := { p with plan := none }

namespace Pipeline

variable {σ τ : Type} {p : Pipeline σ τ} {same : σ → σ → Prop}

def Counters.plain (c : Counters) : Counters := { c with translationFailures := 0 }

def Outcome.plain : Outcome → Outcome := Except.map (Option.map Record.plain)

def plainCalls (history : List (Nat × Exchange)) : List (Nat × Exchange) := history.map (Prod.map id Exchange.plain)

theorem plainCalls_append (before after : List (Nat × Exchange)) :
    plainCalls (before ++ after) = plainCalls before ++ plainCalls after := List.map_append

/-- States with the same books but for what concerns translations. -/
structure Shared.Mirrored (same : σ → σ → Prop) (s t : Shared σ τ) : Prop where
  store : same s.store t.store
  claims : s.inFlight = t.inFlight
  counters : s.counters.plain = t.counters.plain
  minted : s.minted = t.minted

/-- Records that have come equally far; where the first one is under translation, the second is about to be saved. -/
inductive Item.Mirrored : Item → Item → Prop
  | arrived {r : Record} : Mirrored ⟨r, .arrived⟩ ⟨r, .arrived⟩
  | looking {r : Record} : Mirrored ⟨r, .looking⟩ ⟨r, .looking⟩
  | looked {r : Record} {answer answer' : Except Harvest.Failure (Option StoredRecord)}
      (answers : answer.map (Option.map StoredRecord.plain) = answer'.map (Option.map StoredRecord.plain)) :
      Mirrored ⟨r, .looked answer⟩ ⟨r, .looked answer'⟩
  | translating {i : Item} {x : Record} (asked : i.stage.isTranslating = true) (alike : i.record.plain = x.plain) :
      Mirrored i ⟨x, .saving⟩
  | saving {r x : Record} (alike : r.plain = x.plain) : Mirrored ⟨r, .saving⟩ ⟨x, .saving⟩
  | saved {r x : Record} {answer answer' : Except Harvest.Failure StoredRecord} (alike : r.plain = x.plain)
      (answers : answer.map StoredRecord.plain = answer'.map StoredRecord.plain) :
      Mirrored ⟨r, .saved answer⟩ ⟨x, .saved answer'⟩
  | finished {r x : Record} {o o' : Outcome} (alike : o.plain = o'.plain) :
      Mirrored ⟨r, .finished o⟩ ⟨x, .finished o'⟩

theorem Item.Mirrored.outcome?_eq {i j : Item} (m : Item.Mirrored i j) :
    i.outcome?.map Outcome.plain = j.outcome?.map Outcome.plain := by
  cases m with
  | translating asked =>
    rw [Item.outcome?_of_isTranslating asked]
    rfl
  | finished alike => exact congrArg some alike
  | _ => rfl

theorem Counters.plain_finish (c : Counters) (o : Outcome) : (c.finish o).plain = c.plain.finish o.plain := by
  rcases o with f | _ | r <;> rfl

structure Step.Mirrored (same : σ → σ → Prop) (a b : Step σ τ) : Prop where
  shared : Shared.Mirrored same a.shared b.shared
  item : Item.Mirrored a.item b.item

namespace Shared.Mirrored

variable {s t : Shared σ τ} {r x : Record} {o o' : Outcome}

theorem note (m : Shared.Mirrored same s t) (entries entries' : List Log.Entry) :
    Shared.Mirrored same (s.note entries) (t.note entries') := ⟨m.store, m.claims, m.counters, m.minted⟩

theorem duplicate (m : Shared.Mirrored same s t) :
    Shared.Mirrored same { s with counters := s.counters.duplicate } { t with counters := t.counters.duplicate } where
  store := m.store
  claims := m.claims
  counters := congrArg Counters.duplicate m.counters
  minted := m.minted

theorem release (m : Shared.Mirrored same s t) (url : String) :
    Shared.Mirrored same (s.release url) (t.release url) where
  store := m.store
  claims := congrArg (List.filter _) m.claims
  counters := m.counters
  minted := m.minted

theorem endItem (m : Shared.Mirrored same s t) (alike : o.plain = o'.plain) :
    Step.Mirrored same (endItem p s r o) (endItem p.storing t x o') where
  shared := by
    have counters : (s.counters.finish o).plain = (t.counters.finish o').plain := by
      rw [Counters.plain_finish, Counters.plain_finish, m.counters, alike]
    exact ⟨m.store, m.claims, counters, m.minted⟩
  item := .finished alike

theorem closeItem (m : Shared.Mirrored same s t) (records : r.plain = x.plain) (alike : o.plain = o'.plain) :
    Step.Mirrored same (closeItem p s r o) (closeItem p.storing t x o') := by
  have url := Record.url_eq_of_plain records
  cases strict : p.dropDuplicates with
  | false => simpa [Pipeline.closeItem, storing, strict] using m.endItem (p := p) alike
  | true =>
    rw [Pipeline.closeItem, Pipeline.closeItem, url]
    simpa [storing, strict] using (m.release x.url).endItem (p := p) alike

theorem accept (m : Shared.Mirrored same s t) : Step.Mirrored same (accept p s r) (accept p.storing t r) where
  shared := m
  item := by
    refine firstStage_elim (fun stage => Item.Mirrored ⟨r.stamp p.taskId, stage⟩ ⟨r.stamp p.taskId, .saving⟩)
      (.saving rfl) ?_ p.plan
    exact fun stage asked => .translating asked rfl

theorem arrive (m : Shared.Mirrored same s t) : Step.Mirrored same (arrive p s r) (arrive p.storing t r) := by
  have strict : p.storing.dropDuplicates = p.dropDuplicates := rfl
  unfold Pipeline.arrive
  rw [m.claims, strict]
  split
  · exact m.endItem rfl
  · split
    · exact m.accept
    · split
      · exact (m.note _ _).duplicate.endItem rfl
      · exact ⟨⟨m.store, rfl, m.counters, m.minted⟩, .looking⟩

theorem look (indifferent : p.store.Indifferent same) (m : Shared.Mirrored same s t) :
    Step.Mirrored same (look p s r) (look p.storing t r) := by
  obtain ⟨answers, store⟩ := indifferent.find r.url m.store
  exact ⟨⟨store, m.claims, m.counters, m.minted⟩, .looked answers⟩

theorem judge (m : Shared.Mirrored same s t) {answer answer' : Except Harvest.Failure (Option StoredRecord)}
    (answers : answer.map (Option.map StoredRecord.plain) = answer'.map (Option.map StoredRecord.plain)) :
    Step.Mirrored same (judge p s r answer) (judge p.storing t r answer') := by
  rcases answer with f | _ | row <;> rcases answer' with f' | _ | row' <;> try cases answers
  · exact m.closeItem rfl rfl
  · exact m.accept
  · exact (m.note _ _).duplicate.closeItem rfl rfl

theorem newRow (m : Shared.Mirrored same s t) (alike : r.plain = x.plain) :
    (newRow p s r).plain = (newRow p.storing t x).plain := by
  simp only [Pipeline.newRow, StoredRecord.plain, alike, m.minted]
  rfl

theorem save (indifferent : p.store.Indifferent same) (m : Shared.Mirrored same s t) (alike : r.plain = x.plain) :
    Step.Mirrored same (save p s r) (save p.storing t x) := by
  have rows := m.newRow (p := p) alike
  obtain ⟨answers, store⟩ := indifferent.append rows m.store
  refine ⟨⟨store, m.claims, m.counters, congrArg (· + 1) m.minted⟩, .saved alike ?_⟩
  show ((p.store.append (p.newRow s r) s.store).1.map fun _ => p.newRow s r).map StoredRecord.plain =
    ((p.store.append (p.storing.newRow t x) t.store).1.map fun _ => p.storing.newRow t x).map StoredRecord.plain
  rw [answers]
  cases (p.store.append (p.storing.newRow t x) t.store).1 with
  | error f => rfl
  | ok => exact congrArg Except.ok rows

theorem conclude (m : Shared.Mirrored same s t) (alike : r.plain = x.plain)
    {answer answer' : Except Harvest.Failure StoredRecord}
    (answers : answer.map StoredRecord.plain = answer'.map StoredRecord.plain) :
    Step.Mirrored same (conclude p s r answer) (conclude p.storing t x answer') := by
  rcases answer with f | row <;> rcases answer' with f' | row' <;> try cases answers
  · exact m.closeItem alike rfl
  · exact (m.note _ _).closeItem alike (congrArg (fun r => Except.ok (some r)) alike)

end Shared.Mirrored

/-- Only a save gives out an identity. -/
theorem step_minted (p : Pipeline σ τ) (s : Shared σ τ) {i : Item} (asked : i.stage.isTranslating = true) :
    (step p s i).shared.minted = s.minted := by
  have saving (s : Shared σ τ) (r : Record) : (toSave s r).shared.minted = s.minted := by
    unfold toSave
    split <;> rfl
  have field (s : Shared σ τ) (r : Record) (plan : Plan) (value : Option String) (part : Part) :
      (setField s r plan value part).shared.minted = s.minted := by
    cases part with
    | title => exact saving s _
    | both | content => rfl
  obtain ⟨r, stage⟩ := i
  cases stage with
  | asking part =>
    cases planned : p.plan with
    | none => simp only [step, planned]
    | some plan =>
      simp only [step, planned, ask]
      split
      · exact field s r plan _ part
      · rfl
  | asked part answer =>
    cases planned : p.plan with
    | none => simp only [step, planned]
    | some plan =>
      simp only [step, planned]
      cases part with
      | content | title => exact field _ r plan _ _
      | both =>
        rcases answer with f | _ | text
        · exact saving _ r
        · exact saving _ r
        · simp only [hear, hearBoth]
          split
          · exact saving _ _
          · rfl
  | _ => cases asked

/-- The work on a translation leaves the books as they are but for the counter of incomplete translations. -/
theorem Effect.translating {b b' : Books σ} {i i' : Item} (effect : Effect p b i b' i')
    (asked : i.stage.isTranslating = true) :
    b'.store = b.store ∧ b'.claims = b.claims ∧ b'.counters.plain = b.counters.plain ∧
      ∀ x, i.record.plain = x.plain → Item.Mirrored i' ⟨x, .saving⟩ := by
  cases effect with
  | work planned work =>
    have after := work.isTranslating.2
    exact ⟨rfl, rfl, rfl, fun x alike => .translating after (work.plain.trans alike)⟩
  | @ready plan i r planned ready =>
    refine ⟨rfl, rfl, ?_, fun x alike => .saving (ready.plain.trans alike)⟩
    dsimp only
    split <;> rfl
  | unplanned => exact ⟨rfl, rfl, rfl, fun x alike => .saving alike⟩
  | _ => cases asked

/-- While a record is translated, the pipeline that only stores stands still. -/
theorem Shared.Mirrored.translate {s t : Shared σ τ} (m : Shared.Mirrored same s t) {i : Item} {x : Record}
    (asked : i.stage.isTranslating = true) (alike : i.record.plain = x.plain) :
    Shared.Mirrored same (step p s i).shared t ∧ Item.Mirrored (step p s i).item ⟨x, .saving⟩ := by
  have effect := step_effect p s i (Item.outcome?_of_isTranslating asked)
  have minted := step_minted p s asked
  obtain ⟨store, claims, counters, item⟩ := effect.translating asked
  have store : (step p s i).shared.store = s.store := store
  refine ⟨⟨?_, claims.trans m.claims, counters.trans m.counters, minted.trans m.minted⟩, item x alike⟩
  rw [store]
  exact m.store

/-- A step is mirrored by a step with the same calls, or it makes no call and nothing mirrors it. -/
theorem Shared.Mirrored.step (indifferent : p.store.Indifferent same) {s t : Shared σ τ}
    (m : Shared.Mirrored same s t) {i j : Item} (items : Item.Mirrored i j) (unfinished : i.outcome? = none) :
    (Shared.Mirrored same (step p s i).shared t ∧ Item.Mirrored (step p s i).item j ∧ exchanges p s i = []) ∨
    Step.Mirrored same (step p s i) (step p.storing t j) ∧
      (exchanges p s i).map Exchange.plain = (exchanges p.storing t j).map Exchange.plain := by
  have quiet {i j : Item} (first : i.outcome? = none) (second : j.outcome? = none) (still : i.stage.isCalling = false)
      (still' : j.stage.isCalling = false) :
      (exchanges p s i).map Exchange.plain = (exchanges p.storing t j).map Exchange.plain := by
    rw [exchanges_of_quiet p s first still, exchanges_of_quiet p.storing t second still']
  cases items with
  | arrived => exact .inr ⟨m.arrive, quiet rfl rfl rfl rfl⟩
  | @looking r =>
    have answers := (indifferent.find r.url m.store).1
    exact .inr ⟨m.look indifferent, congrArg (fun answer => [Exchange.find r.url answer]) answers⟩
  | looked answers => exact .inr ⟨m.judge answers, quiet rfl rfl rfl rfl⟩
  | translating asked alike =>
    obtain ⟨shared, item⟩ := m.translate (p := p) asked alike
    exact .inl ⟨shared, item, exchanges_of_quiet p s unfinished (Stage.quiet_of_isTranslating asked)⟩
  | @saving r x alike =>
    have rows := m.newRow (p := p) alike
    have answers := (indifferent.append rows m.store).1
    exact .inr ⟨m.save indifferent alike, congrArg₂ (fun row answer => [Exchange.append row answer]) rows answers⟩
  | saved alike answers => exact .inr ⟨m.conclude alike answers, quiet rfl rfl rfl rfl⟩
  | finished => cases unfinished

structure World.Mirrored (same : σ → σ → Prop) (w v : World σ τ) : Prop where
  shared : Shared.Mirrored same w.shared v.shared
  length : w.items.length = v.items.length
  items : ∀ (n : Nat) (i j : Item), w.items[n]? = some i → v.items[n]? = some j → Item.Mirrored i j

namespace World.Mirrored

variable {w v : World σ τ} {n : Nat}

theorem start {s t : Shared σ τ} (shared : Shared.Mirrored same s t) (records : List Record) :
    World.Mirrored same (ofRecords s records) (ofRecords t records) where
  shared := shared
  length := rfl
  items n i j here there := by
    obtain rfl := Option.some.inj (here.symm.trans there)
    obtain ⟨r, _, rfl⟩ := getElem?_arrived here
    exact .arrived

theorem partner (m : World.Mirrored same w v) {i : Item} (found : w.items[n]? = some i) :
    ∃ j, v.items[n]? = some j ∧ Item.Mirrored i j := by
  have inside := (List.getElem?_eq_some_iff.1 found).1
  rw [m.length] at inside
  have there := List.getElem?_eq_getElem inside
  exact ⟨_, there, m.items n i _ found there⟩

theorem set {i' j' : Item} (m : World.Mirrored same w v) {s t : Shared σ τ} (shared : Shared.Mirrored same s t)
    (item : Item.Mirrored i' j') : World.Mirrored same ⟨s, w.items.set n i'⟩ ⟨t, v.items.set n j'⟩ where
  shared := shared
  length := by rw [List.length_set, List.length_set, m.length]
  items k a b here there := by
    rcases set_cases here with ⟨rfl, rfl⟩ | ⟨other, here⟩
    · rcases set_cases there with ⟨_, rfl⟩ | ⟨other, _⟩
      · exact item
      · exact absurd rfl other
    · rw [List.getElem?_set_ne (Ne.symm other)] at there
      exact m.items k a b here there

theorem ended (m : World.Mirrored same w v) (all : ∀ i, w.items[n]? = some i → i.outcome? ≠ none) {j : Item}
    (there : v.items[n]? = some j) : j.outcome? ≠ none := by
  have inside := (List.getElem?_eq_some_iff.1 there).1
  rw [← m.length] at inside
  have here := List.getElem?_eq_getElem inside
  have alike := (m.items n _ j here there).outcome?_eq
  intro unfinished
  rw [unfinished, Option.map_none, Option.map_eq_none_iff] at alike
  exact all _ here alike

theorem stay {i' j : Item} (m : World.Mirrored same w v) (there : v.items[n]? = some j) {s : Shared σ τ}
    (shared : Shared.Mirrored same s v.shared) (item : Item.Mirrored i' j) :
    World.Mirrored same ⟨s, w.items.set n i'⟩ v := by
  have unchanged : v.items.set n j = v.items := by
    obtain ⟨inside, rfl⟩ := List.getElem?_eq_some_iff.1 there
    exact List.set_getElem_self inside
  have both := m.set (n := n) shared item
  rwa [unchanged] at both

theorem outcome? (m : World.Mirrored same w v) (n : Nat) :
    (w.outcome? n).map Outcome.plain = (v.outcome? n).map Outcome.plain := by
  cases found : w.items[n]? with
  | none =>
    have outside := List.getElem?_eq_none_iff.1 found
    rw [m.length] at outside
    rw [World.outcome?, World.outcome?, found, List.getElem?_eq_none outside]
  | some i =>
    obtain ⟨j, there, items⟩ := m.partner found
    rw [outcome?_of_item found, outcome?_of_item there]
    exact items.outcome?_eq

/-- A move is mirrored by one move of the same record or by none. -/
theorem move (indifferent : p.store.Indifferent same) (m : World.Mirrored same w v) (n : Nat) :
    ∃ k ≤ 1, World.Mirrored same (w.move p n) (v.run p.storing (List.replicate k n)) ∧
      plainCalls (w.exchanges p n) = plainCalls (v.history p.storing (List.replicate k n)) := by
  rcases w.active_or_still n with ⟨i, found, unfinished⟩ | still
  · obtain ⟨j, there, items⟩ := m.partner found
    rw [move_eq found]
    simp only [exchanges, found]
    rcases m.shared.step indifferent items unfinished with ⟨shared, item, silent⟩ | ⟨⟨shared, item⟩, calls⟩
    · refine ⟨0, Nat.zero_le 1, m.stay there shared item, ?_⟩
      rw [silent]
      rfl
    · refine ⟨1, Nat.le_refl 1, ?_, ?_⟩
      · rw [List.replicate_one, run_cons, move_eq there]
        exact m.set shared item
      · have labelled := congrArg (List.map (n, ·)) calls
        simpa [plainCalls, history, exchanges, there, Function.comp_def] using labelled
  · refine ⟨0, Nat.zero_le 1, ?_, ?_⟩
    · rwa [move_eq_self still]
    · rw [exchanges_finished still]
      rfl

theorem moves (indifferent : p.store.Indifferent same) (m : World.Mirrored same w v) (n k : Nat) :
    ∃ l ≤ k, World.Mirrored same (w.run p (List.replicate k n)) (v.run p.storing (List.replicate l n)) ∧
      plainCalls (w.history p (List.replicate k n)) = plainCalls (v.history p.storing (List.replicate l n)) := by
  induction k generalizing w v with
  | zero => exact ⟨0, Nat.le_refl 0, m, rfl⟩
  | succ k ih =>
    obtain ⟨first, one, moved, calls⟩ := m.move indifferent n
    obtain ⟨rest, less, run, more⟩ := ih moved
    refine ⟨first + rest, by omega, ?_, ?_⟩
    · rw [List.replicate_succ, run_cons, List.replicate_add, run_append]
      exact run
    · rw [List.replicate_succ, history, plainCalls_append, calls, more, List.replicate_add, history_append,
        plainCalls_append]

theorem turn (indifferent : p.store.Indifferent same) (m : World.Mirrored same w v) (n : Nat) :
    let moves := List.replicate Stage.arrived.rank n
    World.Mirrored same (w.run p moves) (v.run p.storing moves) ∧
      plainCalls (w.history p moves) = plainCalls (v.history p.storing moves) := by
  intro moves
  obtain ⟨k, less, mirrored, calls⟩ := m.moves indifferent n Stage.arrived.rank
  have finished : ∀ i, (w.run p moves).items[n]? = some i → i.outcome? ≠ none := by
    intro i found
    have inside := (List.getElem?_eq_some_iff.1 found).1
    rw [run_length] at inside
    have last : (w.run p moves).isFinished n = true :=
      isFinished_of_turn inside (Nat.le_of_eq List.count_replicate_self.symm)
    rw [isFinished_of_item found] at last
    exact Option.isSome_iff_ne_none.1 last
  have ended : ∀ j, (v.run p.storing (List.replicate k n)).items[n]? = some j → j.outcome? ≠ none :=
    fun j there => mirrored.ended finished there
  -- The record may take fewer steps in the second pipeline; it ends with them, and the others of its turn are idle.
  have whole : moves = List.replicate k n ++ List.replicate (Stage.arrived.rank - k) n := by
    rw [← List.replicate_add, Nat.add_sub_cancel' less]
  have run : v.run p.storing moves = v.run p.storing (List.replicate k n) := by
    rw [whole, run_append, run_still (move_eq_self ended)]
  have history : v.history p.storing moves = v.history p.storing (List.replicate k n) := by
    rw [whole, history_append, history_still ended, List.append_nil]
  rw [run, history]
  exact ⟨mirrored, calls⟩

theorem turns (indifferent : p.store.Indifferent same) (m : World.Mirrored same w v) (indices : List Nat) :
    World.Mirrored same (w.run p (World.turns indices)) (v.run p.storing (World.turns indices)) ∧
      plainCalls (w.history p (World.turns indices)) = plainCalls (v.history p.storing (World.turns indices)) := by
  induction indices generalizing w v with
  | nil => exact ⟨m, rfl⟩
  | cons n rest ih =>
    obtain ⟨now, calls⟩ := m.turn indifferent n
    obtain ⟨later, more⟩ := ih now
    rw [World.turns, List.flatMap_cons, run_append, run_append, history_append, history_append, plainCalls_append,
      plainCalls_append, calls, ← World.turns, more]
    exact ⟨later, rfl⟩

end World.Mirrored

theorem Course.failure {r x : Record} {o : Outcome} {calls : List Exchange}
    (course : Course p r ⟨x, .finished o⟩ calls) (f : Translation.Failure) : o ≠ .error (.translation f) := by
  rintro rfl
  cases course with
  | translating _ asked => cases asked

/-- For records that go through one at a time: whatever calls to the store fail, by their numbers, and whatever the
translator answers, a pipeline comes to the same outcomes as the pipeline that only stores, leaves the same rows and the
same counters after each record, and makes the same calls to the store in the same order, but for the translations in
the records and for the counter of incomplete ones. No record fails because of its translation. -/
theorem translating_refines_storing {inner : RecordStore σ} {contents : σ → List StoredRecord} {sound : σ → Prop}
    (law : inner.Lawful contents) (reliable : inner.Reliable sound) (faults : Store.Faults)
    {p : Pipeline (Faulty σ) τ} (faulty : p.store = faults.store inner) (s : Shared (Faulty σ) τ)
    (holds : sound s.store.inner) (records : List Record) (k : Nat) :
    let start := World.ofRecords s records
    let moves := World.turns (List.range k)
    let w := (List.range k).foldl (World.complete p) start
    let v := (List.range k).foldl (World.complete p.storing) start
    w = start.run p moves ∧ v = start.run p.storing moves ∧
    (∀ n, n < k → n < records.length → (w.outcome? n).isSome = true) ∧
    (∀ n, (w.outcome? n).map Outcome.plain = (v.outcome? n).map Outcome.plain) ∧
    (∀ n f, w.outcome? n ≠ some (.error (.translation f))) ∧
    (contents w.shared.store.inner).map StoredRecord.plain = (contents v.shared.store.inner).map StoredRecord.plain ∧
    plainCalls (start.history p moves) = plainCalls (start.history p.storing moves) ∧
    w.shared.counters.plain = v.shared.counters.plain := by
  intro start moves w v
  have translating : w = start.run p moves := World.complete_all_eq_run p start _
  have storing : v = start.run p.storing moves := World.complete_all_eq_run p.storing start _
  have indifferent : p.store.Indifferent (Faulty.Same (SamePlain contents sound)) := by
    rw [faulty]
    exact faults.indifferent (Store.indifferent_of_reliable law reliable)
  have begun : Shared.Mirrored (Faulty.Same (SamePlain contents sound)) s s :=
    ⟨⟨rfl, rfl, holds, holds, rfl⟩, rfl, rfl, rfl⟩
  obtain ⟨mirrored, calls⟩ := (World.Mirrored.start begun records).turns indifferent (List.range k)
  rw [← translating, ← storing] at mirrored
  refine ⟨translating, storing, ?_, mirrored.outcome?, ?_, mirrored.shared.store.inner.rows, calls,
    mirrored.shared.counters⟩
  · intro n below given
    have inside : n < start.items.length := by simpa [start, World.ofRecords] using given
    have ended := World.isFinished_of_turn (p := p) inside (World.rank_le_count_turns (List.mem_range.2 below))
    obtain ⟨i, found⟩ := World.run_present p s moves (List.getElem?_eq_getElem given)
    rw [World.isFinished_of_item found] at ended
    rwa [translating, World.outcome?_of_item found]
  · intro n f failed
    rw [translating, World.outcome?_eq_some] at failed
    obtain ⟨x, found⟩ := failed
    obtain ⟨r, _, course⟩ := World.run_course found
    exact course.failure f rfl

/-- One record cannot be looked up, one is stored with the translation of its fields, one is a duplicate of it, one is
not translated and cannot be saved, and one has no URL. -/
theorem translating_refines_storing_with_faults :
    let faults : Store.Faults := ⟨[2], [1]⟩
    let translator := (Translation.Rehearsal.script [.ok (some "B|Y"), .ok none]).translator
    let p := { trial faults true (some ⟨"zh", 0, .packed, "|"⟩) with translator := translator }
    let records : List Record :=
      [⟨"a", "x", "u", none, none, none, []⟩, ⟨"b", "y", "v", none, none, none, []⟩,
        ⟨"c", "z", "v", none, none, none, []⟩, ⟨"d", "", "w", none, none, none, []⟩,
        ⟨"e", "", "", none, none, none, []⟩]
    let start := World.ofRecords trialStart records
    let moves := World.turns (List.range 5)
    p.store = faults.store Store.Memory.store ∧
      (∀ n, ((start.run p moves).outcome? n).map Outcome.plain =
        ((start.run p.storing moves).outcome? n).map Outcome.plain) ∧
      plainCalls (start.history p moves) = plainCalls (start.history p.storing moves) ∧
      (start.run p moves).outcomes.map Outcome.isKept = [false, true, false, false, false] ∧
      ((start.run p moves).outcomes.filterMap Outcome.kept?).map Record.titleZh = [some "B"] ∧
      ((start.run p.storing moves).outcomes.filterMap Outcome.kept?).map Record.titleZh = [none] := by
  intro faults translator p records start moves
  obtain ⟨translating, storing, _, outcomes, _, _, calls, _⟩ :=
    translating_refines_storing (p := p) Store.Memory.lawful Store.Memory.reliable faults rfl trialStart True.intro
      records 5
  rw [translating, storing] at outcomes
  exact ⟨rfl, outcomes, calls, by decide +kernel, by decide +kernel, by decide +kernel⟩

end Pipeline

end Harvest
