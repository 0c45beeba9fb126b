import Harvest.Proofs.Pipeline.Deduplication

/-!
Claims are given back. A claim lasts exactly as long as its record is under way, so a pipeline at rest has no
URL in flight, and the record that comes next is dropped just where its URL is stored.
-/

namespace Harvest.Pipeline

variable {σ τ : Type} {p : Pipeline σ τ} {contents : σ → List StoredRecord}

def Stage.isUnderWay : Stage → Bool
  | .arrived | .finished _ => false
  | _ => true

namespace World

def Holds (w : World σ τ) (n : Nat) (url : String) : Prop := ∃ i, w.items[n]? = some i ∧ i.claim? = some url

def isAtRest (w : World σ τ) : Bool := w.items.all fun i => !i.stage.isUnderWay

theorem not_holds_of_isAtRest {w : World σ τ} (rest : w.isAtRest = true) (n : Nat) (url : String) :
    ¬w.Holds n url := by
  rintro ⟨⟨r, stage⟩, found, held⟩
  have still := List.all_eq_true.1 rest _ (List.mem_of_getElem? found)
  cases stage with
  | arrived | finished => cases held
  | _ => cases still

theorem move_taken (strict : p.dropDuplicates = true) {w : World σ τ} {n : Nat} {r : Record}
    (found : w.items[n]? = some ⟨r, .arrived⟩) (named : r.hasBlankUrl = false)
    (taken : r.url ∈ w.shared.inFlight) :
    (w.move p n).shared.inFlight = w.shared.inFlight ∧
      (w.move p n).items = w.items.set n ⟨r, .finished (.ok none)⟩ := by
  rw [move_eq found]
  simp [step, arrive, named, strict, taken, endItem, Shared.note]

theorem move_free (strict : p.dropDuplicates = true) {w : World σ τ} {n : Nat} {r : Record}
    (found : w.items[n]? = some ⟨r, .arrived⟩) (named : r.hasBlankUrl = false)
    (free : r.url ∉ w.shared.inFlight) :
    (w.move p n).shared.store = w.shared.store ∧ (w.move p n).items = w.items.set n ⟨r, .looking⟩ := by
  rw [move_eq found]
  simp [step, arrive, named, strict, free]

/-- While a record that holds a URL waits, the others neither change it nor store its URL. -/
theorem run_held (law : p.store.Lawful contents) (strict : p.dropDuplicates = true) {w : World σ τ}
    (exclusive : Exclusive w.shared.books w.items) {n : Nat} {i : Item} (found : w.items[n]? = some i)
    {url : String} (held : i.claim? = some url) {moves : List Nat} (others : n ∉ moves) :
    (w.run p moves).items[n]? = some i ∧
      (url ∈ Store.urls (contents (w.run p moves).shared.store) ↔
        url ∈ Store.urls (contents w.shared.store)) := by
  refine (run_keeps (p := p) (fun b items =>
    Exclusive b items ∧ items[n]? = some i ∧
      (url ∈ Store.urls (contents b.store) ↔ url ∈ Store.urls (contents w.shared.store)))
    ?_ w ⟨exclusive, found, Iff.rfl⟩).2
  · rintro b items m j b' j' moved ⟨exclusive, found, same⟩ there _ effect
    have other : m ≠ n := fun h => others (h ▸ moved)
    refine ⟨exclusive.keep strict there effect, set_there other found, ?_⟩
    rw [← same]
    rcases effect.appends law with ⟨same, _⟩ | ⟨row, saving, alike, more, _⟩
    · rw [same]
    · have holder := Item.claim?_of_saving saving alike
      have apart : url ≠ row.url := fun h => other (exclusive.unique there found holder (h ▸ held))
      simp only [more, Store.urls_append, List.mem_append]
      simp [Store.urls, apart]

end World

/-- The fate of a record after its look-up: it is dropped in the end just where its URL was stored. -/
def Item.Decided (i : Item) (stored : Prop) : Prop :=
  match i.stage with
  | .looked (.ok (some _)) => stored
  | .looked (.ok none) | .asking _ | .asked _ _ | .saving | .saved _ => ¬stored
  | .finished o => o = .ok none ↔ stored
  | _ => False

theorem Item.decided_of_isTranslating {i : Item} (h : i.stage.isTranslating = true) (stored : Prop) :
    i.Decided stored ↔ ¬stored := by
  obtain ⟨r, stage⟩ := i
  cases stage <;> first | exact Iff.rfl | cases h

theorem Effect.decided {b b' : Books σ} {i i' : Item} (effect : Effect p b i b' i') {stored : Prop}
    (h : i.Decided stored) : i'.Decided stored := by
  cases effect with
  | reject | enter | collide | claim | look | lookFailed => exact False.elim h
  | known => exact iff_of_true rfl h
  | @fresh r =>
    exact firstStage_elim (fun stage => (⟨_, stage⟩ : Item).Decided stored) h
      (fun _ translating => (Item.decided_of_isTranslating translating stored).2 h) p.plan
  | work planned work =>
    obtain ⟨before, after⟩ := work.isTranslating
    exact (Item.decided_of_isTranslating after stored).2 ((Item.decided_of_isTranslating before stored).1 h)
  | ready planned ready => exact (Item.decided_of_isTranslating ready.isTranslating stored).1 h
  | unplanned plain asked => exact (Item.decided_of_isTranslating asked stored).1 h
  | save => exact h
  | saveFailed => exact iff_of_false (fun same => by cases same) h
  | keep => exact iff_of_false (fun same => by cases same) h

theorem World.run_decided {w : World σ τ} {n : Nat} {i : Item} (found : w.items[n]? = some i) {stored : Prop}
    (decided : i.Decided stored) (moves : List Nat) :
    ∃ i, (w.run p moves).items[n]? = some i ∧ i.Decided stored := by
  refine run_keeps (fun _ items => ∃ i, items[n]? = some i ∧ i.Decided stored) ?_ w ⟨i, found, decided⟩
  rintro b items m j b' j' _ ⟨i, found, decided⟩ there _ effect
  by_cases same : m = n
  · subst same
    obtain rfl := Option.some.inj (there.symm.trans found)
    exact ⟨j', set_here found, effect.decided decided⟩
  · exact ⟨i, set_there same found, decided⟩

theorem looked_decided (law : p.store.Lawful contents) {r : Record} {s : σ} {found : Option StoredRecord}
    (answer : (p.store.find r.url s).1 = .ok found) :
    (⟨r, .looked (.ok found)⟩ : Item).Decided (r.url ∈ Store.urls (contents s)) := by
  have isSome := Store.findByUrl_isSome (contents s) r.url
  rw [← law.find_ok answer] at isSome
  rcases found with _ | existing
  · simpa [Item.Decided] using isSome
  · simpa [Item.Decided] using isSome

/-- A record that arrives at a pipeline at rest, and whose look-up succeeds, ends, and it is dropped just where
its URL was stored when it came, whatever other records do meanwhile. -/
theorem World.next_decided (law : p.store.Lawful contents) (strict : p.dropDuplicates = true) {w : World σ τ}
    (exclusive : Exclusive w.shared.books w.items) {n : Nat} {r : Record}
    (arrived : w.items[n]? = some ⟨r, .arrived⟩) (named : r.hasBlankUrl = false)
    (free : r.url ∉ w.shared.inFlight) {before : List Nat} (others : n ∉ before)
    {found : Option StoredRecord}
    (answer : (p.store.find r.url (w.run p (n :: before)).shared.store).1 = .ok found) (after : List Nat) :
    (9 ≤ after.count n → (w.run p (n :: before ++ n :: after)).isFinished n = true) ∧
    ∀ o, (w.run p (n :: before ++ n :: after)).outcome? n = some o →
      (o = .ok none ↔ r.url ∈ Store.urls (contents w.shared.store)) := by
  obtain ⟨store, items⟩ := move_free strict arrived named free
  have looking : (w.move p n).items[n]? = some ⟨r, .looking⟩ := by
    rw [items]
    exact set_here arrived
  have claimed : Exclusive (w.move p n).shared.books (w.move p n).items := run_exclusive strict exclusive [n]
  obtain ⟨waiting, stored⟩ := run_held law strict claimed looking rfl others
  rw [store] at stored
  have looked : ((w.run p (n :: before)).move p n).items[n]? = some ⟨r, .looked (.ok found)⟩ := by
    rw [run_cons] at answer ⊢
    rw [move_eq waiting]
    simp only [step, look, answer]
    exact set_here waiting
  have decided : (⟨r, .looked (.ok found)⟩ : Item).Decided (r.url ∈ Store.urls (contents w.shared.store)) := by
    rw [← stored]
    exact looked_decided law answer
  rw [run_append, run_cons]
  refine ⟨fun enough => isFinished_of_count looked enough, ?_⟩
  intro o ended
  obtain ⟨i, here, decided⟩ := run_decided (p := p) looked decided after
  obtain ⟨x, there⟩ := outcome?_eq_some.1 ended
  obtain rfl := Option.some.inj (here.symm.trans there)
  exact decided

/-- In every state of a pipeline that drops duplicates, the URLs in flight are those that records hold, each is
held by one record, and a record that is dropped because of a claim does not touch it. At rest no URL is in flight,
and the next record with a URL is dropped just where it is stored, if its look-up succeeds. -/
theorem claims_exclusive_and_released (strict : p.dropDuplicates = true) (s : Shared σ τ)
    (free : s.inFlight = []) (records : List Record) (moves : List Nat) :
    let w := (World.ofRecords s records).run p moves
    w.shared.inFlight.Nodup ∧
    (∀ url, url ∈ w.shared.inFlight ↔ ∃ n, w.Holds n url) ∧
    (∀ url m n, w.Holds m url → w.Holds n url → m = n) ∧
    (∀ n r, w.items[n]? = some ⟨r, .arrived⟩ → r.hasBlankUrl = false → r.url ∈ w.shared.inFlight →
      (w.move p n).outcome? n = some (.ok none) ∧ (w.move p n).shared.inFlight = w.shared.inFlight ∧
      ∀ m url, (w.move p n).Holds m url ↔ w.Holds m url) ∧
    (w.isAtRest = true → w.shared.inFlight = [] ∧
      ∀ contents, p.store.Lawful contents → ∀ n r, w.items[n]? = some ⟨r, .arrived⟩ →
        r.hasBlankUrl = false → ∀ before after found, n ∉ before →
        (p.store.find r.url (w.run p (n :: before)).shared.store).1 = .ok found →
        (9 ≤ after.count n → (w.run p (n :: before ++ n :: after)).isFinished n = true) ∧
        ∀ o, (w.run p (n :: before ++ n :: after)).outcome? n = some o →
          (o = .ok none ↔ r.url ∈ Store.urls (contents w.shared.store))) := by
  intro w
  have exclusive : Exclusive w.shared.books w.items :=
    World.run_exclusive strict (Exclusive.start (b := s.books) free records) moves
  have held (url : String) : url ∈ w.shared.inFlight ↔ ∃ n, w.Holds n url := exclusive.mem_iff
  refine ⟨exclusive.nodup, held, ?_, ?_, ?_⟩
  · rintro url m n ⟨i, first, heldFirst⟩ ⟨j, second, heldSecond⟩
    exact exclusive.unique first second heldFirst heldSecond
  · intro n r arrived named taken
    obtain ⟨claims, items⟩ := World.move_taken strict arrived named taken
    have dropped : (w.move p n).items[n]? = some ⟨r, .finished (.ok none)⟩ := by
      rw [items]
      exact set_here arrived
    refine ⟨World.outcome?_eq_some.2 ⟨r, dropped⟩, claims, ?_⟩
    intro m url
    by_cases same : n = m
    · subst same
      simp [World.Holds, dropped, arrived, Item.claim?]
    · rw [World.Holds, World.move_other same, World.Holds]
  · intro rest
    have empty : w.shared.inFlight = [] := by
      rw [List.eq_nil_iff_forall_not_mem]
      intro url claimed
      obtain ⟨n, holds⟩ := (held url).1 claimed
      exact World.not_holds_of_isAtRest rest n url holds
    refine ⟨empty, ?_⟩
    intro contents law n r arrived named before after found others answer
    have free : r.url ∉ w.shared.inFlight := by simp [empty]
    exact World.next_decided law strict exclusive arrived named free others answer after

/-- The first record cannot be saved; the second one with its URL is not dropped, since nothing is in flight. -/
theorem claims_released_after_fault :
    let p := trial ⟨[1], []⟩ true none
    let records : List Record := [⟨"a", "", "u", none, none, none, []⟩, ⟨"b", "", "u", none, none, none, []⟩]
    let w := (World.ofRecords trialStart records).run p [0, 0, 0, 0, 0]
    let next := w.run p [1, 1, 1, 1, 1, 1, 1, 1, 1, 1, 1]
    p.dropDuplicates = true ∧ trialStart.inFlight = [] ∧ w.isAtRest = true ∧ w.shared.inFlight = [] ∧
      next.isFinished 1 = true ∧ ∀ o, next.outcome? 1 = some o → o ≠ .ok none := by
  intro p records w next
  have law := Store.Faults.lawful ⟨[1], []⟩ Store.Memory.lawful
  have rest : w.isAtRest = true := by decide +kernel
  obtain ⟨_, _, _, _, released⟩ :=
    claims_exclusive_and_released (p := p) rfl trialStart rfl records [0, 0, 0, 0, 0]
  obtain ⟨empty, decided⟩ := released rest
  have answer : (p.store.find "u" (w.run p [1]).shared.store).1 = .ok none := by
    have nothing :
        (p.store.find "u" (w.run p [1]).shared.store).1.toOption.map Option.isSome = some false := by
      decide +kernel
    generalize (p.store.find "u" (w.run p [1]).shared.store).1 = answer at nothing ⊢
    rcases answer with f | _ | existing
    · cases nothing
    · rfl
    · cases nothing
  obtain ⟨ends, fate⟩ := decided _ law 1 records[1] rfl (by decide +kernel) [] (List.replicate 9 1) none
    List.not_mem_nil answer
  refine ⟨rfl, rfl, rest, empty, ends (by simp), ?_⟩
  intro o ended dropped
  exact absurd ((fate o ended).1 dropped) (by decide +kernel)

end Harvest.Pipeline
