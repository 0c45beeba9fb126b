import Harvest.Proofs.Pipeline.Course

/-!
Dropped records. A record is dropped after its look-up, because its URL is stored, or at its first step, because another
record holds its URL; what comes of the holder then decides whether the URL is stored in the end.
-/

namespace Harvest.Pipeline

variable {σ τ : Type} {p : Pipeline σ τ} {contents : σ → List StoredRecord}

/-- A record that was let in is dropped only where its URL is stored. -/
def Item.Vouched (i : Item) (stored : List String) : Prop :=
  match i.stage with
  | .arrived => False
  | .looked (.ok (some _)) | .finished (.ok none) => i.record.url ∈ stored
  | _ => True

theorem Item.vouched_of_isTranslating {i : Item} (h : i.stage.isTranslating = true) (stored : List String) :
    i.Vouched stored := by
  obtain ⟨r, stage⟩ := i
  cases stage <;> first | exact True.intro | cases h

theorem Item.Vouched.mono {i : Item} {stored more : List String} (h : i.Vouched stored)
    (grown : ∀ url ∈ stored, url ∈ more) : i.Vouched more := by
  obtain ⟨r, stage⟩ := i
  cases stage with
  | arrived => exact h
  | looked answer =>
    rcases answer with f | _ | existing
    · exact True.intro
    · exact True.intro
    · exact grown _ h
  | finished o =>
    rcases o with f | _ | kept
    · exact True.intro
    · exact grown _ h
    · exact True.intro
  | looking | asking | asked | saving | saved => exact True.intro

theorem Effect.vouched (law : p.store.Lawful contents) {b b' : Books σ} {i i' : Item}
    (effect : Effect p b i b' i') (h : i.Vouched (Store.urls (contents b.store))) :
    i'.Vouched (Store.urls (contents b'.store)) := by
  cases effect with
  | reject | enter | collide | claim => exact False.elim h
  | @look r =>
    have agrees := looked_agrees law r b.store
    rw [law.find_keeps]
    rcases answer : (p.store.find r.url b.store).1 with f | _ | existing
    · exact True.intro
    · exact True.intro
    · rwa [answer] at agrees
  | known => exact h
  | fresh =>
    exact firstStage_elim (fun stage => (⟨_, stage⟩ : Item).Vouched _) True.intro
      (fun _ translating => Item.vouched_of_isTranslating translating _) p.plan
  | work _ work => exact Item.vouched_of_isTranslating work.isTranslating.2 _
  | @save r row =>
    cases answer : (p.store.append row b.store).1 <;> exact True.intro
  | lookFailed | ready | unplanned | saveFailed | keep => exact True.intro

/-- What comes of a record that held a URL: it leaves the URL stored, still holds it, or was failed by the store. -/
def HolderFate (contents : σ → List StoredRecord) (b : Books σ) (items : List Item) (m : Nat) (url : String) : Prop :=
  url ∈ Store.urls (contents b.store) ∨ (∃ i, items[m]? = some i ∧ i.claim? = some url) ∨
    ∃ f x, items[m]? = some ⟨x, .finished (.error (.store f))⟩

theorem HolderFate.keep (law : p.store.Lawful contents) (strict : p.dropDuplicates = true)
    {rows : List StoredRecord} {b b' : Books σ} {items : List Item} {m n : Nat} {i i' : Item} {url : String}
    (fate : HolderFate contents b items m url) (d : Deduplicated contents rows b items) (found : items[n]? = some i)
    (unfinished : i.outcome? = none) (effect : Effect p b i b' i') :
    HolderFate contents b' (items.set n i') m url := by
  rcases fate with stored | ⟨j, there, held⟩ | ⟨f, x, failed⟩
  · exact .inl (effect.urls_mono law stored)
  · by_cases same : n = m
    · subst same
      obtain rfl := Option.some.inj (there.symm.trans found)
      rcases effect.claims strict with ⟨_, still⟩ | ⟨_, _, idle, _⟩ | ⟨_, _, _, given⟩
      · exact .inr (.inl ⟨i', set_here found, still.trans held⟩)
      · cases idle.symm.trans held
      · rcases effect.released held given (d.agrees n j found) with stored | ⟨f, rfl⟩
        · exact .inl (effect.urls_mono law stored)
        · exact .inr (.inr ⟨f, j.record, set_here found⟩)
    · exact .inr (.inl ⟨j, set_there same there, held⟩)
  · have other : n ≠ m := by
      rintro rfl
      obtain rfl := Option.some.inj (found.symm.trans failed)
      cases unfinished
    exact .inr (.inr ⟨f, x, set_there other failed⟩)

namespace World

theorem run_vouched (law : p.store.Lawful contents) {w : World σ τ} {n : Nat} {i : Item}
    (found : w.items[n]? = some i) (vouched : i.Vouched (Store.urls (contents w.shared.store)))
    (moves : List Nat) :
    ∃ i, (w.run p moves).items[n]? = some i ∧ i.Vouched (Store.urls (contents (w.run p moves).shared.store)) := by
  refine run_keeps (fun b items => ∃ i, items[n]? = some i ∧ i.Vouched (Store.urls (contents b.store)))
    ?_ w ⟨i, found, vouched⟩
  rintro b items m j b' j' _ ⟨i, found, vouched⟩ there _ effect
  by_cases same : m = n
  · subst same
    obtain rfl := Option.some.inj (there.symm.trans found)
    exact ⟨j', set_here found, effect.vouched law vouched⟩
  · exact ⟨i, set_there same found, vouched.mono fun _ stored => effect.urls_mono law stored⟩

/-- A record that holds a URL goes on to hold it, unless it leaves the URL stored or the store fails it. -/
theorem run_holder (law : p.store.Lawful contents) (strict : p.dropDuplicates = true) {w : World σ τ}
    {rows : List StoredRecord} (d : Deduplicated contents rows w.shared.books w.items) {m : Nat} {url : String}
    (holds : w.Holds m url) (moves : List Nat) :
    HolderFate contents (w.run p moves).shared.books (w.run p moves).items m url := by
  refine (run_keeps (fun b items => Deduplicated contents rows b items ∧ HolderFate contents b items m url) ?_ w
    ⟨d, .inr (.inl holds)⟩).2
  rintro b items n i b' i' _ ⟨d, fate⟩ found unfinished effect
  exact ⟨d.keep law strict found unfinished effect, fate.keep law strict d found unfinished effect⟩

/-- A dropped record whose URL is not stored was dropped at its first step, while another record held the URL. -/
theorem run_dropped (law : p.store.Lawful contents) (strict : p.dropDuplicates = true) (s : Shared σ τ)
    (free : s.inFlight = []) {records : List Record} {moves : List Nat} {n : Nat} {r : Record}
    (given : records[n]? = some r)
    (dropped : ((ofRecords s records).run p moves).outcome? n = some (.ok none)) :
    r.url ∈ Store.urls (contents ((ofRecords s records).run p moves).shared.store) ∨
    ∃ before after m, moves = before ++ n :: after ∧ n ∉ before ∧ m ≠ n ∧
      ((ofRecords s records).run p before).Holds m r.url := by
  obtain ⟨x, ended⟩ := outcome?_eq_some.1 dropped
  obtain ⟨r', given', course⟩ := run_course ended
  obtain rfl := Option.some.inj (given.symm.trans given')
  obtain ⟨r', given', url⟩ := run_url ended
  obtain rfl := Option.some.inj (given.symm.trans given')
  have named : r.hasBlankUrl = false := by
    generalize callsOf ((ofRecords s records).history p moves) n = calls at course
    cases course with
    | translating _ asked => cases asked
    | inFlight named => exact named
    | known named => exact named
  have moved : n ∈ moves := by
    by_contra idle
    cases (run_arrived ended).2 idle
  obtain ⟨before, after, rfl, first⟩ := List.eq_append_cons_of_mem moved
  have arrived := run_untouched p s given first
  have exclusive := (run_deduplicated law strict s free records before).exclusive
  rw [run_append, run_cons] at ended ⊢
  by_cases taken : r.url ∈ ((ofRecords s records).run p before).shared.inFlight
  · obtain ⟨m, i, there, held⟩ := exclusive.mem_iff.1 taken
    refine .inr ⟨before, after, m, rfl, first, ?_, i, there, held⟩
    rintro rfl
    obtain rfl := Option.some.inj (there.symm.trans arrived)
    cases held
  · obtain ⟨_, items⟩ := move_free strict arrived named taken
    have looking : (((ofRecords s records).run p before).move p n).items[n]? = some ⟨r, .looking⟩ := by
      rw [items]
      exact set_here arrived
    obtain ⟨i, found, vouched⟩ := run_vouched law looking True.intro after
    obtain rfl := Option.some.inj (found.symm.trans ended)
    exact .inl (url ▸ vouched)

/-- At the end the URL of a dropped record is stored, or the store failed the record that held it at the drop. -/
theorem run_dropped_holder (law : p.store.Lawful contents) (strict : p.dropDuplicates = true) (s : Shared σ τ)
    (free : s.inFlight = []) {records : List Record} {moves : List Nat}
    (done : ((ofRecords s records).run p moves).isDone = true) {n : Nat} {r : Record}
    (given : records[n]? = some r)
    (dropped : ((ofRecords s records).run p moves).outcome? n = some (.ok none)) :
    r.url ∈ Store.urls (contents ((ofRecords s records).run p moves).shared.store) ∨
    ∃ before after m holder f, moves = before ++ n :: after ∧ n ∉ before ∧ m ≠ n ∧
      records[m]? = some holder ∧ holder.url = r.url ∧ ((ofRecords s records).run p before).Holds m r.url ∧
      ((ofRecords s records).run p moves).outcome? m = some (.error (.store f)) := by
  rcases run_dropped law strict s free given dropped with stored | ⟨before, after, m, order, first, other, held⟩
  · exact .inl stored
  have d := run_deduplicated law strict s free records before
  have fate := run_holder law strict d held (n :: after)
  rw [← run_append, ← order] at fate
  rcases fate with stored | ⟨i, found, holds⟩ | ⟨f, x, failed⟩
  · exact .inl stored
  · obtain ⟨_, _, rfl⟩ := finished_of_isDone done found
    cases holds
  · obtain ⟨i, found, claim⟩ := held
    obtain ⟨holder, given', url⟩ := run_url found
    have same : holder.url = r.url := url.symm.trans (Item.claim?_eq_some claim)
    have ended := outcome?_eq_some.2 ⟨x, failed⟩
    exact .inr ⟨before, after, m, holder, f, order, first, other, given', same, ⟨i, found, claim⟩, ended⟩

end World

/-- Whatever the order of the steps and whichever calls to the store fail: once all records have ended, those that
were dropped are counted. Their URLs are stored, unless a record was dropped at its first step while another one held
its URL, which the store then failed. -/
theorem dropped_stored_unless_holder_failed (law : p.store.Lawful contents) (strict : p.dropDuplicates = true)
    (s : Shared σ τ) (free : s.inFlight = []) (records : List Record) (moves : List Nat)
    (done : ((World.ofRecords s records).run p moves).isDone = true) :
    let start := World.ofRecords s records
    let w := start.run p moves
    w.shared.counters.duplicatesSkipped =
      s.counters.duplicatesSkipped + w.outcomes.countP Outcome.isDropped ∧
    ∀ n r, records[n]? = some r → w.outcome? n = some (.ok none) →
      r.url ∈ Store.urls (contents w.shared.store) ∨
      ∃ before after m holder f, moves = before ++ n :: after ∧ n ∉ before ∧ m ≠ n ∧
        records[m]? = some holder ∧ holder.url = r.url ∧ (start.run p before).Holds m r.url ∧
        w.outcome? m = some (.error (.store f)) := by
  intro start w
  refine ⟨(World.run_counted p s records moves).duplicatesSkipped, ?_⟩
  intro n r given dropped
  exact World.run_dropped_holder law strict s free done given dropped

/-- The first record of a URL cannot be saved after the second one was dropped; of another URL, the first one is stored
before the second one is dropped. -/
theorem dropped_stored_unless_holder_failed_mixed :
    let p := trial ⟨[1], []⟩ true none
    let records : List Record := [⟨"a", "", "u", none, none, none, []⟩, ⟨"b", "", "u", none, none, none, []⟩,
      ⟨"c", "", "v", none, none, none, []⟩, ⟨"d", "", "v", none, none, none, []⟩]
    let moves := [0, 1, 0, 0, 0, 0, 2, 2, 2, 2, 2, 3, 3, 3]
    let w := (World.ofRecords trialStart records).run p moves
    p.dropDuplicates = true ∧ trialStart.inFlight = [] ∧ w.isDone = true ∧
      w.shared.counters.duplicatesSkipped = 2 ∧ Store.urls w.shared.store.inner = ["v"] ∧
      ∀ n r, records[n]? = some r → w.outcome? n = some (.ok none) → r.url ∈ Store.urls w.shared.store.inner ∨
        ∃ m f, m ≠ n ∧ w.outcome? m = some (.error (.store f)) := by
  intro p records moves w
  have law := Store.Faults.lawful ⟨[1], []⟩ Store.Memory.lawful
  have done : w.isDone = true := by decide +kernel
  have here : (World.ofRecords trialStart records).run p moves = w := rfl
  obtain ⟨_, each⟩ := dropped_stored_unless_holder_failed (p := p) law rfl trialStart rfl records moves done
  rw [here] at each
  have skipped : w.shared.counters.duplicatesSkipped = 2 := by decide +kernel
  have stored : Store.urls w.shared.store.inner = ["v"] := by decide +kernel
  refine ⟨rfl, rfl, done, skipped, stored, ?_⟩
  intro n r given dropped
  rcases each n r given dropped with kept | ⟨_, _, m, _, f, _, _, other, _, _, _, failed⟩
  · exact .inl kept
  · exact .inr ⟨m, f, other, failed⟩

/-- While the first record is translated the second one is dropped, and then the first one cannot be saved: no record
with their URL is stored. -/
theorem dropped_not_stored :
    let p := trial ⟨[1], []⟩ true (some ⟨"zh", 0, .separate, "|"⟩)
    let records : List Record :=
      [⟨"a", "b", "http://x", none, none, none, []⟩, ⟨"c", "d", "http://x", none, none, none, []⟩]
    let w := (World.ofRecords trialStart records).run p [0, 0, 0, 0, 1, 0, 0, 0, 0, 0]
    p.dropDuplicates = true ∧ trialStart.inFlight = [] ∧ w.isDone = true ∧
      w.shared.counters.duplicatesSkipped = 1 ∧
      ¬∀ n r, records[n]? = some r → w.outcome? n = some (.ok none) →
        r.url ∈ Store.urls w.shared.store.inner := by
  intro p records w
  have done : w.isDone = true := by decide +kernel
  have skipped : w.shared.counters.duplicatesSkipped = 1 := by decide +kernel
  refine ⟨rfl, rfl, done, skipped, ?_⟩
  intro all
  have absent : "http://x" ∉ Store.urls w.shared.store.inner := by decide +kernel
  have ended : (w.outcome? 1).map Outcome.isDropped = some true := by decide +kernel
  obtain ⟨o, outcome, drop⟩ := Option.map_eq_some_iff.1 ended
  rcases o with f | _ | kept
  · cases drop
  · exact absent (all 1 _ rfl outcome)
  · cases drop

end Harvest.Pipeline
