import Harvest.Proofs.Pipeline.Dropped
import Harvest.Proofs.Store.Extension

/-!
Runs after runs. New pipelines that drop duplicates share nothing but the store. Whatever goes wrong in a run, another
one of the same records in which no call to the store fails stores what is missing, and nothing is left to the next.
-/

namespace Harvest.Pipeline

open Store (Exchange)

variable {σ τ : Type} {p : Pipeline σ τ} {contents : σ → List StoredRecord} {rows : List StoredRecord}
  {s : Shared σ τ} {records : List Record} {moves : List Nat}

/-- A new pipeline that drops duplicates, over a store that holds `rows`. -/
structure Opens (p : Pipeline σ τ) (contents : σ → List StoredRecord) (rows : List StoredRecord)
    (s : Shared σ τ) : Prop where
  law : p.store.Lawful contents
  strict : p.dropDuplicates = true
  free : s.inFlight = []
  counters : s.counters = {}
  holds : contents s.store = rows

theorem opens_over (law : p.store.Lawful contents) (strict : p.dropDuplicates = true) (free : s.inFlight = [])
    (counters : s.counters = {}) (store : σ) : Opens p contents (contents store) { s with store := store } :=
  ⟨law, strict, free, counters, rfl⟩

/-- All records end, and no call to the store fails. -/
structure Completes (p : Pipeline σ τ) (s : Shared σ τ) (records : List Record) (moves : List Nat) : Prop where
  done : ((World.ofRecords s records).run p moves).isDone = true
  unfailed : ∀ call ∈ (World.ofRecords s records).history p moves, call.2.isFailed = false

theorem Course.finished {r x : Record} {o : Outcome} {calls : List Exchange}
    (course : Course p r ⟨x, .finished o⟩ calls) :
    r.hasBlankUrl = true ∧ o = .error (.noUrl r.title) ∨
    r.hasBlankUrl = false ∧ (o = .ok none ∨ (∃ y, o = .ok (some y) ∧ y.url = r.url) ∨
      ∃ call ∈ calls, call.isFailed = true) := by
  cases course with
  | translating _ asked => cases asked
  | blank unnamed => exact .inl ⟨unnamed, rfl⟩
  | inFlight named | known named => exact .inr ⟨named, .inl rfl⟩
  | lookFailed named => exact .inr ⟨named, .inr (.inr ⟨_, List.mem_singleton_self _, rfl⟩)⟩
  | saveFailed named =>
    exact .inr ⟨named, .inr (.inr ⟨_, List.mem_append_right _ (List.mem_singleton_self _), rfl⟩)⟩
  | @kept row named stamped =>
    have url : row.record.url = (r.stamp p.taskId).url := Record.url_eq_of_plain stamped.plain
    exact .inr ⟨named, .inr (.inl ⟨_, rfl, url⟩)⟩

theorem Asks.unfailed {sound : σ → Prop} (reliable : p.store.Reliable sound) {store : σ} (holds : sound store)
    {i i' : Item} {calls : List Exchange} (asks : Asks p store i calls i') :
    sound (calls.foldl (Exchange.replay p.store) store) ∧ ∀ call ∈ calls, call.isFailed = false := by
  cases asks with
  | nothing quiet => exact ⟨holds, by simp⟩
  | @find r =>
    obtain ⟨found, answer⟩ := reliable.find_ok r.url holds
    exact ⟨reliable.find_sound r.url holds, by simp [answer, Exchange.isFailed]⟩
  | @append r row same =>
    exact ⟨reliable.append_sound row holds, by simp [reliable.append_ok row holds, Exchange.isFailed]⟩

theorem World.history_unfailed {sound : σ → Prop} (reliable : p.store.Reliable sound) (holds : sound s.store)
    (records : List Record) (moves : List Nat) :
    ∀ call ∈ (ofRecords s records).history p moves, call.2.isFailed = false := by
  refine (run_traced (p := p) (fun history b _ => sound b.store ∧ ∀ call ∈ history, call.2.isFailed = false) ?_
    (ofRecords s records) ⟨holds, by simp⟩ moves).2
  rintro history b items n i calls b' i' ⟨holds, passed⟩ _ _ _ asks store
  obtain ⟨holds', passed'⟩ := asks.unfailed reliable holds
  refine ⟨store ▸ holds', ?_⟩
  intro call member
  rcases List.mem_append.1 member with earlier | here
  · exact passed call earlier
  · obtain ⟨asked, there, rfl⟩ := List.mem_map.1 here
    exact passed' asked there

theorem mem_of_mem_callsOf {history : List (Nat × Exchange)} {n : Nat} {call : Exchange}
    (member : call ∈ callsOf history n) : (n, call) ∈ history := by
  obtain ⟨⟨m, asked⟩, there, chosen⟩ := List.mem_filterMap.1 member
  split at chosen
  · rename_i same
    obtain rfl : m = n := same
    obtain rfl := Option.some.inj chosen
    exact there
  · cases chosen

namespace Completes

theorem outcome? (completes : Completes p s records moves) {n : Nat} {r : Record}
    (given : records[n]? = some r) :
    let w := (World.ofRecords s records).run p moves
    r.hasBlankUrl = true ∧ w.outcome? n = some (.error (.noUrl r.title)) ∨
    r.hasBlankUrl = false ∧ (w.outcome? n = some (.ok none) ∨
      ∃ x, w.outcome? n = some (.ok (some x)) ∧ x.url = r.url) := by
  intro w
  obtain ⟨i, found⟩ := World.run_present p s moves given
  obtain ⟨r', given', course⟩ := World.run_course found
  obtain rfl := Option.some.inj (given.symm.trans given')
  obtain ⟨x, o, rfl⟩ := World.finished_of_isDone completes.done found
  have ended : w.outcome? n = some o := World.outcome?_of_item found
  rw [ended]
  rcases course.finished with ⟨unnamed, rfl⟩ | ⟨named, rfl | ⟨y, rfl, url⟩ | ⟨call, member, failed⟩⟩
  · exact .inl ⟨unnamed, rfl⟩
  · exact .inr ⟨named, .inl rfl⟩
  · exact .inr ⟨named, .inr ⟨y, rfl, url⟩⟩
  · have passed := completes.unfailed _ (mem_of_mem_callsOf member)
    cases passed.symm.trans failed

theorem outcome?_ne_store (completes : Completes p s records moves) (n : Nat) (f : Harvest.Failure) :
    ((World.ofRecords s records).run p moves).outcome? n ≠ some (.error (.store f)) := by
  intro failed
  obtain ⟨x, found⟩ := World.outcome?_eq_some.1 failed
  obtain ⟨r, given, _⟩ := World.run_url found
  rcases completes.outcome? given with ⟨_, ended⟩ | ⟨_, ended | ⟨y, ended, _⟩⟩
  all_goals cases failed.symm.trans ended

end Completes

/-- What comes of a record if its URL is stored. -/
def settled (r : Record) : Outcome := if r.hasBlankUrl then .error (.noUrl r.title) else .ok none

theorem settled_kept? (r : Record) : (settled r).kept? = none := by
  unfold settled
  split <;> rfl

theorem settled_isKept (r : Record) : (settled r).isKept = false := by
  unfold settled
  split <;> rfl

theorem settled_isDropped (r : Record) : (settled r).isDropped = !r.hasBlankUrl := by
  cases blank : r.hasBlankUrl <;> simp [settled, blank, Outcome.isDropped]

namespace Opens

variable (opens : Opens p contents rows s)

include opens in
theorem keeps (records : List Record) (moves : List Nat) :
    Store.Extends rows (contents ((World.ofRecords s records).run p moves).shared.store) := by
  have d := World.run_deduplicated opens.law opens.strict s opens.free records moves
  rw [opens.holds] at d
  exact d.once

include opens in
theorem mem_urls (completes : Completes p s records moves) {r : Record} (member : r ∈ records)
    (named : r.hasBlankUrl = false) :
    r.url ∈ Store.urls (contents ((World.ofRecords s records).run p moves).shared.store) := by
  obtain ⟨n, given⟩ := List.mem_iff_getElem?.1 member
  rcases completes.outcome? given with ⟨unnamed, _⟩ | ⟨_, dropped | ⟨x, kept, _⟩⟩
  · cases unnamed.symm.trans named
  · rcases World.run_dropped_holder opens.law opens.strict s opens.free completes.done given dropped with
      stored | ⟨_, _, m, _, f, _, _, _, _, _, _, failed⟩
    · exact stored
    · exact absurd failed (completes.outcome?_ne_store m f)
  · obtain ⟨y, found⟩ := World.outcome?_eq_some.1 kept
    obtain ⟨r', given', url⟩ := World.run_url found
    obtain rfl := Option.some.inj (given.symm.trans given')
    have d := World.run_deduplicated opens.law opens.strict s opens.free records moves
    have agrees := d.agrees n _ found
    exact url ▸ agrees

include opens in
theorem outcomes_eq (completes : Completes p s records moves)
    (stored : ∀ r ∈ records, r.hasBlankUrl = false → r.url ∈ Store.urls rows) :
    ((World.ofRecords s records).run p moves).outcomes = records.map settled := by
  apply World.outcomes_of_isDone completes.done
  intro n
  rw [List.getElem?_map]
  cases given : records[n]? with
  | none =>
    have outside := List.getElem?_eq_none_iff.1 given
    rw [World.outcome?, List.getElem?_eq_none (by simpa [World.run_length, World.ofRecords] using outside)]
    rfl
  | some r =>
    rcases completes.outcome? given with ⟨unnamed, ended⟩ | ⟨named, dropped | ⟨x, kept, url⟩⟩
    · rw [ended, Option.map_some, settled, if_pos unnamed]
    · rw [dropped, Option.map_some, settled, named]
      rfl
    · -- a record is only kept where its row is new
      obtain ⟨added, whole, perm⟩ := World.run_kept opens.law completes.done
      obtain ⟨new, whole', _, apart⟩ := opens.keeps records moves
      obtain rfl : new = added := List.append_cancel_left (whole'.symm.trans (opens.holds ▸ whole))
      have here : x ∈ new.map StoredRecord.record := by
        rw [perm.mem_iff, List.mem_filterMap]
        obtain ⟨y, found⟩ := World.outcome?_eq_some.1 kept
        exact ⟨_, List.mem_filterMap.2 ⟨_, List.mem_of_getElem? found, rfl⟩, rfl⟩
      obtain ⟨row, fresh, rfl⟩ := List.mem_map.1 here
      have known : row.url ∈ Store.urls rows := by
        rw [StoredRecord.url, url]
        exact stored r (List.mem_of_getElem? given) named
      exact absurd known (apart row.url (List.mem_map_of_mem fresh))

include opens in
/-- Where all URLs are stored, a run adds nothing and drops every record with a URL. -/
theorem settles (completes : Completes p s records moves)
    (stored : ∀ r ∈ records, r.hasBlankUrl = false → r.url ∈ Store.urls rows) :
    let after := ((World.ofRecords s records).run p moves).shared
    contents after.store = rows ∧ after.counters.stored = 0 ∧
      after.counters.duplicatesSkipped = records.countP fun r => !r.hasBlankUrl := by
  intro after
  have outcomes := opens.outcomes_eq completes stored
  have counted : Counted s.counters after.counters ((World.ofRecords s records).run p moves).outcomes :=
    World.run_counted p s records moves
  obtain ⟨added, whole, perm⟩ := World.run_kept opens.law completes.done
  rw [outcomes, opens.counters] at counted
  have none_kept : (records.map settled).filterMap Outcome.kept? = [] := by
    rw [List.filterMap_map, List.filterMap_eq_nil_iff]
    exact fun r _ => settled_kept? r
  rw [outcomes, none_kept] at perm
  obtain rfl : added = [] := List.map_eq_nil_iff.1 perm.eq_nil
  refine ⟨?_, ?_, ?_⟩
  · rw [whole, List.append_nil, opens.holds]
  · rw [counted.stored, List.countP_map, List.countP_eq_zero.2 fun r _ => by simp [settled_isKept]]
  · rw [counted.duplicatesSkipped, List.countP_map]
    simp [Function.comp_def, settled_isDropped]

include opens in
theorem runAll_settles {sound : σ → Prop} (reliable : p.store.Reliable sound) (holds : sound s.store)
    (stored : ∀ r ∈ records, r.hasBlankUrl = false → r.url ∈ Store.urls rows) (concurrency : Nat) :
    let report := (runAll p concurrency s records).1
    contents (runAll p concurrency s records).2.1.store = rows ∧ report.counters.stored = 0 ∧
      report.counters.duplicatesSkipped = records.countP fun r => !r.hasBlankUrl := by
  intro report
  obtain ⟨entries, moves, _, done, summary, books⟩ := runAll_spec p concurrency s records
  have opens' : Opens { p with report := failureNotes } contents rows (s.note entries) :=
    ⟨opens.law, opens.strict, opens.free, opens.counters, opens.holds⟩
  have unfailed := World.history_unfailed (p := { p with report := failureNotes }) (s := s.note entries) reliable
    holds records moves
  obtain ⟨same, none_stored, skipped⟩ := opens'.settles ⟨done, unfailed⟩ stored
  have store : (runAll p concurrency s records).2.1.store = _ := congrArg Books.store books
  have counters := congrArg Summary.counters summary
  exact ⟨(congrArg contents store).trans same, counters ▸ none_stored, counters ▸ skipped⟩

end Opens

section Reruns

variable {σ' τ' σ'' τ'' : Type} {p' : Pipeline σ' τ'} {p'' : Pipeline σ'' τ''}
  {contents' : σ' → List StoredRecord} {contents'' : σ'' → List StoredRecord} {s' : Shared σ' τ'}
  {s'' : Shared σ'' τ''}

/-- After a run in which anything may go wrong, one in which no call to the store fails: all URLs are stored then, new
ones once, and what the first run left stays as it was and is found as before. A third run finds nothing to store. -/
theorem rerun_repairs_then_settles (records : List Record) (opens : Opens p contents rows s) (moves : List Nat)
    (opens' : Opens p' contents' (contents ((World.ofRecords s records).run p moves).shared.store) s')
    {moves' : List Nat} (completes' : Completes p' s' records moves')
    (opens'' : Opens p'' contents'' (contents' ((World.ofRecords s' records).run p' moves').shared.store) s'') :
    let first := contents ((World.ofRecords s records).run p moves).shared.store
    let second := contents' ((World.ofRecords s' records).run p' moves').shared.store
    (∀ r ∈ records, r.hasBlankUrl = false → r.url ∈ Store.urls second ∧
      (r.url ∉ Store.urls rows → (Store.urls second).count r.url = 1)) ∧
    (∃ added, second = first ++ added) ∧
    (∀ url ∈ Store.urls first, Store.Memory.findByUrl url second = Store.Memory.findByUrl url first) ∧
    (∀ moves'', Completes p'' s'' records moves'' →
      let third := ((World.ofRecords s'' records).run p'' moves'').shared
      contents'' third.store = second ∧ third.counters.stored = 0 ∧
        third.counters.duplicatesSkipped = records.countP fun r => !r.hasBlankUrl) ∧
    ∀ sound : σ'' → Prop, p''.store.Reliable sound → sound s''.store → ∀ concurrency,
      let report := (runAll p'' concurrency s'' records).1
      contents'' (runAll p'' concurrency s'' records).2.1.store = second ∧ report.counters.stored = 0 ∧
        report.counters.duplicatesSkipped = records.countP fun r => !r.hasBlankUrl := by
  intro first second
  have before : Store.Extends rows first := opens.keeps records moves
  have between : Store.Extends first second := opens'.keeps records moves'
  have stored : ∀ r ∈ records, r.hasBlankUrl = false → r.url ∈ Store.urls second :=
    fun r member named => opens'.mem_urls completes' member named
  refine ⟨?_, ?_, ?_, ?_, ?_⟩
  · intro r member named
    have here := stored r member named
    exact ⟨here, fun new => (before.trans between).count_eq_one new here⟩
  · obtain ⟨added, whole, _⟩ := between
    exact ⟨added, whole⟩
  · exact fun url known => between.findByUrl known
  · exact fun moves'' completes'' => opens''.settles completes'' stored
  · exact fun sound reliable holds concurrency => opens''.runAll_settles reliable holds stored concurrency

end Reruns

/-- The first run loses both records of a URL, the second one stores it, and the third one drops all but the record
without a URL. -/
theorem rerun_repairs_then_settles_after_fault :
    let p := trial ⟨[1], []⟩ true none
    let p' := trial ⟨[], []⟩ true none
    let records : List Record := [⟨"a", "", "u", none, none, none, []⟩, ⟨"b", "", "u", none, none, none, []⟩,
      ⟨"c", "", " ", none, none, none, []⟩]
    let moves := [0, 1, 0, 0, 0, 0, 2]
    let moves' := [0, 0, 0, 0, 0, 1, 1, 1, 2]
    let s' := { trialStart with store := ((World.ofRecords trialStart records).run p moves).shared.store }
    let s'' := { trialStart with store := ((World.ofRecords s' records).run p' moves').shared.store }
    Store.urls s'.store.inner = [] ∧ Store.urls s''.store.inner = ["u"] ∧
      ((World.ofRecords s' records).run p' moves').isDone = true ∧
      (runAll p' 3 s'' records).1.counters.stored = 0 ∧
      (runAll p' 3 s'' records).1.counters.duplicatesSkipped = records.countP fun r => !r.hasBlankUrl := by
  intro p p' records moves moves' s' s''
  have law := Store.Faults.lawful ⟨[1], []⟩ Store.Memory.lawful
  have law' := Store.Faults.lawful ⟨[], []⟩ Store.Memory.lawful
  have reliable := Store.Faults.reliable Store.Memory.reliable
  have lost : Store.urls s'.store.inner = [] := by decide +kernel
  have stored : Store.urls s''.store.inner = ["u"] := by decide +kernel
  have done : ((World.ofRecords s' records).run p' moves').isDone = true := by decide +kernel
  have opens : Opens p (fun t => id t.inner) [] trialStart := ⟨law, rfl, rfl, rfl, rfl⟩
  have completes' : Completes p' s' records moves' :=
    ⟨done, World.history_unfailed reliable True.intro records moves'⟩
  have opens' : Opens p' (fun t => id t.inner) _ s' := opens_over law' rfl rfl rfl _
  have opens'' : Opens p' (fun t => id t.inner) _ s'' := opens_over law' rfl rfl rfl _
  obtain ⟨_, _, _, _, runner⟩ := rerun_repairs_then_settles records opens moves opens' completes' opens''
  obtain ⟨_, none_stored, skipped⟩ := runner _ reliable True.intro 3
  exact ⟨lost, stored, done, none_stored, skipped⟩

end Harvest.Pipeline
