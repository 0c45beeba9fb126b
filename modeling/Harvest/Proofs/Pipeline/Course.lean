import Harvest.Proofs.Pipeline.Agreement
import Harvest.Proofs.Pipeline.History
import Harvest.Proofs.Store.Plain

/-!
The course of a record. `Course` tells for every stage what the record has asked of the store on its way there, and
from that at its end: a record is stored once, as it is returned, or it is not returned.
-/

namespace Harvest.Pipeline

open Store (Exchange)

variable {σ τ : Type} {p : Pipeline σ τ} {contents : σ → List StoredRecord}

/-- The look-up behind a record that was let in, where there is one. -/
def lookups (p : Pipeline σ τ) (r : Record) : List Exchange :=
  if p.dropDuplicates then [.find r.url (.ok none)] else []

/-- The record `x` is `r` with the mark of the run, and has fields of its own only for translations. -/
structure Stamped (p : Pipeline σ τ) (r x : Record) : Prop where
  plain : x.plain = (r.stamp p.taskId).plain
  untouched : p.plan = none → x = r.stamp p.taskId

theorem Stamped.stamp (p : Pipeline σ τ) (r : Record) : Stamped p r (r.stamp p.taskId) := ⟨rfl, fun _ => rfl⟩

theorem Work.plain {t : Translation.Translator τ} {plan : Plan} {i i' : Item} (work : Work t plan i i') :
    i'.record.plain = i.record.plain := by
  cases work <;> rfl

theorem Ready.plain {plan : Plan} {i : Item} {r : Record} (ready : Ready plan i r) :
    r.plain = i.record.plain := by
  cases ready <;> rfl

/-- How far the record that arrived as `r` has come, and what it has asked of the store so far. -/
inductive Course (p : Pipeline σ τ) (r : Record) : Item → List Exchange → Prop
  | arrived : Course p r ⟨r, .arrived⟩ []
  | looking (named : r.hasBlankUrl = false) (strict : p.dropDuplicates = true) : Course p r ⟨r, .looking⟩ []
  | looked (named : r.hasBlankUrl = false) (strict : p.dropDuplicates = true)
      (answer : Except Harvest.Failure (Option StoredRecord)) :
      Course p r ⟨r, .looked answer⟩ [.find r.url answer]
  | translating {i : Item} (named : r.hasBlankUrl = false) (asked : i.stage.isTranslating = true)
      (stamped : Stamped p r i.record) : Course p r i (lookups p r)
  | saving {x : Record} (named : r.hasBlankUrl = false) (stamped : Stamped p r x) :
      Course p r ⟨x, .saving⟩ (lookups p r)
  | saved {row : StoredRecord} (named : r.hasBlankUrl = false) (stamped : Stamped p r row.record) :
      Course p r ⟨row.record, .saved (.ok row)⟩ (lookups p r ++ [.append row (.ok ())])
  | unsaved {row : StoredRecord} {f : Harvest.Failure} (named : r.hasBlankUrl = false)
      (stamped : Stamped p r row.record) :
      Course p r ⟨row.record, .saved (.error f)⟩ (lookups p r ++ [.append row (.error f)])
  | blank (unnamed : r.hasBlankUrl = true) : Course p r ⟨r, .finished (.error (.noUrl r.title))⟩ []
  | inFlight (named : r.hasBlankUrl = false) (strict : p.dropDuplicates = true) :
      Course p r ⟨r, .finished (.ok none)⟩ []
  | known (named : r.hasBlankUrl = false) (strict : p.dropDuplicates = true) (row : StoredRecord) :
      Course p r ⟨r, .finished (.ok none)⟩ [.find r.url (.ok (some row))]
  | lookFailed {f : Harvest.Failure} (named : r.hasBlankUrl = false) (strict : p.dropDuplicates = true) :
      Course p r ⟨r, .finished (.error (.store f))⟩ [.find r.url (.error f)]
  | saveFailed {row : StoredRecord} {f : Harvest.Failure} (named : r.hasBlankUrl = false)
      (stamped : Stamped p r row.record) :
      Course p r ⟨row.record, .finished (.error (.store f))⟩ (lookups p r ++ [.append row (.error f)])
  | kept {row : StoredRecord} (named : r.hasBlankUrl = false) (stamped : Stamped p r row.record) :
      Course p r ⟨row.record, .finished (.ok (some row.record))⟩ (lookups p r ++ [.append row (.ok ())])

namespace Course

variable {r : Record} {i i' : Item} {calls more : List Exchange} {b b' : Books σ}

theorem of_isTranslating (course : Course p r i calls) (asked : i.stage.isTranslating = true) :
    r.hasBlankUrl = false ∧ Stamped p r i.record ∧ calls = lookups p r := by
  cases course with
  | translating named _ stamped => exact ⟨named, stamped, rfl⟩
  | _ => cases asked

theorem firstStage (named : r.hasBlankUrl = false) :
    Course p r ⟨r.stamp p.taskId, Pipeline.firstStage p.plan⟩ (lookups p r) :=
  firstStage_elim (fun stage => Course p r ⟨r.stamp p.taskId, stage⟩ (lookups p r)) (.saving named (.stamp p r))
    (fun _ asked => .translating named asked (.stamp p r)) p.plan

theorem quiet (course : Course p r i calls) (still : i.stage.isCalling = false) (effect : Effect p b i b' i') :
    Course p r i' calls := by
  cases effect with
  | reject blank =>
    cases course with
    | arrived => exact .blank blank
    | translating _ asked => cases asked
  | enter named free =>
    cases course with
    | arrived =>
      have first := firstStage (p := p) named
      simpa only [lookups, free, Bool.false_eq_true, ↓reduceIte] using first
    | translating _ asked => cases asked
  | collide named strict taken =>
    cases course with
    | arrived => exact .inFlight named strict
    | translating _ asked => cases asked
  | claim named strict untaken =>
    cases course with
    | arrived => exact .looking named strict
    | translating _ asked => cases asked
  | look | save => cases still
  | lookFailed =>
    cases course with
    | looked named strict => exact .lookFailed named strict
    | translating _ asked => cases asked
  | known =>
    cases course with
    | looked named strict => exact .known named strict _
    | translating _ asked => cases asked
  | fresh =>
    cases course with
    | looked named strict =>
      have first := firstStage (p := p) named
      simpa only [lookups, strict, ↓reduceIte] using first
    | translating _ asked => cases asked
  | work planned work =>
    obtain ⟨before, after⟩ := work.isTranslating
    obtain ⟨named, stamped, rfl⟩ := course.of_isTranslating before
    refine .translating named after ⟨work.plain.trans stamped.plain, ?_⟩
    simp [planned]
  | ready planned ready =>
    obtain ⟨named, stamped, rfl⟩ := course.of_isTranslating ready.isTranslating
    refine .saving named ⟨ready.plain.trans stamped.plain, ?_⟩
    simp [planned]
  | unplanned plain asked =>
    obtain ⟨named, stamped, rfl⟩ := course.of_isTranslating asked
    exact .saving named stamped
  | saveFailed =>
    cases course with
    | unsaved named stamped => exact .saveFailed named stamped
    | translating _ asked => cases asked
  | keep =>
    cases course with
    | saved named stamped => exact .kept named stamped
    | translating _ asked => cases asked

theorem keep (course : Course p r i calls) (effect : Effect p b i b' i') (asks : Asks p b.store i more i') :
    Course p r i' (calls ++ more) := by
  cases asks with
  | nothing still =>
    rw [List.append_nil]
    exact course.quiet still effect
  | find =>
    cases course with
    | looking named strict => exact .looked named strict _
    | translating _ asked => cases asked
  | @append x row same =>
    cases course with
    | saving named stamped =>
      subst same
      cases answer : (p.store.append row b.store).1 with
      | error f => exact .unsaved named stamped
      | ok => exact .saved named stamped
    | translating _ asked => cases asked

end Course

namespace World

theorem run_course {s : Shared σ τ} {records : List Record} {moves : List Nat} {n : Nat} {i : Item}
    (found : ((ofRecords s records).run p moves).items[n]? = some i) :
    ∃ r, records[n]? = some r ∧ Course p r i (callsOf ((ofRecords s records).history p moves) n) := by
  refine run_traced (p := p) (fun history _ items => ∀ n i, items[n]? = some i →
    ∃ r, records[n]? = some r ∧ Course p r i (callsOf history n)) ?_ (ofRecords s records) ?_ moves n i found
  · intro history b items n i calls b' i' all here _ effect asks _ m j there
    rw [callsOf_append]
    rcases set_cases there with ⟨rfl, rfl⟩ | ⟨other, there⟩
    · obtain ⟨r, given, course⟩ := all m i here
      rw [callsOf_here]
      exact ⟨r, given, course.keep effect asks⟩
    · rw [callsOf_there calls (Ne.symm other), List.append_nil]
      exact all m j there
  · intro n i arrived
    obtain ⟨r, given, rfl⟩ := getElem?_arrived arrived
    exact ⟨r, given, .arrived⟩

/-- A record that arrives while its URL is in flight asks the store for nothing. -/
theorem callsOf_taken (strict : p.dropDuplicates = true) {s : Shared σ τ} {records : List Record}
    {before : List Nat} {n : Nat} {r : Record} (given : records[n]? = some r) (first : n ∉ before)
    (taken : r.url ∈ ((ofRecords s records).run p before).shared.inFlight) (after : List Nat) :
    callsOf ((ofRecords s records).history p (before ++ n :: after)) n = [] := by
  have found := run_untouched p s given first
  obtain ⟨_, _, course⟩ := run_course found
  have none_before : callsOf ((ofRecords s records).history p before) n = [] := by
    generalize callsOf ((ofRecords s records).history p before) n = calls at course
    cases course with
    | arrived => rfl
    | translating _ asked => cases asked
  rw [history_append, history, callsOf_append, callsOf_append]
  generalize (ofRecords s records).run p before = w at found taken ⊢
  have none_now : w.exchanges p n = [] := by
    simp only [exchanges, found, exchanges_of_quiet p w.shared (i := ⟨r, .arrived⟩) rfl rfl, List.map_nil]
  have ended : (step p w.shared ⟨r, .arrived⟩).item.outcome? ≠ none := by
    simp only [step, arrive, strict, taken]
    split <;> simp [endItem, Item.outcome?]
  rw [none_before, none_now, callsOf_finished (move_here found) ended]
  rfl

theorem isAtRest_cases {w : World σ τ} (rest : w.isAtRest = true) {i : Item} (member : i ∈ w.items) :
    i.stage = .arrived ∨ ∃ o, i.stage = .finished o := by
  have still := List.all_eq_true.1 rest i member
  obtain ⟨r, stage⟩ := i
  cases stage with
  | arrived => exact .inl rfl
  | finished o => exact .inr ⟨o, rfl⟩
  | _ => cases still

theorem stored_of_isAtRest {w : World σ τ} (rest : w.isAtRest = true) :
    w.items.filterMap Item.stored? = w.outcomes.filterMap Outcome.kept? := by
  rw [outcomes, List.filterMap_filterMap]
  apply List.filterMap_congr
  rintro ⟨r, stage⟩ member
  rcases isAtRest_cases rest member with rfl | ⟨o, rfl⟩
  · rfl
  · rcases o with e | _ | x <;> rfl

theorem run_returned (p : Pipeline σ τ) (s : Shared σ τ) (records : List Record) (moves : List Nat)
    (rest : ((ofRecords s records).run p moves).isAtRest = true) :
    ((rowsOf ((ofRecords s records).history p moves)).map StoredRecord.record).Perm
      (((ofRecords s records).run p moves).outcomes.filterMap Outcome.kept?) := by
  rw [← stored_of_isAtRest rest]
  exact run_saved p s records moves

end World

namespace Course

variable {r : Record} {x : Record} {o : Outcome} {i : Item} {calls : List Exchange}

theorem rows (course : Course p r ⟨x, .finished o⟩ calls) :
    (calls.filterMap Exchange.row?).map StoredRecord.record = o.kept?.toList := by
  have none_looked : (lookups p r).filterMap Exchange.row? = [] := by
    unfold lookups
    split <;> rfl
  cases course with
  | translating _ asked => cases asked
  | blank | inFlight | known | lookFailed => rfl
  | saveFailed | kept =>
    rw [List.filterMap_append, none_looked]
    rfl

theorem stamped {y : Record} (course : Course p r ⟨x, .finished (.ok (some y))⟩ calls) : Stamped p r y := by
  cases course with
  | translating _ asked => cases asked
  | kept _ stamped => exact stamped

/-- At most one look-up, by a record with a URL of a pipeline that drops duplicates, and at most one save after it. -/
theorem calls_eq (course : Course p r i calls) : ∃ lookup save : Option Exchange,
    calls = lookup.toList ++ save.toList ∧
    (∀ call ∈ lookup, p.dropDuplicates = true ∧ r.hasBlankUrl = false ∧ ∃ answer, call = .find r.url answer) ∧
    ∀ call ∈ save, ∃ row answer, call = .append row answer := by
  have none_asked : ∀ call ∈ (none : Option Exchange), p.dropDuplicates = true ∧ r.hasBlankUrl = false ∧
      ∃ answer, call = .find r.url answer := by simp
  have none_saved : ∀ call ∈ (none : Option Exchange), ∃ row answer, call = .append row answer := by simp
  have looked (named : r.hasBlankUrl = false) : ∃ lookup : Option Exchange, lookups p r = lookup.toList ∧
      ∀ call ∈ lookup, p.dropDuplicates = true ∧ r.hasBlankUrl = false ∧ ∃ answer, call = .find r.url answer := by
    cases strict : p.dropDuplicates with
    | false => exact ⟨none, by simp [lookups, strict], by simp⟩
    | true => exact ⟨some (.find r.url (.ok none)), by simp [lookups, strict], by simp [named]⟩
  cases course with
  | arrived | looking | blank | inFlight => exact ⟨none, none, rfl, none_asked, none_saved⟩
  | looked named strict | known named strict | lookFailed named strict =>
    exact ⟨some _, none, rfl, by simp [named, strict], none_saved⟩
  | translating named | saving named =>
    obtain ⟨lookup, same, asked⟩ := looked named
    exact ⟨lookup, none, by simp [same], asked, none_saved⟩
  | saved named | unsaved named | saveFailed named | kept named =>
    obtain ⟨lookup, same, asked⟩ := looked named
    exact ⟨lookup, some _, by rw [same, Option.toList_some], asked, by simp⟩

theorem calls_of_free (free : p.dropDuplicates = false) (named : r.hasBlankUrl = false)
    (course : Course p r ⟨x, .finished o⟩ calls) : ∃ row answer, calls = [.append row answer] := by
  have none_looked : lookups p r = [] := by simp [lookups, free]
  cases course with
  | translating _ asked => cases asked
  | blank unnamed => simp [named] at unnamed
  | inFlight _ strict | known _ strict | lookFailed _ strict => simp [free] at strict
  | saveFailed | kept => exact ⟨_, _, by rw [none_looked, List.nil_append]⟩

end Course

/-- Whatever the order of the steps, whatever the translator answers and whichever calls to the store fail: a run adds
the records that its calls return, and no others. A call that returns a record adds it once, and one that does not
adds none; the record is as it came but for the mark of the run and, where the pipeline translates, its translations.
A call looks up its URL at most once, and not at all if the pipeline keeps duplicates, the URL is blank or in flight;
after that it saves at most once, and where duplicates are kept just once. -/
theorem stored_eq_returned (law : p.store.Lawful contents) (s : Shared σ τ) (records : List Record)
    (moves : List Nat) :
    let start := World.ofRecords s records
    let w := start.run p moves
    let history := start.history p moves
    contents w.shared.store = contents s.store ++ rowsOf history ∧
    (w.isAtRest = true →
      ((rowsOf history).map StoredRecord.record).Perm (w.outcomes.filterMap Outcome.kept?)) ∧
    ∀ n r, records[n]? = some r →
      (∀ o, w.outcome? n = some o →
        ((callsOf history n).filterMap Exchange.row?).map StoredRecord.record = o.kept?.toList) ∧
      (∀ x, w.outcome? n = some (.ok (some x)) →
        x.plain = (r.stamp p.taskId).plain ∧ (p.plan = none → x = r.stamp p.taskId)) ∧
      (∃ lookup save : Option Exchange, callsOf history n = lookup.toList ++ save.toList ∧
        (∀ call ∈ lookup, p.dropDuplicates = true ∧ r.hasBlankUrl = false ∧ ∃ answer, call = .find r.url answer) ∧
        ∀ call ∈ save, ∃ row answer, call = .append row answer) ∧
      (∀ before after, moves = before ++ n :: after → n ∉ before → p.dropDuplicates = true →
        r.url ∈ (start.run p before).shared.inFlight → callsOf history n = []) ∧
      (p.dropDuplicates = false → r.hasBlankUrl = false → w.isFinished n = true →
        ∃ row answer, callsOf history n = [.append row answer]) := by
  intro start w history
  refine ⟨World.run_rows law start moves, World.run_returned p s records moves, ?_⟩
  intro n r given
  obtain ⟨i, found⟩ := World.run_present p s moves given
  obtain ⟨r', given', course⟩ := World.run_course found
  obtain rfl := Option.some.inj (given.symm.trans given')
  have returned {o : Outcome} (ended : w.outcome? n = some o) :
      ∃ x, Course p r ⟨x, .finished o⟩ (callsOf history n) := by
    obtain ⟨x, there⟩ := World.outcome?_eq_some.1 ended
    obtain rfl := Option.some.inj (found.symm.trans there)
    exact ⟨x, course⟩
  refine ⟨?_, ?_, course.calls_eq, ?_, ?_⟩
  · intro o ended
    obtain ⟨x, course⟩ := returned ended
    exact course.rows
  · intro x ended
    obtain ⟨y, course⟩ := returned ended
    exact ⟨course.stamped.plain, course.stamped.untouched⟩
  · rintro before after rfl first strict taken
    exact World.callsOf_taken strict given first taken after
  · intro free named ended
    rw [World.isFinished_of_item found, Option.isSome_iff_exists] at ended
    obtain ⟨o, ended⟩ := ended
    obtain ⟨x, course⟩ := returned ((World.outcome?_of_item found).trans ended)
    exact course.calls_of_free free named

/-- The first record is looked up and cannot be saved, the second one is dropped while it is in flight, and the third
one, with a URL of its own, is stored as it is returned. -/
theorem stored_eq_returned_with_fault :
    let p := trial ⟨[1], []⟩ true (some ⟨"zh", 0, .separate, "|"⟩)
    let records : List Record :=
      [⟨"a", "", "u", none, none, none, []⟩, ⟨"b", "", "u", none, none, none, []⟩, ⟨"c", "", "v", none, none, none, []⟩]
    let moves := [0, 1, 2] ++ List.replicate 8 0 ++ List.replicate 8 2
    let w := (World.ofRecords trialStart records).run p moves
    let history := (World.ofRecords trialStart records).history p moves
    (p.store.Lawful fun s => s.inner) ∧ w.isAtRest = true ∧
      ((rowsOf history).map StoredRecord.record).Perm (w.outcomes.filterMap Outcome.kept?) ∧
      (w.outcomes.filterMap Outcome.kept?).map Record.url = ["v"] ∧ callsOf history 1 = [] := by
  intro p records moves w history
  have law := Store.Faults.lawful ⟨[1], []⟩ Store.Memory.lawful
  have rest : w.isAtRest = true := by decide +kernel
  obtain ⟨_, returned, each⟩ := stored_eq_returned (p := p) law trialStart records moves
  obtain ⟨_, _, _, taken, _⟩ := each 1 _ rfl
  exact ⟨law, rest, returned rest, by decide +kernel,
    taken [0] _ rfl (by decide) rfl (by decide +kernel)⟩

end Harvest.Pipeline
