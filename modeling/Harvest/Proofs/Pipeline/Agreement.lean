import Harvest.Proofs.Pipeline.Bounded
import Harvest.Proofs.Pipeline.Sequence
import Mathlib.Data.List.Basic

/-!
Runs agree. Where the store does not fail and the translator answers by its calls alone, `verdicts` tells what
comes of every record, and all runs that start their records in order come to that end, with the same books.
-/

namespace Harvest.Pipeline

open Translation (Answer Call)

variable {σ τ : Type} {p : Pipeline σ τ} {contents : σ → List StoredRecord} {sound : σ → Prop}
  {f : Call → Answer}

/-- What comes of a record, by the URLs that were seen before it. -/
def verdict (p : Pipeline σ τ) (f : Call → Answer) (seen : List String) (r : Record) : Outcome :=
  if r.hasBlankUrl then .error (.noUrl r.title)
  else if p.dropDuplicates ∧ r.url ∈ seen then .ok none
  else .ok (some (product p f r))

def verdicts (p : Pipeline σ τ) (f : Call → Answer) : List String → List Record → List Outcome
  | _, [] => []
  | seen, r :: rest => verdict p f seen r :: verdicts p f (seen ++ [r.url]) rest

theorem getElem?_verdicts (p : Pipeline σ τ) (f : Call → Answer) (urls : List String) (records : List Record)
    (n : Nat) : (verdicts p f urls records)[n]? =
      records[n]?.map (verdict p f (urls ++ (records.take n).map Record.url)) := by
  induction records generalizing urls n with
  | nil => rfl
  | cons r rest ih =>
    cases n with
    | zero => simp [verdicts]
    | succ n => simp [verdicts, ih]

theorem verdicts_report (p : Pipeline σ τ) (report : Record → Outcome → List Log.Entry) (f : Call → Answer)
    (urls : List String) (records : List Record) :
    verdicts { p with report := report } f urls records = verdicts p f urls records := by
  induction records generalizing urls with
  | nil => rfl
  | cons r rest ih =>
    rw [verdicts, ih]
    rfl

namespace Outcome

def kept? : Outcome → Option Record
  | .ok (some r) => some r
  | _ => none

theorem kept?_eq_some {o : Outcome} {r : Record} : o.kept? = some r ↔ o = .ok (some r) := by
  rcases o with f | _ | x <;> simp [Outcome.kept?]

def untranslated? (plan : Option Plan) (o : Outcome) : Option Record :=
  if plan = none then none else o.kept?.filter fun r => !r.isTranslated

end Outcome

def Counters.after (c : Counters) (plan : Option Plan) (outcomes : List Outcome) : Counters where
  processed := c.processed + outcomes.length
  stored := c.stored + outcomes.countP Outcome.isKept
  duplicatesSkipped := c.duplicatesSkipped + outcomes.countP Outcome.isDropped
  translationFailures := c.translationFailures + (outcomes.filterMap (Outcome.untranslated? plan)).length
  errors := c.errors + outcomes.countP Outcome.isFailed

namespace World

def outcomes (w : World σ τ) : List Outcome := w.items.filterMap Item.outcome?

theorem exists_kept {α : Type} {w : World σ τ} {n : Nat} {f : Record → α} {a : α}
    (fields : ((w.outcome? n).bind Outcome.kept?).map f = some a) :
    ∃ x, w.outcome? n = some (.ok (some x)) ∧ f x = a := by
  obtain ⟨x, kept, same⟩ := Option.map_eq_some_iff.1 fields
  obtain ⟨o, ended, kept⟩ := Option.bind_eq_some_iff.1 kept
  rw [Outcome.kept?_eq_some.1 kept] at ended
  exact ⟨x, ended, same⟩

theorem filterMap_of_isDone {β : Type} {w : World σ τ} (done : w.isDone = true) {choose : Item → Option β}
    (choice : Outcome → Option β) (same : ∀ r o, choose ⟨r, .finished o⟩ = choice o) :
    w.items.filterMap choose = w.outcomes.filterMap choice := by
  rw [outcomes, List.filterMap_filterMap]
  apply List.filterMap_congr
  intro i member
  obtain ⟨n, found⟩ := List.mem_iff_getElem?.1 member
  obtain ⟨r, o, rfl⟩ := finished_of_isDone done found
  exact same r o

theorem map_outcome?_of_isDone {w : World σ τ} (done : w.isDone = true) :
    w.items.map Item.outcome? = w.outcomes.map some := by
  obtain ⟨shared, items⟩ := w
  change items.map Item.outcome? = (items.filterMap Item.outcome?).map some
  change (items.all fun i => i.outcome?.isSome) = true at done
  induction items with
  | nil => rfl
  | cons i items ih =>
    rw [List.all_cons] at done
    obtain ⟨here, later⟩ := Bool.and_eq_true_iff.1 done
    obtain ⟨o, ended⟩ := Option.isSome_iff_exists.1 here
    rw [List.map_cons, ih later, List.filterMap_cons_some ended, ended, List.map_cons]

theorem length_outcomes {w : World σ τ} (done : w.isDone = true) : w.outcomes.length = w.items.length := by
  simpa using (congrArg List.length (map_outcome?_of_isDone done)).symm

theorem getElem?_outcomes {w : World σ τ} (done : w.isDone = true) (n : Nat) : w.outcomes[n]? = w.outcome? n := by
  have all := congrArg (·[n]?) (map_outcome?_of_isDone done)
  simp only [List.getElem?_map] at all
  rw [outcome?]
  cases found : w.items[n]? <;> cases ended : w.outcomes[n]? <;> simp_all

theorem outcomes_of_isDone {w : World σ τ} (done : w.isDone = true) {outcomes : List Outcome}
    (each : ∀ n, w.outcome? n = outcomes[n]?) : w.outcomes = outcomes :=
  List.ext_getElem? fun n => (getElem?_outcomes done n).trans (each n)

variable (law : p.store.Lawful contents) (reliable : p.store.Reliable sound) {s : Shared σ τ}
  (holds : sound s.store) {records : List Record} {moves : List Nat}

include reliable holds in
theorem run_counters (done : ((ofRecords s records).run p moves).isDone = true) :
    ((ofRecords s records).run p moves).shared.counters =
      s.counters.after p.plan ((ofRecords s records).run p moves).outcomes := by
  obtain ⟨processed, stored, duplicates, errors⟩ := run_counted p s records moves
  have untranslated := run_untranslated reliable s holds records moves
  rw [filterMap_of_isDone done (Outcome.untranslated? p.plan)] at untranslated
  · generalize ((ofRecords s records).run p moves).shared.counters = c at *
    obtain ⟨_, _, _, _, _⟩ := c
    rw [Counters.after, Counters.mk.injEq]
    exact ⟨processed, stored, duplicates, untranslated, errors⟩
  · intro r o
    rcases o with e | _ | x
    · simp [Item.untranslated?, Outcome.untranslated?, Outcome.kept?]
    · simp [Item.untranslated?, Outcome.untranslated?, Outcome.kept?]
    · cases translated : x.isTranslated <;>
        simp [Item.untranslated?, Outcome.untranslated?, Outcome.kept?, Option.filter, translated]

include law in
theorem run_kept (done : ((ofRecords s records).run p moves).isDone = true) :
    ∃ added, contents ((ofRecords s records).run p moves).shared.store = contents s.store ++ added ∧
      (added.map StoredRecord.record).Perm
        (((ofRecords s records).run p moves).outcomes.filterMap Outcome.kept?) := by
  obtain ⟨added, whole, perm⟩ := run_added law s records moves
  refine ⟨added, whole, perm.trans (.of_eq ?_)⟩
  exact filterMap_of_isDone done Outcome.kept? fun _ o => by rcases o with e | _ | x <;> rfl

variable (answers : p.translator.Answers f) (free : s.inFlight = [])

include law reliable answers holds free in
/-- Each record of a run that starts them in order comes to the end that the seen URLs give it. -/
theorem run_verdict (inOrder : InOrder moves) (done : ((ofRecords s records).run p moves).isDone = true)
    {n : Nat} {r : Record} (given : records[n]? = some r) :
    ((ofRecords s records).run p moves).outcome? n =
      some (verdict p f (seen (contents s.store) records n) r) := by
  obtain ⟨i, found⟩ := run_present p s moves given
  obtain ⟨r', given', faithful⟩ := run_faithful answers found
  obtain rfl := Option.some.inj (given.symm.trans given')
  obtain ⟨r', given', url⟩ := run_url found
  obtain rfl := Option.some.inj (given.symm.trans given')
  have unfailed := (run_unfailed reliable s holds records moves).items n i found
  have track := fun strict => run_onTrack law strict reliable answers holds free inOrder found
  obtain ⟨x, o, rfl⟩ := finished_of_isDone done found
  rw [outcome?_of_item found, Item.outcome?, verdict]
  have named : x.hasBlankUrl = r.hasBlankUrl := congrArg Text.isBlankText url
  have url : x.url = r.url := url
  simp only [Item.OnTrack, Item.Decided, named, url] at track
  rcases o with e | _ | y
  · rcases faithful with ⟨blank, rfl⟩ | ⟨_, cause, rfl⟩
    · rw [if_pos blank]
    · exact absurd True.intro unfailed
  · obtain ⟨named, strict⟩ := faithful
    simp [named, strict, (track strict named).1 rfl]
  · obtain ⟨named, rfl⟩ := faithful
    have fresh : ¬(p.dropDuplicates = true ∧ r.url ∈ seen (contents s.store) records n) := by
      rintro ⟨strict, known⟩
      cases (track strict named).2 known
    simp only [named, fresh, Bool.false_eq_true, ↓reduceIte]

include law reliable answers holds free in
theorem run_outcome? (inOrder : InOrder moves) (done : ((ofRecords s records).run p moves).isDone = true)
    (n : Nat) : ((ofRecords s records).run p moves).outcome? n =
      (verdicts p f (Store.urls (contents s.store)) records)[n]? := by
  rw [getElem?_verdicts]
  cases given : records[n]? with
  | none =>
    have outside := List.getElem?_eq_none_iff.1 given
    rw [outcome?, List.getElem?_eq_none (by simpa [run_length, ofRecords] using outside)]
    rfl
  | some r => exact run_verdict law reliable holds answers free inOrder done given

include law reliable answers holds free in
theorem inTurn_outcome? (n : Nat) : ((ofRecords s records).inTurn p).outcome? n =
    (verdicts p f (Store.urls (contents s.store)) records)[n]? := by
  have done := inTurn_isDone p (ofRecords s records)
  rw [inTurn_ofRecords] at done ⊢
  exact run_outcome? law reliable holds answers free (turns_inOrder records.length) done n

include law reliable answers holds free in
theorem inTurn_single {r : Record} (named : r.hasBlankUrl = false)
    (fresh : p.dropDuplicates = true → r.url ∉ Store.urls (contents s.store)) :
    ((ofRecords s [r]).inTurn p).outcome? 0 = some (.ok (some (product p f r))) := by
  rw [inTurn_outcome? law reliable holds answers free]
  have new : ¬(p.dropDuplicates = true ∧ r.url ∈ Store.urls (contents s.store)) :=
    fun known => fresh known.1 known.2
  simp only [verdicts, verdict, named, new, Bool.false_eq_true, ↓reduceIte, List.getElem?_cons_zero]

include law reliable answers holds free in
theorem run_books (inOrder : InOrder moves) (done : ((ofRecords s records).run p moves).isDone = true) :
    let outcomes := verdicts p f (Store.urls (contents s.store)) records
    ((ofRecords s records).run p moves).shared.counters = s.counters.after p.plan outcomes ∧
    ∃ added, contents ((ofRecords s records).run p moves).shared.store = contents s.store ++ added ∧
      (added.map StoredRecord.record).Perm (outcomes.filterMap Outcome.kept?) := by
  have each := run_outcome? law reliable holds answers free inOrder done
  have counters := run_counters reliable holds done
  have kept := run_kept law done
  rw [outcomes_of_isDone done each] at counters kept
  exact ⟨counters, kept⟩

end World

/-- Two states of a store to which the same records were appended, in whatever order. -/
def SameAdded (contents : σ → List StoredRecord) (before after after' : σ) : Prop :=
  ∃ added added', contents after = contents before ++ added ∧ contents after' = contents before ++ added' ∧
    (added.map StoredRecord.record).Perm (added'.map StoredRecord.record)

/-- Where the store does not fail and the translator answers by its calls alone: a run that starts its records in
order, and so a run with any concurrency, agrees with the run of one record at a time in all outcomes, in what it
appends and in its counters. If duplicates are dropped, the record that is kept of a URL is the first one. -/
theorem run_agrees_with_inTurn (law : p.store.Lawful contents) (reliable : p.store.Reliable sound)
    (answers : p.translator.Answers f) (s : Shared σ τ) (holds : sound s.store) (free : s.inFlight = [])
    (records : List Record) :
    let v := (World.ofRecords s records).inTurn p
    v.isDone = true ∧
    (∀ moves, InOrder moves → ((World.ofRecords s records).run p moves).isDone = true →
      let w := (World.ofRecords s records).run p moves
      (∀ n, w.outcome? n = v.outcome? n) ∧ w.shared.counters = v.shared.counters ∧
      SameAdded contents s.store w.shared.store v.shared.store ∧
      (p.dropDuplicates = true → ∀ n r, records[n]? = some r → r.hasBlankUrl = false →
        ((∃ x, w.outcome? n = some (.ok (some x))) ↔
          r.url ∉ Store.urls (contents s.store) ∧ ∀ k r', k < n → records[k]? = some r' → r'.url ≠ r.url))) ∧
    ∀ concurrency,
      (runAll p concurrency s records).1 = ⟨records.length, v.shared.counters⟩ ∧
      SameAdded contents s.store (runAll p concurrency s records).2.1.store v.shared.store := by
  intro v
  have done : v.isDone = true := World.inTurn_isDone p _
  have turns : v = (World.ofRecords s records).run p (World.turns (List.range records.length)) :=
    World.inTurn_ofRecords p s records
  rw [turns] at done ⊢
  have inOrder := World.turns_inOrder records.length
  have outcome := World.run_outcome? law reliable holds answers free inOrder done
  obtain ⟨counters, added, whole, perm⟩ := World.run_books law reliable holds answers free inOrder done
  refine ⟨done, ?_, ?_⟩
  · intro moves inOrder' done'
    have outcome' := World.run_outcome? law reliable holds answers free inOrder' done'
    obtain ⟨counters', added', whole', perm'⟩ :=
      World.run_books law reliable holds answers free inOrder' done'
    refine ⟨fun n => (outcome' n).trans (outcome n).symm, counters'.trans counters.symm,
      ⟨added', added, whole', whole, perm'.trans perm.symm⟩, ?_⟩
    intro strict n r given named
    have fresh : r.url ∉ seen (contents s.store) records n ↔ r.url ∉ Store.urls (contents s.store) ∧
        ∀ k r', k < n → records[k]? = some r' → r'.url ≠ r.url := by
      rw [mem_seen, not_or]
      refine and_congr_right fun _ => ?_
      exact ⟨fun apart k r' smaller given' same => apart ⟨k, r', smaller, given', same⟩,
        fun apart ⟨k, r', smaller, given', same⟩ => apart k r' smaller given' same⟩
    rw [World.run_verdict law reliable holds answers free inOrder' done' given, ← fresh, verdict]
    by_cases known : r.url ∈ seen (contents s.store) records n <;> simp [named, strict, known]
  · intro concurrency
    obtain ⟨entries, moves, inOrder', done', summary, books⟩ := runAll_spec p concurrency s records
    obtain ⟨counters', added', whole', perm'⟩ :=
      World.run_books (p := { p with report := failureNotes }) (s := s.note entries) law reliable holds answers free
        inOrder' done'
    have store : (runAll p concurrency s records).2.1.store = _ := congrArg Books.store books
    rw [verdicts_report] at counters' perm'
    refine ⟨?_, added', added, ?_, whole, perm'.trans perm.symm⟩
    · rw [summary, counters', counters]
      rfl
    · rw [store]
      exact whole'

/-- While the first record is translated, the second one with its URL is dropped. -/
theorem run_agrees_with_inTurn_interleaved :
    let p := trial ⟨[], []⟩ true (some ⟨"zh", 0, .separate, "|"⟩)
    let records : List Record := [⟨"a", "x", "u", none, none, none, []⟩, ⟨"b", "", "u", none, none, none, []⟩]
    let moves := [0, 1, 0, 0, 0, 0, 0, 0, 0, 0]
    let w := (World.ofRecords trialStart records).run p moves
    let v := (World.ofRecords trialStart records).inTurn p
    InOrder moves ∧ w.isDone = true ∧ trialStart.inFlight = [] ∧
      (∀ n, w.outcome? n = v.outcome? n) ∧ w.shared.counters = v.shared.counters ∧
      (runAll p 2 trialStart records).1 = ⟨2, v.shared.counters⟩ := by
  intro p records moves w v
  have law := Store.Faults.lawful ⟨[], []⟩ Store.Memory.lawful
  have reliable := Store.Faults.reliable Store.Memory.reliable
  have answers : p.translator.Answers fun call => .ok (some call.text) := fun _ _ => rfl
  have inOrder : InOrder moves := by decide
  have done : w.isDone = true := by decide +kernel
  obtain ⟨_, all, runner⟩ := run_agrees_with_inTurn (p := p) law reliable answers trialStart True.intro rfl records
  obtain ⟨outcomes, counters, _⟩ := all moves inOrder done
  exact ⟨inOrder, done, rfl, outcomes, by rw [counters], (runner 2).1⟩

end Harvest.Pipeline
