import Harvest.Proofs.Pipeline.Balance
import Harvest.Proofs.Pipeline.Packed
import Harvest.Proofs.Pipeline.Rerun
import Mathlib.Data.List.Dedup

/-!
Rehearsals. Where the store is empty at first and never fails, and the translator changes nothing, what a run counts
follows from its records alone, whatever the order of its steps.
-/

namespace Harvest.Pipeline

variable {σ τ : Type} {p : Pipeline σ τ} {contents : σ → List StoredRecord} {sound : σ → Prop} {s : Shared σ τ}
  {records : List Record} {moves : List Nat}

def withUrl (records : List Record) : List Record := records.filter fun r => !r.hasBlankUrl

/-- How many records a rehearsal stores: all that have a URL, or one of each URL. -/
def rehearsedStored (dropDuplicates : Bool) (records : List Record) : Nat :=
  if dropDuplicates then ((withUrl records).map Record.url).dedup.length else (withUrl records).length

/-- What a rehearsal counts. -/
def rehearsed (dropDuplicates : Bool) (records : List Record) : Counters where
  processed := records.length
  stored := rehearsedStored dropDuplicates records
  duplicatesSkipped := (withUrl records).length - rehearsedStored dropDuplicates records
  errors := records.countP Record.hasBlankUrl

theorem rehearsed_of_named {records : List Record} (named : ∀ r ∈ records, r.hasBlankUrl = false)
    (dropDuplicates : Bool) :
    let stored := if dropDuplicates then (records.map Record.url).dedup.length else records.length
    rehearsed dropDuplicates records =
      { processed := records.length, stored := stored, duplicatesSkipped := records.length - stored } := by
  have all : withUrl records = records := List.filter_eq_self.2 fun r member => by simp [named r member]
  have none_failed : records.countP Record.hasBlankUrl = 0 :=
    List.countP_eq_zero.2 fun r member => by simp [named r member]
  intro stored
  rw [rehearsed, rehearsedStored, all, none_failed]

/-- A new pipeline over an empty store that does not fail, with a translator that changes nothing. -/
structure Rehearses (p : Pipeline σ τ) (contents : σ → List StoredRecord) (sound : σ → Prop) (s : Shared σ τ) :
    Prop where
  law : p.store.Lawful contents
  reliable : p.store.Reliable sound
  echo : p.translator.Answers echoed
  holds : sound s.store
  empty : contents s.store = []
  free : s.inFlight = []
  counters : s.counters = {}

theorem Unchanged.isTranslated {r x : Record} (unchanged : Unchanged r x) : x.isTranslated = true := by
  rw [Record.isTranslated, unchanged.1, unchanged.2]
  rfl

theorem Plan.isTranslated_echoed (plan : Plan) (r : Record) : (plan.translated echoed r).isTranslated = true := by
  unfold Plan.translated
  split
  · exact (plan.separately_echoed r).isTranslated
  · simp only [Plan.unpacked, echoed, heard]
    split
    · rfl
    · exact (plan.separately_echoed r).isTranslated

/-- What can become of a record in a rehearsal. -/
def Ends (p : Pipeline σ τ) (r : Record) (o : Outcome) : Prop :=
  r.hasBlankUrl = true ∧ o = .error (.noUrl r.title) ∨
  r.hasBlankUrl = false ∧ (p.dropDuplicates = true ∧ o = .ok none ∨ o = .ok (some (product p echoed r)))

theorem Ends.isFailed {r : Record} {o : Outcome} (ends : Ends p r o) : o.isFailed = r.hasBlankUrl := by
  rcases ends with ⟨blank, rfl⟩ | ⟨named, ⟨_, rfl⟩ | rfl⟩
  · exact blank.symm
  · exact named.symm
  · exact named.symm

theorem Ends.untranslated? {r : Record} {o : Outcome} (ends : Ends p r o) : o.untranslated? p.plan = none := by
  unfold Outcome.untranslated?
  split
  · rfl
  · rename_i planned
    rcases ends with ⟨_, rfl⟩ | ⟨_, ⟨_, rfl⟩ | rfl⟩
    · rfl
    · rfl
    · obtain ⟨plan, planned⟩ := Option.ne_none_iff_exists'.1 planned
      have translated : (product p echoed r).isTranslated = true := by
        rw [product, planned]
        exact plan.isTranslated_echoed _
      simp [Outcome.kept?, Option.filter, translated]

theorem countP_of_forall₂ {α β : Type} {R : α → β → Prop} {f : α → Bool} {g : β → Bool}
    (same : ∀ a b, R a b → g b = f a) {as : List α} {bs : List β} (related : List.Forall₂ R as bs) :
    bs.countP g = as.countP f := by
  induction related with
  | nil => rfl
  | cons here _ ih => rw [List.countP_cons, List.countP_cons, ih, same _ _ here]

theorem World.mem_kept {w : World σ τ} (done : w.isDone = true) {r : Record} :
    r ∈ w.outcomes.filterMap Outcome.kept? ↔ ∃ n, w.outcome? n = some (.ok (some r)) := by
  simp only [← World.getElem?_outcomes done, ← List.mem_iff_getElem?, List.mem_filterMap, Outcome.kept?_eq_some,
    exists_eq_right]

namespace Rehearses

variable (rehearses : Rehearses p contents sound s)

include rehearses in
theorem ends (done : ((World.ofRecords s records).run p moves).isDone = true) {n : Nat} {r : Record}
    (given : records[n]? = some r) :
    ∃ o, ((World.ofRecords s records).run p moves).outcome? n = some o ∧ Ends p r o := by
  obtain ⟨i, found⟩ := World.run_present p s moves given
  obtain ⟨r', given', faithful⟩ := World.run_faithful rehearses.echo found
  obtain rfl := Option.some.inj (given.symm.trans given')
  have unfailed := (World.run_unfailed rehearses.reliable s rehearses.holds records moves).items n i found
  obtain ⟨x, o, rfl⟩ := World.finished_of_isDone done found
  refine ⟨o, World.outcome?_of_item found, ?_⟩
  rcases o with e | _ | y
  · rcases faithful with ⟨blank, rfl⟩ | ⟨_, cause, rfl⟩
    · exact .inl ⟨blank, rfl⟩
    · exact absurd True.intro unfailed
  · obtain ⟨named, strict⟩ := faithful
    exact .inr ⟨named, .inl ⟨strict, rfl⟩⟩
  · obtain ⟨named, rfl⟩ := faithful
    exact .inr ⟨named, .inr rfl⟩

include rehearses in
theorem forall₂_ends (done : ((World.ofRecords s records).run p moves).isDone = true) :
    List.Forall₂ (Ends p) records ((World.ofRecords s records).run p moves).outcomes := by
  rw [List.forall₂_iff_get]
  refine ⟨?_, ?_⟩
  · rw [World.length_outcomes done, World.run_length, World.ofRecords, List.length_map]
  · intro n inside inside'
    obtain ⟨o, ended, ends⟩ := rehearses.ends done (List.getElem?_eq_getElem inside)
    rw [← World.getElem?_outcomes done, List.getElem?_eq_getElem inside'] at ended
    cases ended
    exact ends

include rehearses in
theorem added (done : ((World.ofRecords s records).run p moves).isDone = true) :
    let w := (World.ofRecords s records).run p moves
    ((contents w.shared.store).map StoredRecord.record).Perm (w.outcomes.filterMap Outcome.kept?) := by
  obtain ⟨added, whole, perm⟩ := World.run_kept rehearses.law done
  rw [rehearses.empty, List.nil_append] at whole
  rwa [← whole] at perm

include rehearses in
/-- The URLs that are stored in the end are those of the records that have one. -/
theorem mem_urls (done : ((World.ofRecords s records).run p moves).isDone = true) (url : String) :
    url ∈ Store.urls (contents ((World.ofRecords s records).run p moves).shared.store) ↔
      ∃ r ∈ records, r.hasBlankUrl = false ∧ r.url = url := by
  have perm := rehearses.added done
  constructor
  · intro stored
    obtain ⟨row, member, rfl⟩ := List.mem_map.1 stored
    obtain ⟨n, ended⟩ := (World.mem_kept done).1 (perm.mem_iff.1 (List.mem_map_of_mem member))
    obtain ⟨x, found⟩ := World.outcome?_eq_some.1 ended
    obtain ⟨r, given, _⟩ := World.run_url found
    obtain ⟨o, ended', ends⟩ := rehearses.ends done given
    cases ended.symm.trans ended'
    rcases ends with ⟨_, failed⟩ | ⟨named, ⟨_, dropped⟩ | kept⟩
    · cases failed
    · cases dropped
    · have same : row.record = product p echoed r := Option.some.inj (Except.ok.inj kept)
      exact ⟨r, List.mem_of_getElem? given, named, by rw [StoredRecord.url, same, product_url]⟩
  · rintro ⟨r, member, named, rfl⟩
    obtain ⟨n, given⟩ := List.mem_iff_getElem?.1 member
    obtain ⟨o, ended, ends⟩ := rehearses.ends done given
    rcases ends with ⟨blank, _⟩ | ⟨_, ⟨strict, rfl⟩ | rfl⟩
    · cases blank.symm.trans named
    · have opens : Opens p contents [] s :=
        ⟨rehearses.law, strict, rehearses.free, rehearses.counters, rehearses.empty⟩
      exact opens.mem_urls ⟨done, World.history_unfailed rehearses.reliable rehearses.holds records moves⟩ member named
    · obtain ⟨row, stored, same⟩ := List.mem_map.1 (perm.mem_iff.2 ((World.mem_kept done).2 ⟨n, ended⟩))
      refine List.mem_map.2 ⟨row, stored, ?_⟩
      rw [StoredRecord.url, same, product_url]

include rehearses in
theorem nodup_urls (strict : p.dropDuplicates = true) (records : List Record) (moves : List Nat) :
    (Store.urls (contents ((World.ofRecords s records).run p moves).shared.store)).Nodup := by
  have d := World.run_deduplicated rehearses.law strict s rehearses.free records moves
  rw [rehearses.empty] at d
  obtain ⟨added, whole, nodup, _⟩ := d.once
  have same : contents ((World.ofRecords s records).run p moves).shared.store = added := whole
  rwa [same]

include rehearses in
theorem countP_isKept (done : ((World.ofRecords s records).run p moves).isDone = true) :
    ((World.ofRecords s records).run p moves).outcomes.countP Outcome.isKept =
      rehearsedStored p.dropDuplicates records := by
  unfold rehearsedStored
  split
  · rename_i strict
    have rows := (rehearses.added done).length_eq
    rw [List.length_map, Outcome.length_kept] at rows
    have distinct : (Store.urls (contents ((World.ofRecords s records).run p moves).shared.store)).Perm
        ((withUrl records).map Record.url).dedup := by
      rw [List.perm_ext_iff_of_nodup (rehearses.nodup_urls strict records moves) (List.nodup_dedup _)]
      intro url
      simp [rehearses.mem_urls done, withUrl, and_assoc]
    have urls := distinct.length_eq
    rw [Store.urls, List.length_map] at urls
    exact rows.symm.trans urls
  · rename_i loose
    rw [withUrl, ← List.countP_eq_length_filter]
    refine countP_of_forall₂ (fun r o ends => ?_) (rehearses.forall₂_ends done)
    rcases ends with ⟨blank, rfl⟩ | ⟨named, ⟨strict, _⟩ | rfl⟩
    · simp [Outcome.isKept, blank]
    · exact absurd strict loose
    · simp [Outcome.isKept, named]

include rehearses in
theorem counters_eq (done : ((World.ofRecords s records).run p moves).isDone = true) :
    ((World.ofRecords s records).run p moves).shared.counters = rehearsed p.dropDuplicates records := by
  have related := rehearses.forall₂_ends done
  have stored := rehearses.countP_isKept done
  rw [World.run_counters rehearses.reliable rehearses.holds done, rehearses.counters]
  generalize ((World.ofRecords s records).run p moves).outcomes = outcomes at *
  have length := related.length_eq
  have failed : outcomes.countP Outcome.isFailed = records.countP Record.hasBlankUrl :=
    countP_of_forall₂ (fun _ _ ends => ends.isFailed) related
  have translated : (outcomes.filterMap (Outcome.untranslated? p.plan)).length = 0 := by
    rw [List.length_filterMap_eq_countP]
    refine (countP_of_forall₂ (f := fun _ => false) (fun r o ends => ?_) related).trans (by simp)
    rw [ends.untranslated?]
    rfl
  have all := Outcome.length_eq outcomes
  have split : records.length = records.countP Record.hasBlankUrl + (withUrl records).length := by
    rw [withUrl, ← List.countP_eq_length_filter]
    simpa using List.length_eq_countP_add_countP Record.hasBlankUrl (l := records)
  rw [Counters.after, rehearsed, Counters.mk.injEq]
  refine ⟨?_, ?_, ?_, ?_, ?_⟩
  all_goals simp only [Nat.zero_add]
  all_goals omega

include rehearses in
theorem runAll_eq (concurrency : Nat) (records : List Record) :
    (runAll p concurrency s records).1 = ⟨records.length, rehearsed p.dropDuplicates records⟩ ∧
    ∃ notes, (runAll p concurrency s records).2.1.log =
      notes ++ [closingNote p (rehearsed p.dropDuplicates records)] := by
  obtain ⟨entries, moves, _, done, summary, _⟩ := runAll_spec p concurrency s records
  have rehearses' : Rehearses { p with report := failureNotes } contents sound (s.note entries) :=
    ⟨rehearses.law, rehearses.reliable, rehearses.echo, rehearses.holds, rehearses.empty, rehearses.free,
      rehearses.counters⟩
  rw [rehearses'.counters_eq done] at summary
  have closed : ∃ notes, (runAll p concurrency s records).2.1.log =
      notes ++ [closingNote p (runAll p concurrency s records).1.counters] := ⟨_, rfl⟩
  rw [summary] at closed
  exact ⟨summary, closed⟩

end Rehearses

end Harvest.Pipeline
