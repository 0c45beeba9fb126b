import Harvest.Proofs.Pipeline.Ledger
import Harvest.Proofs.Pipeline.Release
import Mathlib.Data.List.Induction

/-!
Records that are started in order. Where the store does not fail, a record is dropped just where its URL was
stored to begin with or comes with an earlier record, whatever the order of all other steps.
-/

namespace Harvest.Pipeline

open Translation (Answer Call)

variable {σ τ : Type} {p : Pipeline σ τ} {contents : σ → List StoredRecord} {sound : σ → Prop}
  {f : Call → Answer}

/-- No index comes before all smaller ones have come. -/
def InOrder (moves : List Nat) : Prop :=
  ∀ before m after, moves = before ++ m :: after → ∀ k < m, k ∈ before

theorem inOrder_iff {moves : List Nat} :
    InOrder moves ↔ ∀ i : Fin moves.length, ∀ k < moves[i], k ∈ moves.take i := by
  constructor
  · intro o i
    exact o (moves.take i) moves[i] (moves.drop (i + 1)) (by simp)
  · rintro o before m after rfl k smaller
    simpa using o ⟨before.length, by simp⟩ k (by simpa using smaller)

instance : DecidablePred InOrder := fun _ => decidable_of_iff _ inOrder_iff.symm

namespace InOrder

variable {before : List Nat} {m : Nat}

theorem init (o : InOrder (before ++ [m])) : InOrder before := by
  intro first k rest same
  exact o first k (rest ++ [m]) (by rw [same, List.append_assoc, List.cons_append])

theorem lt_iff_mem (o : InOrder (before ++ [m])) (first : m ∉ before) (k : Nat) : k ∈ before ↔ k < m := by
  constructor
  · intro member
    apply Nat.lt_of_le_of_ne
    · rw [← Nat.not_lt]
      intro later
      obtain ⟨earlier, rest, same⟩ := List.append_of_mem member
      apply first
      rw [same]
      exact List.mem_append_left _ (o.init earlier k rest same m later)
    · rintro rfl
      exact first member
  · exact o before m [] rfl k

theorem concat {moves : List Nat} (o : InOrder moves) (all : ∀ k < m, k ∈ moves) : InOrder (moves ++ [m]) := by
  intro first n rest same k smaller
  rcases List.eq_nil_or_concat rest with rfl | ⟨rest, last, rfl⟩
  · obtain ⟨rfl, single⟩ := List.append_inj' same rfl
    obtain rfl := List.singleton_inj.1 single
    exact all k smaller
  · rw [List.concat_eq_append, ← List.cons_append, ← List.append_assoc] at same
    exact o first n rest (List.append_inj' same rfl).1 k smaller

theorem append_replicate {moves : List Nat} (o : InOrder moves) (all : ∀ k < m, k ∈ moves) (times : Nat) :
    InOrder (moves ++ List.replicate times m) := by
  induction times with
  | zero => simpa using o
  | succ times ih =>
    rw [List.replicate_succ', ← List.append_assoc]
    exact ih.concat fun k smaller => List.mem_append_left _ (all k smaller)

theorem all_of_mem {moves : List Nat} (o : InOrder moves) (member : m ∈ moves) : ∀ k < m, k ∈ moves := by
  intro k smaller
  obtain ⟨first, rest, rfl⟩ := List.append_of_mem member
  exact List.mem_append_left _ (o first m rest rfl k smaller)

theorem of_sorted {moves : List Nat} (sorted : moves.Pairwise (· ≤ ·))
    (all : ∀ m ∈ moves, ∀ k < m, k ∈ moves) : InOrder moves := by
  rintro before m after rfl k smaller
  rcases List.mem_append.1 (all m (by simp) k smaller) with member | member
  · exact member
  · have least := (List.pairwise_cons.1 (List.pairwise_append.1 sorted).2.1).1
    rcases List.mem_cons.1 member with rfl | later
    · exact absurd smaller (Nat.lt_irrefl k)
    · exact absurd (least k later) (Nat.not_le.2 smaller)

end InOrder

theorem Effect.begun {b b' : Books σ} {i i' : Item} (effect : Effect p b i b' i') : i'.stage ≠ .arrived := by
  have ongoing {i : Item} (translating : i.stage.isTranslating = true) : i.stage ≠ .arrived := by
    intro arrived
    rw [arrived] at translating
    cases translating
  cases effect with
  | enter | fresh =>
    exact firstStage_elim (fun stage => stage ≠ .arrived) Stage.noConfusion
      (fun stage translating arrived => by simp [arrived, Stage.isTranslating] at translating) p.plan
  | work planned work => exact ongoing work.isTranslating.2
  | _ => exact Stage.noConfusion

/-- In every run the records that have not begun are those that were never moved. -/
theorem World.run_arrived {s : Shared σ τ} {records : List Record} {moves : List Nat} {n : Nat} {i : Item}
    (found : ((ofRecords s records).run p moves).items[n]? = some i) : i.stage = .arrived ↔ n ∉ moves := by
  induction moves using List.reverseRecOn generalizing i with
  | nil =>
    obtain ⟨r, _, rfl⟩ := getElem?_arrived found
    simp
  | append_singleton before m ih =>
    rw [run_concat] at found
    by_cases same : m = n
    · subst same
      refine iff_of_false ?_ (by simp)
      have inside := (List.getElem?_eq_some_iff.1 found).1
      rw [← run_concat, run_length, ← run_length p _ before] at inside
      have here := List.getElem?_eq_getElem inside
      obtain rfl := Option.some.inj (found.symm.trans (move_here here))
      generalize ((ofRecords s records).run p before).items[m] = j
      by_cases unfinished : j.outcome? = none
      · exact (step_effect p _ j unfinished).begun
      · obtain ⟨r, stage⟩ := j
        cases stage with
        | finished o => exact Stage.noConfusion
        | _ => exact absurd rfl unfinished
    · rw [move_other same] at found
      rw [ih found, List.mem_append, List.mem_singleton]
      simp [Ne.symm same]

theorem World.run_untouched (p : Pipeline σ τ) (s : Shared σ τ) {records : List Record} {moves : List Nat} {n : Nat}
    {r : Record} (given : records[n]? = some r) (idle : n ∉ moves) :
    ((ofRecords s records).run p moves).items[n]? = some ⟨r, .arrived⟩ := by
  obtain ⟨⟨x, stage⟩, found⟩ := run_present p s moves given
  obtain rfl : stage = .arrived := (run_arrived found).2 idle
  obtain ⟨r', given', same⟩ := run_item (fun r i => i.stage = .arrived → i.record = r) (fun _ _ => rfl)
    (fun _ effect arrived => absurd arrived effect.begun) found
  obtain rfl := Option.some.inj (given.symm.trans given')
  rw [found, ← same rfl]

/-- The URLs that are stored to begin with, and those of the records before the one with index `n`. -/
def seen (rows : List StoredRecord) (records : List Record) (n : Nat) : List String :=
  Store.urls rows ++ (records.take n).map Record.url

theorem mem_seen {rows : List StoredRecord} {records : List Record} {n : Nat} {url : String} :
    url ∈ seen rows records n ↔
      url ∈ Store.urls rows ∨ ∃ k r, k < n ∧ records[k]? = some r ∧ r.url = url := by
  rw [seen, List.mem_append, List.mem_map]
  refine or_congr_right ?_
  constructor
  · rintro ⟨r, member, same⟩
    obtain ⟨k, found⟩ := List.mem_iff_getElem?.1 member
    rw [List.getElem?_take] at found
    split at found
    · rename_i earlier
      exact ⟨k, r, earlier, found, same⟩
    · cases found
  · rintro ⟨k, r, earlier, found, same⟩
    refine ⟨r, List.mem_iff_getElem?.2 ⟨k, ?_⟩, same⟩
    rw [List.getElem?_take, if_pos earlier, found]

/-- A record that is looked up finds its URL just if it was seen, and what was looked up is decided. -/
def Item.OnTrack (i : Item) (stored seen : List String) : Prop :=
  match i.stage with
  | .arrived => True
  | .looking => i.record.url ∈ stored ↔ i.record.url ∈ seen
  | _ => i.Decided (i.record.url ∈ seen)

theorem Item.Decided.onTrack {i : Item} {seen : List String} (h : i.Decided (i.record.url ∈ seen))
    (stored : List String) : i.OnTrack stored seen := by
  obtain ⟨r, stage⟩ := i
  cases stage with
  | arrived | looking => exact False.elim h
  | _ => exact h

theorem Item.OnTrack.append {i : Item} {stored seen : List String} (h : i.OnTrack stored seen) {url : String}
    (apart : i.claim? ≠ some url) : i.OnTrack (stored ++ [url]) seen := by
  obtain ⟨r, stage⟩ := i
  cases stage with
  | looking =>
    have other : r.url ≠ url := fun same => apart (same ▸ rfl)
    simp only [Item.OnTrack, List.mem_append, List.mem_singleton, other, or_false] at h ⊢
    exact h
  | _ => exact h

theorem Effect.entry (strict : p.dropDuplicates = true) {b b' : Books σ} {r : Record} {i' : Item}
    (named : r.hasBlankUrl = false) (effect : Effect p b ⟨r, .arrived⟩ b' i') : b'.store = b.store ∧
      (r.url ∈ b.claims ∧ i' = ⟨r, .finished (.ok none)⟩ ∨ r.url ∉ b.claims ∧ i' = ⟨r, .looking⟩) := by
  cases effect with
  | reject blank => simp [blank] at named
  | enter named free => simp [strict] at free
  | collide named strict taken => exact ⟨rfl, .inl ⟨taken, rfl⟩⟩
  | claim named strict untaken => exact ⟨rfl, .inr ⟨untaken, rfl⟩⟩
  | work planned work => cases work
  | ready planned ready => cases ready
  | unplanned plain asked => cases asked

theorem Effect.onTrack_look (law : p.store.Lawful contents) (reliable : p.store.Reliable sound)
    {b b' : Books σ} {r : Record} {i' : Item} {seen : List String} (holds : sound b.store)
    (track : r.url ∈ Store.urls (contents b.store) ↔ r.url ∈ seen)
    (effect : Effect p b ⟨r, .looking⟩ b' i') : i'.Decided (i'.record.url ∈ seen) := by
  cases effect with
  | look =>
    obtain ⟨found, answer⟩ := reliable.find_ok r.url holds
    rw [answer, ← track]
    exact looked_decided law answer
  | work planned work => cases work
  | ready planned ready => cases ready
  | unplanned plain asked => cases asked

theorem Item.Faithful.stored {i : Item} {r x : Record} (h : i.Faithful p f r) (stored : i.stored? = some x) :
    r.hasBlankUrl = false ∧ x = product p f r := by
  obtain ⟨y, stage⟩ := i
  cases stage with
  | saved answer =>
    rcases answer with e | row
    · cases stored
    · obtain rfl := Option.some.inj stored
      obtain ⟨named, same⟩ := h
      exact ⟨named, same ▸ (due_eq_record p f rfl).symm⟩
  | finished o =>
    rcases o with e | _ | x
    · cases stored
    · cases stored
    · obtain rfl := Option.some.inj stored
      exact h
  | _ => cases stored

namespace World

variable (law : p.store.Lawful contents) (strict : p.dropDuplicates = true)
  (reliable : p.store.Reliable sound) (answers : p.translator.Answers f) {s : Shared σ τ}
  (holds : sound s.store) (free : s.inFlight = []) {records : List Record} {moves : List Nat}

include law answers in
theorem run_source {url : String}
    (stored : url ∈ Store.urls (contents ((ofRecords s records).run p moves).shared.store)) :
    url ∈ Store.urls (contents s.store) ∨ ∃ k r, k ∈ moves ∧ records[k]? = some r ∧ r.url = url := by
  obtain ⟨added, whole, perm⟩ := run_added law s records moves
  rw [whole, Store.urls_append, List.mem_append] at stored
  refine stored.imp_right fun more => ?_
  obtain ⟨row, member, rfl⟩ := List.mem_map.1 more
  obtain ⟨i, present, saved⟩ := List.mem_filterMap.1 (perm.mem_iff.1 (List.mem_map_of_mem member))
  obtain ⟨k, found⟩ := List.mem_iff_getElem?.1 present
  obtain ⟨r, given, faithful⟩ := run_faithful answers found
  refine ⟨k, r, ?_, given, ?_⟩
  · by_cases moved : k ∈ moves
    · exact moved
    · have arrived := (run_arrived found).2 moved
      rw [Item.stored?, arrived] at saved
      cases saved
  · rw [StoredRecord.url, (faithful.stored saved).2, product_url]

include law strict reliable answers holds free in
/-- When a record begins in its turn, its URL is claimed or stored just if it was seen. -/
theorem seen_at_entry {before : List Nat} {m : Nat} {r : Record} (inOrder : InOrder (before ++ [m]))
    (arrived : ((ofRecords s records).run p before).items[m]? = some ⟨r, .arrived⟩)
    (named : r.hasBlankUrl = false) :
    let w := (ofRecords s records).run p before
    r.url ∈ seen (contents s.store) records m ↔
      r.url ∈ w.shared.inFlight ∨ r.url ∈ Store.urls (contents w.shared.store) := by
  intro w
  have d : Deduplicated contents (contents s.store) w.shared.books w.items :=
    run_deduplicated law strict s free records before
  have earlier := inOrder.lt_iff_mem ((run_arrived arrived).1 rfl)
  rw [mem_seen]
  constructor
  · rintro (stored | ⟨k, x, smaller, given, same⟩)
    · right
      obtain ⟨added, whole, _⟩ := d.once
      rw [show contents w.shared.store = _ from whole, Store.urls_append]
      exact List.mem_append_left _ stored
    · obtain ⟨i, found⟩ := run_present p s before given
      obtain ⟨x', given', alike⟩ := run_url found
      obtain rfl := Option.some.inj (given.symm.trans given')
      rcases d.settled k i found with arrived | stored | claimed | ⟨q, y, e, failed, with_url⟩
      · exact absurd ((earlier k).2 smaller) ((run_arrived found).1 arrived)
      · exact .inr (same ▸ alike ▸ stored)
      · exact .inl (same ▸ alike ▸ claimed)
      · -- the earlier record has a URL, so only the store could have failed it
        exfalso
        obtain ⟨z, origin, faithful⟩ := run_faithful answers failed
        have unfailed := (run_unfailed reliable s holds records before).items q _ failed
        rcases faithful with ⟨blank, _⟩ | ⟨_, cause, rfl⟩
        · obtain ⟨z', origin', url⟩ := run_url failed
          obtain rfl := Option.some.inj (origin.symm.trans origin')
          have alike : z.url = r.url := url.symm.trans (with_url.trans (alike.trans same))
          have named : z.hasBlankUrl = false := (congrArg Text.isBlankText alike).trans named
          simp [named] at blank
        · exact unfailed True.intro
  · rintro (claimed | stored)
    · right
      obtain ⟨k, i, found, held⟩ := d.exclusive.mem_iff.1 claimed
      obtain ⟨x, given, alike⟩ := run_url found
      refine ⟨k, x, ?_, given, alike.symm.trans (Item.claim?_eq_some held)⟩
      rw [← earlier k]
      by_cases moved : k ∈ before
      · exact moved
      · have idle := (run_arrived found).2 moved
        rw [Item.claim?, idle] at held
        cases held
    · refine (run_source law answers stored).imp_right ?_
      rintro ⟨k, x, moved, given, same⟩
      exact ⟨k, x, (earlier k).1 moved, given, same⟩

include law strict reliable answers holds free in
/-- In every run that starts its records in order, all of them are on track. -/
theorem run_onTrack (inOrder : InOrder moves) {n : Nat} {i : Item}
    (found : ((ofRecords s records).run p moves).items[n]? = some i)
    (named : i.record.hasBlankUrl = false) :
    i.OnTrack (Store.urls (contents ((ofRecords s records).run p moves).shared.store))
      (seen (contents s.store) records n) := by
  -- on the last move, since whether it comes in its turn depends on all moves before it
  induction moves using List.reverseRecOn generalizing n i with
  | nil =>
    obtain ⟨r, _, rfl⟩ := getElem?_arrived found
    exact True.intro
  | append_singleton before m ih =>
    replace ih {n : Nat} {i : Item} := ih inOrder.init (n := n) (i := i)
    rw [run_concat] at found ⊢
    have d : Deduplicated contents (contents s.store) ((ofRecords s records).run p before).shared.books
        ((ofRecords s records).run p before).items := run_deduplicated law strict s free records before
    have sound := (run_unfailed reliable s holds records before).store
    have entry {r : Record} (arrived : ((ofRecords s records).run p before).items[m]? = some ⟨r, .arrived⟩) :=
      seen_at_entry law strict reliable answers holds free inOrder arrived
    generalize (ofRecords s records).run p before = w at ih found d sound entry ⊢
    rcases move_cases p w m with same | ⟨j, j', here, unfinished, items, effect⟩
    · rw [same] at found ⊢
      exact ih found named
    · rw [items] at found
      rcases set_cases found with ⟨rfl, rfl⟩ | ⟨other, there⟩
      · have named : j.record.hasBlankUrl = false := (congrArg Text.isBlankText effect.url).symm.trans named
        have track := ih here named
        obtain ⟨r, stage⟩ := j
        cases stage with
        | arrived =>
          specialize entry here named
          obtain ⟨store, ⟨claimed, rfl⟩ | ⟨free, rfl⟩⟩ := effect.entry strict named
          · exact iff_of_true rfl (entry.2 (.inl claimed))
          · have store : (w.move p n).shared.store = w.shared.store := store
            simp only [Item.OnTrack, store]
            exact ⟨fun stored => entry.2 (.inr stored), fun known => (entry.1 known).resolve_left free⟩
        | looking => exact (effect.onTrack_look law reliable sound track).onTrack _
        | _ =>
          refine Item.Decided.onTrack ?_ _
          rw [effect.url]
          exact effect.decided track
      · have track := ih there named
        rcases effect.appends law with ⟨same, _⟩ | ⟨row, saving, same, more, _⟩
        · have same : contents (w.move p m).shared.store = contents w.shared.store := same
          rwa [same]
        · have more : contents (w.move p m).shared.store = contents w.shared.store ++ [row] := more
          rw [more, Store.urls_append]
          apply track.append
          intro held
          exact other (d.exclusive.unique there here held (Item.claim?_of_saving saving same))

end World

end Harvest.Pipeline
