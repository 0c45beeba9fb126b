import Harvest.Proofs.Pipeline.Enrichment
import Harvest.Proofs.Pipeline.History

/-!
What the books of a run add up to: the counters count the outcomes of the records, and the records that were
appended are those that count as stored.
-/

namespace Harvest.Pipeline

variable {σ τ : Type} {p : Pipeline σ τ} {contents : σ → List StoredRecord} {sound : σ → Prop}

namespace Outcome

def isKept : Outcome → Bool
  | .ok (some _) => true
  | _ => false

def isDropped : Outcome → Bool
  | .ok none => true
  | _ => false

def isFailed : Outcome → Bool
  | .error _ => true
  | _ => false

end Outcome

def Counters.settle (c : Counters) : Outcome → Counters
  | .ok none => c.duplicate.finish (.ok none)
  | o => c.finish o

/-- A step counts the outcome that it leads to, or at most an incomplete translation. -/
theorem Effect.counters {b b' : Books σ} {i i' : Item} (effect : Effect p b i b' i') :
    (∃ o, i'.outcome? = some o ∧ b'.counters = b.counters.settle o) ∨
    i'.outcome? = none ∧ (b'.counters = b.counters ∨ b'.counters = b.counters.untranslated) := by
  have begun (r : Record) : (⟨r, firstStage p.plan⟩ : Item).outcome? = none :=
    firstStage_elim (fun stage => (⟨r, stage⟩ : Item).outcome? = none) rfl
      (fun _ translating => Item.outcome?_of_isTranslating translating) p.plan
  cases effect with
  | reject | collide | lookFailed | known | saveFailed | keep => exact .inl ⟨_, rfl, rfl⟩
  | enter | fresh => exact .inr ⟨begun _, .inl rfl⟩
  | claim | look | unplanned | save => exact .inr ⟨rfl, .inl rfl⟩
  | work planned work => exact .inr ⟨Item.outcome?_of_isTranslating work.isTranslating.2, .inl rfl⟩
  | @ready plan i r planned ready =>
    refine .inr ⟨rfl, ?_⟩
    cases r.isTranslated
    · exact .inr rfl
    · exact .inl rfl

/-- The counters `c` are those of `c₀` and of outcomes since then. -/
structure Counted (c₀ c : Counters) (outcomes : List Outcome) : Prop where
  processed : c.processed = c₀.processed + outcomes.length
  stored : c.stored = c₀.stored + outcomes.countP Outcome.isKept
  duplicatesSkipped : c.duplicatesSkipped = c₀.duplicatesSkipped + outcomes.countP Outcome.isDropped
  errors : c.errors = c₀.errors + outcomes.countP Outcome.isFailed

namespace Counted

variable {c₀ c : Counters} {outcomes more : List Outcome}

theorem perm (h : Counted c₀ c outcomes) (same : outcomes.Perm more) : Counted c₀ c more where
  processed := by rw [← same.length_eq, h.processed]
  stored := by rw [← same.countP_eq, h.stored]
  duplicatesSkipped := by rw [← same.countP_eq, h.duplicatesSkipped]
  errors := by rw [← same.countP_eq, h.errors]

theorem settle (h : Counted c₀ c outcomes) (o : Outcome) : Counted c₀ (c.settle o) (o :: outcomes) := by
  obtain ⟨processed, stored, duplicates, errors⟩ := h
  rcases o with f | _ | r <;> constructor <;>
    simp [Counters.settle, Counters.finish, Counters.kept, Counters.dropped, Counters.failed,
      Counters.duplicate, List.countP_cons, Outcome.isKept, Outcome.isDropped, Outcome.isFailed, processed,
      stored, duplicates, errors, Nat.add_assoc]

end Counted

namespace World

theorem run_counted (p : Pipeline σ τ) (s : Shared σ τ) (records : List Record) (moves : List Nat) :
    Counted s.counters ((ofRecords s records).run p moves).shared.counters
      (((ofRecords s records).run p moves).items.filterMap Item.outcome?) := by
  refine run_keeps (p := p) (fun b items => Counted s.counters b.counters (items.filterMap Item.outcome?))
    ?_ (ofRecords s records) ?_
  · intro b items n i b' i' _ counted found unfinished effect
    obtain ⟨rest, before, after⟩ := filterMap_set_perm Item.outcome? found
    rw [unfinished] at before
    rcases effect.counters with ⟨o, ended, counters⟩ | ⟨ongoing, counters⟩
    · rw [counters]
      have all := after i'
      rw [ended] at all
      exact ((counted.perm before).settle o).perm all.symm
    · have same := after i'
      rw [ongoing] at same
      have counted := (counted.perm before).perm same.symm
      rcases counters with same | more
      · rwa [same]
      · rw [more]
        exact ⟨counted.processed, counted.stored, counted.duplicatesSkipped, counted.errors⟩
  · rw [ofRecords, filterMap_arrived fun _ => rfl]
    exact ⟨rfl, rfl, rfl, rfl⟩

/-- What a run appended are the records that count as stored. -/
theorem run_added (law : p.store.Lawful contents) (s : Shared σ τ) (records : List Record)
    (moves : List Nat) :
    ∃ added, contents ((ofRecords s records).run p moves).shared.store = contents s.store ++ added ∧
      (added.map StoredRecord.record).Perm
        (((ofRecords s records).run p moves).items.filterMap Item.stored?) :=
  ⟨_, run_rows law _ moves, run_saved p s records moves⟩

end World

def Item.Failed (i : Item) : Prop :=
  match i.stage with
  | .looked (.error _) | .saved (.error _) | .finished (.error (.store _)) => True
  | _ => False

theorem Item.not_failed_of_isTranslating {i : Item} (h : i.stage.isTranslating = true) : ¬i.Failed := by
  obtain ⟨r, stage⟩ := i
  cases stage <;> first | exact id | cases h

theorem firstStage_not_failed (r : Record) (plan : Option Plan) : ¬(⟨r, firstStage plan⟩ : Item).Failed :=
  firstStage_elim (fun stage => ¬(⟨r, stage⟩ : Item).Failed) id
    (fun _ translating => Item.not_failed_of_isTranslating translating) plan

theorem Effect.unfailed (reliable : p.store.Reliable sound) {b b' : Books σ} {i i' : Item}
    (effect : Effect p b i b' i') (holds : sound b.store) (unfailed : ¬i.Failed) :
    sound b'.store ∧ ¬i'.Failed := by
  cases effect with
  | reject | collide | claim | known | keep => exact ⟨holds, id⟩
  | ready | unplanned => exact ⟨holds, id⟩
  | lookFailed | saveFailed => exact absurd True.intro unfailed
  | enter | fresh => exact ⟨holds, firstStage_not_failed _ _⟩
  | work planned work => exact ⟨holds, Item.not_failed_of_isTranslating work.isTranslating.2⟩
  | @look r =>
    refine ⟨reliable.find_sound r.url holds, ?_⟩
    obtain ⟨found, answer⟩ := reliable.find_ok r.url holds
    rw [answer]
    exact id
  | @save r row same =>
    refine ⟨reliable.append_sound row holds, ?_⟩
    rw [reliable.append_ok row holds]
    exact id

/-- The state of a pipeline whose store has failed no record. -/
structure Unfailed (sound : σ → Prop) (b : Books σ) (items : List Item) : Prop where
  store : sound b.store
  items : ∀ (n : Nat) (i : Item), items[n]? = some i → ¬i.Failed

namespace Unfailed

theorem start {b : Books σ} (holds : sound b.store) (records : List Record) :
    Unfailed sound b (records.map (⟨·, .arrived⟩)) where
  store := holds
  items n i found := by
    obtain ⟨r, _, rfl⟩ := getElem?_arrived found
    exact id

theorem keep (reliable : p.store.Reliable sound) {b b' : Books σ} {items : List Item} {n : Nat} {i i' : Item}
    (u : Unfailed sound b items) (found : items[n]? = some i) (effect : Effect p b i b' i') :
    Unfailed sound b' (items.set n i') := by
  obtain ⟨store, unfailed⟩ := effect.unfailed reliable u.store (u.items n i found)
  refine ⟨store, ?_⟩
  intro m j there
  rcases set_cases there with ⟨_, rfl⟩ | ⟨_, there⟩
  · exact unfailed
  · exact u.items m j there

end Unfailed

theorem World.run_unfailed (reliable : p.store.Reliable sound) (s : Shared σ τ) (holds : sound s.store)
    (records : List Record) (moves : List Nat) :
    Unfailed sound ((ofRecords s records).run p moves).shared.books
      ((ofRecords s records).run p moves).items :=
  run_keeps (Unfailed sound) (fun _ u found _ effect => u.keep reliable found effect) _
    (.start (b := s.books) holds records)

def Item.untranslated? (p : Pipeline σ τ) (i : Item) : Option Record :=
  if p.plan = none then none
  else
    match i.stage with
    | .saving | .saved _ => if i.record.isTranslated then none else some i.record
    | .finished (.ok (some r)) => if r.isTranslated then none else some r
    | _ => none

theorem Item.untranslated?_of_isTranslating {i : Item} (h : i.stage.isTranslating = true) :
    i.untranslated? p = none := by
  obtain ⟨r, stage⟩ := i
  unfold untranslated?
  split
  · rfl
  · cases stage <;> first | rfl | cases h

theorem firstStage_untranslated? (r : Record) : (⟨r, firstStage p.plan⟩ : Item).untranslated? p = none := by
  cases plan : p.plan with
  | none => exact if_pos plan
  | some q => exact Item.untranslated?_of_isTranslating (firstStage_isTranslating q)

/-- A step counts the record that it leaves without a complete translation, unless the store fails it later. -/
theorem Effect.untranslated {b b' : Books σ} {i i' : Item} (effect : Effect p b i b' i')
    (unfailed : ¬i.Failed) :
    b'.counters.translationFailures = b.counters.translationFailures ∧ i'.untranslated? p = i.untranslated? p ∨
    b'.counters.translationFailures = b.counters.translationFailures + 1 ∧ i.untranslated? p = none ∧
      ∃ r, i'.untranslated? p = some r := by
  cases effect with
  | reject | collide | claim | look | known => exact .inl ⟨rfl, rfl⟩
  | keep => exact .inl ⟨rfl, rfl⟩
  | lookFailed | saveFailed => exact absurd True.intro unfailed
  | enter | fresh =>
    refine .inl ⟨rfl, ?_⟩
    rw [firstStage_untranslated?, Item.untranslated?]
    split <;> rfl
  | work planned work =>
    obtain ⟨before, after⟩ := work.isTranslating
    refine .inl ⟨rfl, ?_⟩
    rw [Item.untranslated?_of_isTranslating before, Item.untranslated?_of_isTranslating after]
  | @ready plan i r planned ready =>
    rw [Item.untranslated?_of_isTranslating ready.isTranslating]
    cases translated : r.isTranslated with
    | true => exact .inl ⟨rfl, by simp [Item.untranslated?, translated]⟩
    | false => exact .inr ⟨rfl, rfl, r, by simp [Item.untranslated?, planned, translated]⟩
  | unplanned plain asked =>
    refine .inl ⟨rfl, ?_⟩
    rw [Item.untranslated?, Item.untranslated?, if_pos plain, if_pos plain]
  | save => exact .inl ⟨rfl, rfl⟩

namespace World

theorem run_untranslated (reliable : p.store.Reliable sound) (s : Shared σ τ) (holds : sound s.store)
    (records : List Record) (moves : List Nat) :
    ((ofRecords s records).run p moves).shared.counters.translationFailures =
      s.counters.translationFailures +
        (((ofRecords s records).run p moves).items.filterMap (Item.untranslated? p)).length := by
  refine (run_keeps (p := p) (fun b items => Unfailed sound b items ∧
    b.counters.translationFailures = s.counters.translationFailures +
      (items.filterMap (Item.untranslated? p)).length) ?_ (ofRecords s records) ?_).2
  · rintro b items n i b' i' _ ⟨unfailed, count⟩ found _ effect
    refine ⟨unfailed.keep reliable found effect, ?_⟩
    obtain ⟨rest, before, after⟩ := filterMap_set_perm (Item.untranslated? p) found
    rw [before.length_eq, List.length_append] at count
    rw [(after i').length_eq, List.length_append]
    rcases effect.untranslated (unfailed.items n i found) with ⟨counter, same⟩ | ⟨counter, none, r, some⟩
    · rw [counter, same, count]
    · rw [none] at count
      rw [counter, some, count]
      simp only [Option.toList_none, Option.toList_some, List.length_nil, List.length_singleton]
      omega
  · refine ⟨.start (b := s.books) holds records, ?_⟩
    rw [ofRecords, filterMap_arrived]
    · rfl
    · intro r
      rw [Item.untranslated?]
      split <;> rfl

end World

end Harvest.Pipeline
