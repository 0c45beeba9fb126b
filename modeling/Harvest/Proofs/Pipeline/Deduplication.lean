import Harvest.Proofs.Pipeline.Claims
import Harvest.Translation.Rehearsal

/-!
Pipelines that drop duplicates. Whatever the order of the steps and whichever calls to the store fail, a URL is
appended at most once and never beside a stored one, and no URL of the input is lost without a failure.
-/

namespace Harvest.Pipeline

variable {σ τ : Type} {p : Pipeline σ τ} {contents : σ → List StoredRecord}

/-- A record whose look-up found its URL, or which is stored itself, has a stored URL; a record that is on
its way to be saved has not. -/
def Item.Agrees (i : Item) (stored : List String) : Prop :=
  match i.stage with
  | .looked (.ok (some _)) | .saved (.ok _) | .finished (.ok (some _)) => i.record.url ∈ stored
  | .looked (.ok none) | .asking _ | .asked _ _ | .saving => i.record.url ∉ stored
  | _ => True

theorem Item.agrees_of_isTranslating {i : Item} (h : i.stage.isTranslating = true) (stored : List String) :
    i.Agrees stored ↔ i.record.url ∉ stored := by
  obtain ⟨r, stage⟩ := i
  cases stage <;> first | exact Iff.rfl | cases h

theorem firstStage_agrees (r : Record) (plan : Option Plan) (stored : List String) :
    (⟨r, firstStage plan⟩ : Item).Agrees stored ↔ r.url ∉ stored :=
  firstStage_elim (fun stage => (⟨r, stage⟩ : Item).Agrees stored ↔ r.url ∉ stored) Iff.rfl
    (fun _ translating => Item.agrees_of_isTranslating translating stored) plan

theorem looked_agrees (law : p.store.Lawful contents) (r : Record) (s : σ) :
    (⟨r, .looked (p.store.find r.url s).1⟩ : Item).Agrees (Store.urls (contents s)) := by
  have isSome := Store.findByUrl_isSome (contents s) r.url
  rcases answer : (p.store.find r.url s).1 with f | found
  · exact True.intro
  · rw [← law.find_ok answer] at isSome
    rcases found with _ | existing
    · simpa [Item.Agrees] using isSome
    · simpa [Item.Agrees] using isSome

theorem Effect.agrees (law : p.store.Lawful contents) (strict : p.dropDuplicates = true) {b b' : Books σ}
    {i i' : Item} (effect : Effect p b i b' i') (h : i.Agrees (Store.urls (contents b.store))) :
    i'.Agrees (Store.urls (contents b'.store)) := by
  cases effect with
  | reject | collide | claim | lookFailed | known | saveFailed => exact True.intro
  | enter named free => simp [strict] at free
  | fresh => exact (firstStage_agrees _ _ _).2 h
  | @look r =>
    have agrees := looked_agrees law r b.store
    rwa [← law.find_keeps r.url b.store] at agrees
  | work planned work =>
    obtain ⟨before, after⟩ := work.isTranslating
    rw [Item.agrees_of_isTranslating before] at h
    rwa [Item.agrees_of_isTranslating after, work.url]
  | ready planned ready =>
    rw [Item.agrees_of_isTranslating ready.isTranslating, ← ready.url] at h
    exact h
  | unplanned plain asked => exact (Item.agrees_of_isTranslating asked _).1 h
  | @save r row same =>
    cases answer : (p.store.append row b.store).1 with
    | error f => exact True.intro
    | ok =>
      subst same
      simp [Item.Agrees, Except.map, law.append_ok answer, Store.urls, StoredRecord.url]
  | keep => exact h

theorem Item.Agrees.append {i : Item} {stored : List String} (h : i.Agrees stored) {url : String}
    (apart : i.claim? ≠ some url) : i.Agrees (stored ++ [url]) := by
  have keep (member : i.record.url ∈ stored) : i.record.url ∈ stored ++ [url] :=
    List.mem_append_left _ member
  have avoid (absent : i.record.url ∉ stored) (held : i.claim? = some i.record.url) :
      i.record.url ∉ stored ++ [url] := by
    rw [List.mem_append, List.mem_singleton]
    rintro (member | same)
    · exact absent member
    · exact apart (same ▸ held)
  obtain ⟨r, stage⟩ := i
  cases stage with
  | looked answer =>
    rcases answer with f | _ | existing
    · exact True.intro
    · exact avoid h rfl
    · exact keep h
  | saved answer =>
    rcases answer with f | row
    · exact True.intro
    · exact keep h
  | finished o =>
    rcases o with f | _ | kept
    · exact True.intro
    · exact True.intro
    · exact keep h
  | asking | asked | saving => exact avoid h rfl
  | arrived | looking => exact True.intro

/-- A URL is taken care of once it is stored, or while a record holds it, or if a record with it failed. -/
def Settled (contents : σ → List StoredRecord) (b : Books σ) (items : List Item) (url : String) : Prop :=
  url ∈ Store.urls (contents b.store) ∨ url ∈ b.claims ∨
    ∃ (n : Nat) (r : Record) (f : Failure), items[n]? = some ⟨r, .finished (.error f)⟩ ∧ r.url = url

/-- A record that gives its URL back leaves it stored, or was failed by the store. -/
theorem Effect.released {b b' : Books σ} {i i' : Item} (effect : Effect p b i b' i') {url : String}
    (held : i.claim? = some url) (given : i'.claim? = none)
    (agrees : i.Agrees (Store.urls (contents b.store))) :
    url ∈ Store.urls (contents b.store) ∨ ∃ f, i' = ⟨i.record, .finished (.error (.store f))⟩ := by
  cases effect with
  | lookFailed | saveFailed => exact .inr ⟨_, rfl⟩
  | known | keep =>
    obtain rfl := Option.some.inj held
    exact .inl agrees
  | fresh => cases (firstStage_claim? _ _).symm.trans given
  | work planned work => cases (Item.claim?_of_isTranslating work.isTranslating.2).symm.trans given
  | reject | enter | collide | claim => cases held
  | look | ready | unplanned | save => cases given

theorem Effect.arrival (strict : p.dropDuplicates = true) {b b' : Books σ} {i i' : Item}
    (effect : Effect p b i b' i') (arrived : i.stage = .arrived) :
    i.record.url ∈ b'.claims ∨ ∃ f, i' = ⟨i.record, .finished (.error f)⟩ := by
  have idle : i.stage.isTranslating = false := by rw [arrived]; rfl
  cases effect with
  | reject => exact .inr ⟨_, rfl⟩
  | enter named free => simp [strict] at free
  | collide named strict taken => exact .inl taken
  | claim => exact .inl List.mem_cons_self
  | work planned work => simp [work.isTranslating.1] at idle
  | ready planned ready => simp [ready.isTranslating] at idle
  | unplanned plain asked => simp [asked] at idle
  | look | lookFailed | known | fresh | save | saveFailed | keep => cases arrived

theorem Settled.keep (law : p.store.Lawful contents) (strict : p.dropDuplicates = true) {b b' : Books σ}
    {items : List Item} {n : Nat} {i i' : Item} {url : String} (settled : Settled contents b items url)
    (found : items[n]? = some i) (unfinished : i.outcome? = none) (effect : Effect p b i b' i')
    (agrees : i.Agrees (Store.urls (contents b.store))) : Settled contents b' (items.set n i') url := by
  rcases settled with stored | claimed | ⟨m, r, f, failed, same⟩
  · exact .inl (effect.urls_mono law stored)
  · rcases effect.claims strict with ⟨claims, _⟩ | ⟨v, _, _, claims, _⟩ | ⟨v, held, claims, given⟩
    · exact .inr (.inl (claims ▸ claimed))
    · exact .inr (.inl (claims ▸ List.mem_cons_of_mem v claimed))
    · -- only the record that ends can take care of the URL that it held
      by_cases same : v = url
      · subst same
        rcases effect.released held given agrees with stored | ⟨f, rfl⟩
        · exact .inl (effect.urls_mono law stored)
        · exact .inr (.inr ⟨n, i.record, .store f, set_here found, Item.claim?_eq_some held⟩)
      · refine .inr (.inl ?_)
        rw [claims, List.mem_filter]
        exact ⟨claimed, by simpa using Ne.symm same⟩
  · have other : n ≠ m := by
      rintro rfl
      obtain rfl := Option.some.inj (found.symm.trans failed)
      cases unfinished
    exact .inr (.inr ⟨m, r, f, set_there other failed, same⟩)

/-- The state of a pipeline that drops duplicates and began with `rows` in its store. -/
structure Deduplicated (contents : σ → List StoredRecord) (rows : List StoredRecord) (b : Books σ)
    (items : List Item) : Prop where
  exclusive : Exclusive b items
  agrees : ∀ (n : Nat) (i : Item), items[n]? = some i → i.Agrees (Store.urls (contents b.store))
  once : ∃ added, contents b.store = rows ++ added ∧ (Store.urls added).Nodup ∧
    ∀ url ∈ Store.urls added, url ∉ Store.urls rows
  settled : ∀ (n : Nat) (i : Item), items[n]? = some i → i.stage = .arrived ∨
    Settled contents b items i.record.url

namespace Deduplicated

variable {rows : List StoredRecord} {b b' : Books σ} {items : List Item} {n : Nat} {i i' : Item}

theorem start (free : b.claims = []) (records : List Record) :
    Deduplicated contents (contents b.store) b (records.map (⟨·, .arrived⟩)) where
  exclusive := .start free records
  agrees n i found := by
    obtain ⟨r, _, rfl⟩ := getElem?_arrived found
    exact True.intro
  once := ⟨[], (List.append_nil _).symm, List.nodup_nil, fun _ member => absurd member List.not_mem_nil⟩
  settled n i found := by
    obtain ⟨r, _, rfl⟩ := getElem?_arrived found
    exact .inl rfl

theorem keep_agrees (law : p.store.Lawful contents) (strict : p.dropDuplicates = true)
    (d : Deduplicated contents rows b items) (found : items[n]? = some i) (effect : Effect p b i b' i')
    (m : Nat) (j : Item) (there : (items.set n i')[m]? = some j) :
    j.Agrees (Store.urls (contents b'.store)) := by
  rcases set_cases there with ⟨rfl, rfl⟩ | ⟨other, there⟩
  · exact effect.agrees law strict (d.agrees m i found)
  · have before := d.agrees m j there
    rcases effect.appends law with ⟨same, _⟩ | ⟨row, saving, same, more, _⟩
    · rwa [same]
    · rw [more, Store.urls_append]
      apply before.append
      intro held
      exact other (d.exclusive.unique there found held (Item.claim?_of_saving saving same))

theorem keep_once (law : p.store.Lawful contents) (d : Deduplicated contents rows b items)
    (found : items[n]? = some i) (effect : Effect p b i b' i') :
    ∃ added, contents b'.store = rows ++ added ∧ (Store.urls added).Nodup ∧
      ∀ url ∈ Store.urls added, url ∉ Store.urls rows := by
  obtain ⟨added, whole, nodup, apart⟩ := d.once
  rcases effect.appends law with ⟨same, _⟩ | ⟨row, saving, same, more, _⟩
  · exact ⟨added, same.trans whole, nodup, apart⟩
  · have fresh : row.url ∉ Store.urls (contents b.store) := by
      have agrees := d.agrees n i found
      rw [Item.Agrees, saving] at agrees
      rwa [StoredRecord.url, same]
    rw [whole, Store.urls_append, List.mem_append, not_or] at fresh
    refine ⟨added ++ [row], by rw [more, whole, List.append_assoc], ?_, ?_⟩
    · rw [Store.urls_append, List.nodup_append]
      refine ⟨nodup, by simp [Store.urls], ?_⟩
      intro url member v single same
      obtain rfl : v = row.url := by simpa [Store.urls] using single
      exact fresh.2 (same ▸ member)
    · intro url member
      rw [Store.urls_append, List.mem_append] at member
      rcases member with member | single
      · exact apart url member
      · obtain rfl : url = row.url := by simpa [Store.urls] using single
        exact fresh.1

theorem keep_settled (law : p.store.Lawful contents) (strict : p.dropDuplicates = true)
    (d : Deduplicated contents rows b items) (found : items[n]? = some i) (unfinished : i.outcome? = none)
    (effect : Effect p b i b' i') (m : Nat) (j : Item) (there : (items.set n i')[m]? = some j) :
    j.stage = .arrived ∨ Settled contents b' (items.set n i') j.record.url := by
  have keep {url : String} (settled : Settled contents b items url) :=
    settled.keep law strict found unfinished effect (d.agrees n i found)
  rcases set_cases there with ⟨rfl, rfl⟩ | ⟨_, there⟩
  · right
    rw [effect.url]
    rcases d.settled m i found with arrived | settled
    · rcases effect.arrival strict arrived with claimed | ⟨f, rfl⟩
      · exact .inr (.inl claimed)
      · exact .inr (.inr ⟨m, i.record, f, set_here found, rfl⟩)
    · exact keep settled
  · exact (d.settled m j there).imp_right keep

theorem keep (law : p.store.Lawful contents) (strict : p.dropDuplicates = true)
    (d : Deduplicated contents rows b items) (found : items[n]? = some i) (unfinished : i.outcome? = none)
    (effect : Effect p b i b' i') : Deduplicated contents rows b' (items.set n i') where
  exclusive := d.exclusive.keep strict found effect
  agrees := d.keep_agrees law strict found effect
  once := d.keep_once law found effect
  settled := d.keep_settled law strict found unfinished effect

end Deduplicated

theorem World.run_deduplicated (law : p.store.Lawful contents) (strict : p.dropDuplicates = true)
    (s : Shared σ τ) (free : s.inFlight = []) (records : List Record) (moves : List Nat) :
    Deduplicated contents (contents s.store) ((ofRecords s records).run p moves).shared.books
      ((ofRecords s records).run p moves).items :=
  run_keeps (Deduplicated contents (contents s.store))
    (fun _ d found unfinished effect => d.keep law strict found unfinished effect) _
    (.start (b := s.books) free records)

/-- Whatever the order of the steps and whichever calls to the store fail: a URL is appended at most once and
not if it was stored before, and once all records have ended, each URL of the input is stored or a record with it
has failed. -/
theorem stored_at_most_once_or_failed (law : p.store.Lawful contents) (strict : p.dropDuplicates = true)
    (s : Shared σ τ) (free : s.inFlight = []) (records : List Record) (moves : List Nat) (url : String) :
    let w := (World.ofRecords s records).run p moves
    (∃ added, contents w.shared.store = contents s.store ++ added ∧ (Store.urls added).count url ≤ 1 ∧
      (url ∈ Store.urls (contents s.store) → (Store.urls added).count url = 0)) ∧
    (w.isDone = true → (∃ r ∈ records, r.url = url) →
      url ∈ Store.urls (contents w.shared.store) ∨
      ∃ n r f, records[n]? = some r ∧ r.url = url ∧ w.outcome? n = some (.error f)) := by
  intro w
  have d : Deduplicated contents (contents s.store) w.shared.books w.items :=
    World.run_deduplicated law strict s free records moves
  refine ⟨?_, ?_⟩
  · obtain ⟨added, whole, nodup, apart⟩ := d.once
    refine ⟨added, whole, List.nodup_iff_count.1 nodup url, ?_⟩
    intro stored
    rw [List.count_eq_zero]
    exact fun again => apart url again stored
  · rintro done ⟨r, member, rfl⟩
    obtain ⟨n, given⟩ := List.mem_iff_getElem?.1 member
    obtain ⟨i, found⟩ := World.run_present p s moves given
    obtain ⟨r', given', same⟩ := World.run_url found
    obtain rfl := Option.some.inj (given.symm.trans given')
    rcases d.settled n i found with arrived | stored | claimed | ⟨m, x, f, failed, with_url⟩
    · obtain ⟨_, _, rfl⟩ := World.finished_of_isDone done found
      cases arrived
    · exact .inl (same ▸ stored)
    · obtain ⟨m, j, there, held⟩ := d.exclusive.mem_iff.1 claimed
      obtain ⟨_, _, rfl⟩ := World.finished_of_isDone done there
      cases held
    · obtain ⟨q, origin, alike⟩ := World.run_url failed
      refine .inr ⟨m, q, f, origin, ?_, World.outcome?_eq_some.2 ⟨x, failed⟩⟩
      exact alike.symm.trans (with_url.trans same)

/-- A pipeline over a store in memory of which chosen calls fail, with a translator that echoes. -/
def trial (faults : Store.Faults) (dropDuplicates : Bool) (plan : Option Plan) :
    Pipeline (Store.Faulty Store.Memory) Nat where
  store := faults.store Store.Memory.store
  translator := Translation.Rehearsal.echo.translator
  taskId := "run"
  dropDuplicates := dropDuplicates
  plan := plan
  identity n := ⟨toString n, ""⟩

def trialStart : Shared (Store.Faulty Store.Memory) Nat := { store := { inner := [] }, session := ⟨0, []⟩ }

/-- The second record is dropped while the first is in flight, and then the first cannot be saved. -/
theorem stored_at_most_once_or_failed_after_fault :
    let p := trial ⟨[1], []⟩ true none
    let records : List Record := [⟨"a", "", "u", none, none, none, []⟩, ⟨"b", "", "u", none, none, none, []⟩]
    let w := (World.ofRecords trialStart records).run p [0, 1, 0, 0, 0, 0]
    p.dropDuplicates = true ∧ trialStart.inFlight = [] ∧ w.isDone = true ∧
      ("u" ∈ Store.urls w.shared.store.inner ∨
        ∃ n r f, records[n]? = some r ∧ r.url = "u" ∧ w.outcome? n = some (.error f)) := by
  intro p records w
  have done : w.isDone = true := by decide +kernel
  have law := Store.Faults.lawful ⟨[1], []⟩ Store.Memory.lawful
  have both := stored_at_most_once_or_failed (p := p) law rfl trialStart rfl records [0, 1, 0, 0, 0, 0] "u"
  exact ⟨rfl, rfl, done, both.2 done ⟨_, List.mem_cons_self, rfl⟩⟩

end Harvest.Pipeline
