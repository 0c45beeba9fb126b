import Harvest.Proofs.Pipeline.Saves

/-!
Claims. A record of a pipeline that drops duplicates holds its URL from the moment it claims it until it
ends; the URLs in flight are those of the holders, each of which is alone with its URL.
-/

namespace Harvest.Pipeline

variable {σ τ : Type} {p : Pipeline σ τ} {contents : σ → List StoredRecord}

/-- The URL that a record holds. -/
def Item.claim? (i : Item) : Option String :=
  match i.stage with
  | .arrived | .finished _ => none
  | _ => some i.record.url

theorem Item.claim?_eq_some {i : Item} {url : String} (h : i.claim? = some url) : i.record.url = url := by
  obtain ⟨r, stage⟩ := i
  cases stage <;> first | exact Option.some.inj h | cases h

theorem Item.claim?_of_isTranslating {i : Item} (h : i.stage.isTranslating = true) :
    i.claim? = some i.record.url := by
  obtain ⟨r, stage⟩ := i
  cases stage <;> first | rfl | cases h

theorem firstStage_claim? (r : Record) (plan : Option Plan) :
    (⟨r, firstStage plan⟩ : Item).claim? = some r.url :=
  firstStage_elim (fun stage => (⟨r, stage⟩ : Item).claim? = some r.url) rfl
    (fun _ translating => Item.claim?_of_isTranslating translating) plan

theorem Item.claim?_of_saving {i : Item} {row : StoredRecord} (saving : i.stage = .saving)
    (same : row.record = i.record) : i.claim? = some row.url := by
  rw [Item.claim?, saving, StoredRecord.url, same]

theorem Work.url {t : Translation.Translator τ} {plan : Plan} {i i' : Item} (work : Work t plan i i') :
    i'.record.url = i.record.url := by
  cases work <;> rfl

theorem Ready.url {plan : Plan} {i : Item} {r : Record} (ready : Ready plan i r) :
    r.url = i.record.url := by
  cases ready <;> rfl

theorem Effect.url {b b' : Books σ} {i i' : Item} (effect : Effect p b i b' i') :
    i'.record.url = i.record.url := by
  cases effect with
  | work planned work => exact work.url
  | ready planned ready => exact ready.url
  | _ => rfl

theorem World.run_url {s : Shared σ τ} {records : List Record} {moves : List Nat} {n : Nat} {i : Item}
    (found : ((ofRecords s records).run p moves).items[n]? = some i) :
    ∃ r, records[n]? = some r ∧ i.record.url = r.url :=
  run_item (fun r i => i.record.url = r.url) (fun _ => rfl) (fun same effect => effect.url.trans same) found

/-- What a step of a pipeline with claims does to them: nothing, or its record takes a URL that is free, or
its record gives its own URL back. -/
theorem Effect.claims (strict : p.dropDuplicates = true) {b b' : Books σ} {i i' : Item}
    (effect : Effect p b i b' i') :
    (b'.claims = b.claims ∧ i'.claim? = i.claim?) ∨
    (∃ url, url ∉ b.claims ∧ i.claim? = none ∧ b'.claims = url :: b.claims ∧ i'.claim? = some url) ∨
    (∃ url, i.claim? = some url ∧ b'.claims = b.claims.filter (· ≠ url) ∧ i'.claim? = none) := by
  have closed (url : String) (o : Outcome) (b : Books σ) :
      (b.close p url o).claims = b.claims.filter (· ≠ url) := if_pos strict
  cases effect with
  | reject | collide | look | save => exact .inl ⟨rfl, rfl⟩
  | enter named free => simp [strict] at free
  | fresh => exact .inl ⟨rfl, firstStage_claim? _ _⟩
  | @claim r named strict untaken => exact .inr (.inl ⟨r.url, untaken, rfl, rfl, rfl⟩)
  | work planned work =>
    obtain ⟨before, after⟩ := work.isTranslating
    refine .inl ⟨rfl, ?_⟩
    rw [Item.claim?_of_isTranslating before, Item.claim?_of_isTranslating after, work.url]
  | ready planned ready =>
    refine .inl ⟨rfl, ?_⟩
    rw [Item.claim?_of_isTranslating ready.isTranslating, ← ready.url]
    rfl
  | unplanned plain asked => exact .inl ⟨rfl, (Item.claim?_of_isTranslating asked).symm⟩
  | @lookFailed r | @known r | @saveFailed r | @keep r =>
    exact .inr (.inr ⟨r.url, rfl, closed _ _ _, rfl⟩)

/-- The claims are those of the records that hold one, and no URL is claimed twice. -/
structure Exclusive (b : Books σ) (items : List Item) : Prop where
  held : (items.filterMap Item.claim?).Perm b.claims
  nodup : b.claims.Nodup

namespace Exclusive

variable {b b' : Books σ} {items : List Item} {i i' j : Item} {m n : Nat} {url : String}

theorem mem_iff (e : Exclusive b items) :
    url ∈ b.claims ↔ ∃ (n : Nat) (i : Item), items[n]? = some i ∧ i.claim? = some url := by
  rw [← e.held.mem_iff, List.mem_filterMap]
  constructor
  · rintro ⟨i, member, held⟩
    obtain ⟨n, found⟩ := List.mem_iff_getElem?.1 member
    exact ⟨n, i, found, held⟩
  · rintro ⟨n, i, found, held⟩
    exact ⟨i, List.mem_of_getElem? found, held⟩

theorem unique (e : Exclusive b items) (first : items[m]? = some i) (second : items[n]? = some j)
    (heldFirst : i.claim? = some url) (heldSecond : j.claim? = some url) : m = n := by
  have apart : items.Pairwise fun i j => ∀ u, i.claim? = some u → ∀ v, j.claim? = some v → u ≠ v :=
    List.pairwise_filterMap.1 (e.held.nodup_iff.2 e.nodup)
  rw [List.pairwise_iff_getElem] at apart
  obtain ⟨m_lt, rfl⟩ := List.getElem?_eq_some_iff.1 first
  obtain ⟨n_lt, rfl⟩ := List.getElem?_eq_some_iff.1 second
  rcases Nat.lt_trichotomy m n with before | same | after
  · exact absurd rfl (apart m n m_lt n_lt before url heldFirst url heldSecond)
  · exact same
  · exact absurd rfl (apart n m n_lt m_lt after url heldSecond url heldFirst)

theorem start (free : b.claims = []) (records : List Record) :
    Exclusive b (records.map (⟨·, .arrived⟩)) := by
  have none_held := filterMap_arrived (f := Item.claim?) (fun _ => rfl) records
  exact ⟨by rw [none_held, free], by rw [free]; exact List.nodup_nil⟩

theorem keep (strict : p.dropDuplicates = true) (e : Exclusive b items) (found : items[n]? = some i)
    (effect : Effect p b i b' i') : Exclusive b' (items.set n i') := by
  obtain ⟨rest, before, after⟩ := filterMap_set_perm Item.claim? found
  specialize after i'
  rcases effect.claims strict with ⟨claims, same⟩ | ⟨url, free, none, claims, taken⟩ |
    ⟨url, held, claims, given⟩
  · rw [same] at after
    exact ⟨claims ▸ after.trans (before.symm.trans e.held), claims ▸ e.nodup⟩
  · rw [none] at before
    rw [taken] at after
    refine ⟨?_, ?_⟩
    · rw [claims]
      exact after.trans ((before.symm.trans e.held).cons url)
    · rw [claims]
      exact List.nodup_cons.2 ⟨free, e.nodup⟩
  · rw [held] at before
    rw [given] at after
    have all : (url :: rest).Perm b.claims := before.symm.trans e.held
    -- nobody else holds the URL that is given back, so the filter takes out one claim
    have absent : url ∉ rest := (List.nodup_cons.1 (all.nodup_iff.2 e.nodup)).1
    have left : (url :: rest).filter (· ≠ url) = rest := by
      rw [List.filter_cons_of_neg (by simp), List.filter_eq_self]
      intro v member
      simpa using fun same : v = url => absent (same ▸ member)
    refine ⟨?_, ?_⟩
    · rw [claims]
      have kept := all.filter (· ≠ url)
      rw [left] at kept
      exact after.trans kept
    · rw [claims]
      exact e.nodup.filter _

end Exclusive

theorem World.run_exclusive (strict : p.dropDuplicates = true) {w : World σ τ}
    (e : Exclusive w.shared.books w.items) (moves : List Nat) :
    Exclusive (w.run p moves).shared.books (w.run p moves).items :=
  World.run_keeps Exclusive (fun _ e found _ effect => e.keep strict found effect) w e

end Harvest.Pipeline
