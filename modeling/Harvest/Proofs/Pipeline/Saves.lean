import Harvest.Proofs.Pipeline.Run
import Harvest.Proofs.Store.Lawful

/-!
What a pipeline appends to its store: nothing but the records that are saved, each of them once.
-/

namespace Harvest.Pipeline

variable {σ τ : Type} {p : Pipeline σ τ} {contents : σ → List StoredRecord}

/-- The record as it was stored, once it is. -/
def Item.stored? (i : Item) : Option Record :=
  match i.stage with
  | .saved (.ok _) => some i.record
  | .finished (.ok (some r)) => some r
  | _ => none

theorem firstStage_isTranslating (plan : Plan) : (firstStage (some plan)).isTranslating = true := by
  cases h : plan.mode <;> simp [firstStage, h, Stage.isTranslating]

theorem firstStage_elim (motive : Stage → Prop) (saving : motive .saving)
    (translating : ∀ stage, stage.isTranslating = true → motive stage) (plan : Option Plan) :
    motive (firstStage plan) := by
  rcases plan with _ | plan
  · exact saving
  · exact translating _ (firstStage_isTranslating plan)

theorem Item.stored?_of_isTranslating {i : Item} (h : i.stage.isTranslating = true) :
    i.stored? = none := by
  obtain ⟨r, stage⟩ := i
  cases stage <;> first | rfl | cases h

theorem Item.outcome?_of_isTranslating {i : Item} (h : i.stage.isTranslating = true) :
    i.outcome? = none := by
  obtain ⟨r, stage⟩ := i
  cases stage <;> first | rfl | cases h

theorem firstStage_stored? (r : Record) (plan : Option Plan) :
    (⟨r, firstStage plan⟩ : Item).stored? = none :=
  firstStage_elim (fun stage => (⟨r, stage⟩ : Item).stored? = none) rfl
    (fun _ translating => Item.stored?_of_isTranslating translating) plan

theorem Work.isTranslating {t : Translation.Translator τ} {plan : Plan} {i i' : Item}
    (work : Work t plan i i') : i.stage.isTranslating = true ∧ i'.stage.isTranslating = true := by
  cases work <;> exact ⟨rfl, rfl⟩

theorem Ready.isTranslating {plan : Plan} {i : Item} {r : Record} (ready : Ready plan i r) :
    i.stage.isTranslating = true := by
  cases ready <;> rfl

/-- Stages after which the store is called. -/
def Stage.isCalling : Stage → Bool
  | .looking | .saving => true
  | _ => false

theorem Stage.quiet_of_isTranslating {stage : Stage} (asked : stage.isTranslating = true) :
    stage.isCalling = false := by
  cases stage <;> first | rfl | cases asked

theorem Effect.store_of_quiet {b b' : Books σ} {i i' : Item} (effect : Effect p b i b' i')
    (quiet : i.stage.isCalling = false) : b'.store = b.store := by
  cases effect with
  | look | save => cases quiet
  | _ => rfl

theorem Effect.stored?_of_quiet {b b' : Books σ} {i i' : Item} (effect : Effect p b i b' i')
    (quiet : i.stage.isCalling = false) : i'.stored? = i.stored? := by
  cases effect with
  | look | save => cases quiet
  | enter | fresh => exact firstStage_stored? _ _
  | work planned work =>
    obtain ⟨before, after⟩ := work.isTranslating
    rw [Item.stored?_of_isTranslating before, Item.stored?_of_isTranslating after]
  | ready planned ready => exact (Item.stored?_of_isTranslating ready.isTranslating).symm
  | unplanned plain asked => exact (Item.stored?_of_isTranslating asked).symm
  | _ => rfl

/-- A step appends what it counts as stored. -/
theorem Effect.appends (law : p.store.Lawful contents) {b b' : Books σ} {i i' : Item}
    (effect : Effect p b i b' i') :
    (contents b'.store = contents b.store ∧ i'.stored? = i.stored?) ∨
    ∃ row : StoredRecord, i.stage = .saving ∧ row.record = i.record ∧
      contents b'.store = contents b.store ++ [row] ∧ i' = ⟨i.record, .saved (.ok row)⟩ := by
  by_cases quiet : i.stage.isCalling = false
  · exact .inl ⟨congrArg contents (effect.store_of_quiet quiet), effect.stored?_of_quiet quiet⟩
  · cases effect with
    | look => exact .inl ⟨law.find_keeps _ _, rfl⟩
    | @save r row same =>
      cases answer : (p.store.append row b.store).1 with
      | error f => exact .inl ⟨law.append_error answer, rfl⟩
      | ok => exact .inr ⟨row, rfl, same, law.append_ok answer, rfl⟩
    | work planned work => exact absurd (Stage.quiet_of_isTranslating work.isTranslating.1) quiet
    | ready planned ready => exact absurd (Stage.quiet_of_isTranslating ready.isTranslating) quiet
    | unplanned plain asked => exact absurd (Stage.quiet_of_isTranslating asked) quiet
    | _ => exact absurd rfl quiet

theorem Effect.urls_mono (law : p.store.Lawful contents) {b b' : Books σ} {i i' : Item}
    (effect : Effect p b i b' i') {url : String} (stored : url ∈ Store.urls (contents b.store)) :
    url ∈ Store.urls (contents b'.store) := by
  rcases effect.appends law with ⟨same, _⟩ | ⟨row, _, _, more, _⟩
  · rwa [same]
  · rw [more, Store.urls_append]
    exact List.mem_append_left _ stored

end Harvest.Pipeline
