import Harvest.Proofs.Pipeline.Claims

/-!
What becomes of a record. Where the answers of the translator depend on its calls alone, a record is stored as
a function of itself, whatever other records do meanwhile.
-/

namespace Harvest

/-- A translator whose answers do not depend on what it was asked before. -/
def Translation.Translator.Answers {τ : Type} (t : Translation.Translator τ)
    (f : Translation.Call → Translation.Answer) : Prop :=
  ∀ call memory, (t.translate call memory).1.answer = f call

namespace Pipeline

open Translation (Answer Call Unpacked)

namespace Plan

variable (plan : Plan) (f : Call → Answer)

def field (text : String) : Option String := if text = "" then some "" else heard (f ⟨text, plan.target⟩)

def separately (r : Record) : Record :=
  { r with titleZh := plan.field f r.title, contentZh := plan.field f r.content }

def unpacked (r : Record) (answer : Answer) : Record :=
  match heard answer with
  | none => r
  | some text =>
    match (Unpacked.ofTranslation r.title plan.delimiter text).fields? with
    | some (title, content) => { r with titleZh := some title, contentZh := some content }
    | none => plan.separately f r

def translated (r : Record) : Record :=
  match plan.mode with
  | .separate => plan.separately f r
  | .packed => plan.unpacked f r (f ⟨Translation.pack r.title r.content plan.delimiter, plan.target⟩)

/-- What a record under translation will be once that is over. -/
def due (i : Item) : Record :=
  match i.stage with
  | .asking .both => plan.unpacked f i.record (f ⟨partText plan i.record .both, plan.target⟩)
  | .asked .both answer => plan.unpacked f i.record answer
  | .asking .content => plan.separately f i.record
  | .asked .content answer =>
    { i.record with titleZh := plan.field f i.record.title, contentZh := heard answer }
  | .asking .title => { i.record with titleZh := plan.field f i.record.title }
  | .asked .title answer => { i.record with titleZh := heard answer }
  | _ => i.record

theorem due_firstStage (r : Record) : plan.due f ⟨r, firstStage (some plan)⟩ = plan.translated f r := by
  cases mode : plan.mode <;> simp [firstStage, translated, mode, due, partText]

theorem separately_url (r : Record) : (plan.separately f r).url = r.url := rfl

theorem unpacked_url (r : Record) (answer : Answer) : (plan.unpacked f r answer).url = r.url := by
  unfold unpacked
  split
  · rfl
  · split
    · rfl
    · exact plan.separately_url f r

theorem translated_url (r : Record) : (plan.translated f r).url = r.url := by
  unfold translated
  split
  · exact plan.separately_url f r
  · exact plan.unpacked_url f r _

end Plan

section Work

variable {τ : Type} {t : Translation.Translator τ} {plan : Plan} {f : Call → Answer}

theorem Work.due (answers : t.Answers f) {i i' : Item} (work : Work t plan i i') :
    plan.due f i' = plan.due f i := by
  cases work with
  | @send r part memory worth =>
    cases part with
    | both => simp only [Plan.due, answers _ _]
    | content =>
      have worth : r.content ≠ "" := by simpa [partText] using worth
      simp only [Plan.due, Plan.separately, Plan.field, partText, answers _ _, worth, ↓reduceIte]
    | title =>
      have worth : r.title ≠ "" := by simpa [partText] using worth
      simp only [Plan.due, Plan.field, partText, answers _ _, worth, ↓reduceIte]
  | skipContent empty => simp [Plan.due, Plan.separately, Plan.field, empty]
  | hearContent answer => rfl
  | fallBack ambiguous => simp only [Plan.due, Plan.unpacked, heard, ambiguous]

theorem Ready.due {i : Item} {r : Record} (ready : Ready plan i r) : plan.due f i = r := by
  cases ready with
  | skipTitle empty => simp only [Plan.due, Plan.field, empty, ↓reduceIte]
  | hearTitle answer => rfl
  | split fields => simp only [Plan.due, Plan.unpacked, heard, fields]
  | unheard nothing => simp only [Plan.due, Plan.unpacked, nothing]

end Work

variable {σ τ : Type} {p : Pipeline σ τ} {f : Call → Answer}

/-- A record as a pipeline stores it. -/
def product (p : Pipeline σ τ) (f : Call → Answer) (r : Record) : Record :=
  match p.plan with
  | none => r.stamp p.taskId
  | some plan => plan.translated f (r.stamp p.taskId)

theorem product_url (p : Pipeline σ τ) (f : Call → Answer) (r : Record) : (product p f r).url = r.url := by
  unfold product
  split
  · rfl
  · exact Plan.translated_url _ _ _

def due (p : Pipeline σ τ) (f : Call → Answer) (i : Item) : Record :=
  match p.plan with
  | none => i.record
  | some plan => plan.due f i

theorem due_firstStage (p : Pipeline σ τ) (f : Call → Answer) (r : Record) :
    due p f ⟨r.stamp p.taskId, firstStage p.plan⟩ = product p f r := by
  unfold due product
  cases p.plan with
  | none => rfl
  | some plan => exact plan.due_firstStage f _

theorem due_eq_record (p : Pipeline σ τ) (f : Call → Answer) {i : Item} (past : i.stage.isTranslating = false) :
    due p f i = i.record := by
  obtain ⟨r, stage⟩ := i
  unfold due
  cases p.plan with
  | none => rfl
  | some plan => cases stage <;> first | rfl | cases past

/-- What is true of a record that arrived as `r`: it is `r` until it is admitted, then it is on its way to the
product of `r`, and it ends as that, dropped or with a failure. -/
def Item.Faithful (p : Pipeline σ τ) (f : Call → Answer) (r : Record) (i : Item) : Prop :=
  match i.stage with
  | .arrived => i.record = r
  | .looking | .looked _ => i.record = r ∧ r.hasBlankUrl = false ∧ p.dropDuplicates = true
  | .asking _ | .asked _ _ | .saving | .saved _ => r.hasBlankUrl = false ∧ due p f i = product p f r
  | .finished (.ok (some x)) => r.hasBlankUrl = false ∧ x = product p f r
  | .finished (.ok none) => r.hasBlankUrl = false ∧ p.dropDuplicates = true
  | .finished (.error e) =>
    r.hasBlankUrl = true ∧ e = .noUrl r.title ∨ r.hasBlankUrl = false ∧ ∃ cause, e = .store cause

theorem Item.faithful_of_isTranslating {i : Item} {r : Record} (h : i.stage.isTranslating = true) :
    i.Faithful p f r ↔ r.hasBlankUrl = false ∧ due p f i = product p f r := by
  obtain ⟨x, stage⟩ := i
  cases stage <;> first | exact Iff.rfl | cases h

theorem firstStage_faithful {r : Record} (named : r.hasBlankUrl = false) :
    (⟨r.stamp p.taskId, firstStage p.plan⟩ : Item).Faithful p f r := by
  exact firstStage_elim (fun stage => due p f ⟨r.stamp p.taskId, stage⟩ = product p f r →
      (⟨r.stamp p.taskId, stage⟩ : Item).Faithful p f r) (fun same => ⟨named, same⟩)
    (fun _ translating same => (Item.faithful_of_isTranslating translating).2 ⟨named, same⟩) p.plan
    (due_firstStage p f r)

theorem Effect.faithful (answers : p.translator.Answers f) {b b' : Books σ} {i i' : Item} {r : Record}
    (effect : Effect p b i b' i') (h : i.Faithful p f r) : i'.Faithful p f r := by
  cases effect with
  | reject blank =>
    obtain rfl := h
    exact .inl ⟨blank, rfl⟩
  | enter named free =>
    obtain rfl := h
    exact firstStage_faithful named
  | collide named strict taken =>
    obtain rfl := h
    exact ⟨named, strict⟩
  | claim named strict untaken =>
    obtain rfl := h
    exact ⟨rfl, named, strict⟩
  | look => exact h
  | lookFailed => exact .inr ⟨h.2.1, _, rfl⟩
  | known => exact h.2
  | fresh =>
    obtain ⟨rfl, named, _⟩ := h
    exact firstStage_faithful named
  | @work plan i i' planned work =>
    obtain ⟨before, after⟩ := work.isTranslating
    obtain ⟨named, same⟩ := (Item.faithful_of_isTranslating before).1 h
    refine (Item.faithful_of_isTranslating after).2 ⟨named, ?_⟩
    simp only [due, planned] at same ⊢
    rw [work.due answers, same]
  | @ready plan i x planned ready =>
    obtain ⟨named, same⟩ := (Item.faithful_of_isTranslating ready.isTranslating).1 h
    refine ⟨named, ?_⟩
    simp only [due, planned] at same
    rw [due_eq_record p f rfl, ← same, ready.due]
  | unplanned plain asked =>
    obtain ⟨named, same⟩ := (Item.faithful_of_isTranslating asked).1 h
    refine ⟨named, ?_⟩
    simp only [due, plain] at same ⊢
    exact same
  | save =>
    obtain ⟨named, same⟩ := h
    rw [due_eq_record p f rfl] at same
    exact ⟨named, (due_eq_record p f rfl).trans same⟩
  | saveFailed => exact .inr ⟨h.1, _, rfl⟩
  | keep =>
    obtain ⟨named, same⟩ := h
    exact ⟨named, (due_eq_record p f rfl).symm.trans same⟩

theorem World.run_faithful (answers : p.translator.Answers f) {s : Shared σ τ} {records : List Record}
    {moves : List Nat} {n : Nat} {i : Item} (found : ((ofRecords s records).run p moves).items[n]? = some i) :
    ∃ r, records[n]? = some r ∧ i.Faithful p f r :=
  run_item (fun r i => i.Faithful p f r) (fun _ => rfl) (fun same effect => effect.faithful answers same) found

end Pipeline

end Harvest
