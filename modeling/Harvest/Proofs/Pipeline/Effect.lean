import Harvest.Pipeline.World

/-!
What one step of a record does. `Effect` lists the kinds of steps with all that they change in the books
that the records of a pipeline share; the steps of a translation are told apart in `Work` and `Ready`.
-/

namespace Harvest.Pipeline

open Translation (Answer Translator Unpacked)

variable {σ τ : Type}

/-- What the records of a pipeline keep account of together. -/
structure Books (σ : Type) where
  store : σ
  claims : List String
  counters : Counters

def Shared.books (s : Shared σ τ) : Books σ := ⟨s.store, s.inFlight, s.counters⟩

def Books.close (b : Books σ) (p : Pipeline σ τ) (url : String) (o : Outcome) : Books σ :=
  { b with
    claims := if p.dropDuplicates then b.claims.filter (· ≠ url) else b.claims
    counters := b.counters.finish o }

def heard : Answer → Option String
  | .ok text => text
  | .error _ => none

/-- Steps that leave a record under translation. -/
inductive Work (t : Translator τ) (plan : Plan) : Item → Item → Prop
  | send {r : Record} {part : Part} (memory : τ) (worth : part = .both ∨ partText plan r part ≠ "") :
      Work t plan ⟨r, .asking part⟩
        ⟨r, .asked part (t.translate ⟨partText plan r part, plan.target⟩ memory).1.answer⟩
  | skipContent {r : Record} (empty : r.content = "") :
      Work t plan ⟨r, .asking .content⟩ ⟨{ r with contentZh := some "" }, .asking .title⟩
  | hearContent {r : Record} (answer : Answer) :
      Work t plan ⟨r, .asked .content answer⟩ ⟨{ r with contentZh := heard answer }, .asking .title⟩
  | fallBack {r : Record} {text : String}
      (ambiguous : (Unpacked.ofTranslation r.title plan.delimiter text).fields? = none) :
      Work t plan ⟨r, .asked .both (.ok (some text))⟩ ⟨r, .asking .content⟩

/-- Steps that end the translation of a record. -/
inductive Ready (plan : Plan) : Item → Record → Prop
  | skipTitle {r : Record} (empty : r.title = "") :
      Ready plan ⟨r, .asking .title⟩ { r with titleZh := some "" }
  | hearTitle {r : Record} (answer : Answer) :
      Ready plan ⟨r, .asked .title answer⟩ { r with titleZh := heard answer }
  | split {r : Record} {text title content : String}
      (fields : (Unpacked.ofTranslation r.title plan.delimiter text).fields? = some (title, content)) :
      Ready plan ⟨r, .asked .both (.ok (some text))⟩
        { r with titleZh := some title, contentZh := some content }
  | unheard {r : Record} {answer : Answer} (nothing : heard answer = none) :
      Ready plan ⟨r, .asked .both answer⟩ r

def Stage.isTranslating : Stage → Bool
  | .asking _ | .asked _ _ => true
  | _ => false

/-- What a step of an unfinished record does to the books and to the record. -/
inductive Effect (p : Pipeline σ τ) (b : Books σ) : Item → Books σ → Item → Prop
  | reject {r : Record} (blank : r.hasBlankUrl = true) :
      Effect p b ⟨r, .arrived⟩ { b with counters := b.counters.failed }
        ⟨r, .finished (.error (.noUrl r.title))⟩
  | enter {r : Record} (named : r.hasBlankUrl = false) (free : p.dropDuplicates = false) :
      Effect p b ⟨r, .arrived⟩ b ⟨r.stamp p.taskId, firstStage p.plan⟩
  | collide {r : Record} (named : r.hasBlankUrl = false) (strict : p.dropDuplicates = true)
      (taken : r.url ∈ b.claims) :
      Effect p b ⟨r, .arrived⟩ { b with counters := b.counters.duplicate.dropped }
        ⟨r, .finished (.ok none)⟩
  | claim {r : Record} (named : r.hasBlankUrl = false) (strict : p.dropDuplicates = true)
      (untaken : r.url ∉ b.claims) :
      Effect p b ⟨r, .arrived⟩ { b with claims := r.url :: b.claims } ⟨r, .looking⟩
  | look {r : Record} :
      Effect p b ⟨r, .looking⟩ { b with store := (p.store.find r.url b.store).2 }
        ⟨r, .looked (p.store.find r.url b.store).1⟩
  | lookFailed {r : Record} {f : Harvest.Failure} :
      Effect p b ⟨r, .looked (.error f)⟩ (b.close p r.url (.error (.store f)))
        ⟨r, .finished (.error (.store f))⟩
  | known {r : Record} {existing : StoredRecord} :
      Effect p b ⟨r, .looked (.ok (some existing))⟩
        (Books.close { b with counters := b.counters.duplicate } p r.url (.ok none))
        ⟨r, .finished (.ok none)⟩
  | fresh {r : Record} :
      Effect p b ⟨r, .looked (.ok none)⟩ b ⟨r.stamp p.taskId, firstStage p.plan⟩
  | work {plan : Plan} {i i' : Item} (planned : p.plan = some plan) (work : Work p.translator plan i i') :
      Effect p b i b i'
  | ready {plan : Plan} {i : Item} {r : Record} (planned : p.plan = some plan) (ready : Ready plan i r) :
      Effect p b i
        { b with counters := if r.isTranslated then b.counters else b.counters.untranslated } ⟨r, .saving⟩
  | unplanned {i : Item} (plain : p.plan = none) (asked : i.stage.isTranslating = true) :
      Effect p b i b ⟨i.record, .saving⟩
  | save {r : Record} {row : StoredRecord} (same : row.record = r) :
      Effect p b ⟨r, .saving⟩ { b with store := (p.store.append row b.store).2 }
        ⟨r, .saved ((p.store.append row b.store).1.map fun _ => row)⟩
  | saveFailed {r : Record} {f : Harvest.Failure} :
      Effect p b ⟨r, .saved (.error f)⟩ (b.close p r.url (.error (.store f)))
        ⟨r, .finished (.error (.store f))⟩
  | keep {r : Record} {row : StoredRecord} :
      Effect p b ⟨r, .saved (.ok row)⟩ (b.close p r.url (.ok (some r))) ⟨r, .finished (.ok (some r))⟩

theorem closeItem_books (p : Pipeline σ τ) (s : Shared σ τ) (r : Record) (o : Outcome) :
    (closeItem p s r o).shared.books = s.books.close p r.url o := by
  unfold closeItem endItem Books.close
  split <;> rfl

theorem closeItem_session {p : Pipeline σ τ} (s : Shared σ τ) (r : Record) (o : Outcome) :
    (closeItem p s r o).shared.session = s.session := by
  unfold closeItem
  split <;> rfl

theorem toSave_session (s : Shared σ τ) (r : Record) : (toSave s r).shared.session = s.session := by
  unfold toSave
  split <;> rfl

theorem arrive_effect (p : Pipeline σ τ) (s : Shared σ τ) (r : Record) :
    Effect p s.books ⟨r, .arrived⟩ (arrive p s r).shared.books (arrive p s r).item := by
  unfold arrive
  split
  · rename_i blank
    exact .reject blank
  · rename_i named
    have named : r.hasBlankUrl = false := by simpa using named
    split
    · rename_i free
      exact .enter named (by simpa using free)
    · rename_i strict
      have strict : p.dropDuplicates = true := by simpa using strict
      split
      · rename_i taken
        exact .collide named strict taken
      · rename_i untaken
        exact .claim named strict untaken

theorem judge_effect (p : Pipeline σ τ) (s : Shared σ τ) (r : Record)
    (answer : Except Harvest.Failure (Option StoredRecord)) :
    Effect p s.books ⟨r, .looked answer⟩ (judge p s r answer).shared.books (judge p s r answer).item := by
  rcases answer with f | _ | existing
  · simp only [judge, closeItem_books]
    exact .lookFailed
  · exact .fresh
  · simp only [judge, closeItem_books]
    exact .known

theorem toSave_effect {p : Pipeline σ τ} {plan : Plan} {s s' : Shared σ τ} {i : Item} {r : Record}
    (planned : p.plan = some plan) (same : s'.books = s.books) (ready : Ready plan i r) :
    Effect p s.books i (toSave s' r).shared.books (toSave s' r).item := by
  have books : (toSave s' r).shared.books =
      { s.books with
        counters := if r.isTranslated then s.books.counters else s.books.counters.untranslated } := by
    rw [← same]
    unfold toSave
    split <;> rfl
  rw [books]
  exact .ready planned ready

theorem ask_effect {p : Pipeline σ τ} {plan : Plan} (s : Shared σ τ) (r : Record) (part : Part)
    (planned : p.plan = some plan) :
    Effect p s.books ⟨r, .asking part⟩ (ask p plan s r part).shared.books (ask p plan s r part).item := by
  unfold ask
  split
  · rename_i skip
    obtain ⟨single, empty⟩ := skip
    cases part with
    | both => exact absurd rfl single
    | content => exact .work planned (.skipContent (by simpa [partText] using empty))
    | title => exact toSave_effect planned rfl (.skipTitle (by simpa [partText] using empty))
  · rename_i sent
    have worth : part = .both ∨ partText plan r part ≠ "" := by
      by_cases both : part = .both
      · exact .inl both
      · exact .inr (by simpa [both] using sent)
    exact .work planned (.send s.session.memory worth)

theorem hear_effect {p : Pipeline σ τ} {plan : Plan} (s : Shared σ τ) (r : Record) (part : Part)
    (answer : Answer) (planned : p.plan = some plan) :
    Effect p s.books ⟨r, .asked part answer⟩ (hear s r plan answer part).shared.books
      (hear s r plan answer part).item := by
  cases part with
  | content =>
    rcases answer with f | text
    · exact .work planned (.hearContent (.error f))
    · exact .work planned (.hearContent (.ok text))
  | title =>
    rcases answer with f | text
    · exact toSave_effect planned rfl (.hearTitle (.error f))
    · exact toSave_effect planned rfl (.hearTitle (.ok text))
  | both =>
    rcases answer with f | _ | text
    · exact toSave_effect planned rfl (.unheard rfl)
    · exact toSave_effect planned rfl (.unheard rfl)
    · simp only [hear, hearBoth]
      split
      · rename_i title content fields
        exact toSave_effect planned rfl (.split fields)
      · rename_i ambiguous
        exact .work planned (.fallBack ambiguous)

theorem conclude_effect (p : Pipeline σ τ) (s : Shared σ τ) (r : Record)
    (answer : Except Harvest.Failure StoredRecord) :
    Effect p s.books ⟨r, .saved answer⟩ (conclude p s r answer).shared.books
      (conclude p s r answer).item := by
  rcases answer with f | row
  · simp only [conclude, closeItem_books]
    exact .saveFailed
  · simp only [conclude, closeItem_books]
    exact .keep

/-- Every step of an unfinished record is of one of the kinds. -/
theorem step_effect (p : Pipeline σ τ) (s : Shared σ τ) (i : Item) (unfinished : i.outcome? = none) :
    Effect p s.books i (step p s i).shared.books (step p s i).item := by
  obtain ⟨r, stage⟩ := i
  cases stage with
  | arrived => exact arrive_effect p s r
  | looking => exact .look
  | looked answer => exact judge_effect p s r answer
  | asking part =>
    cases plan : p.plan with
    | none => simpa only [step, plan] using .unplanned plan rfl
    | some plan' => simpa only [step, plan] using ask_effect s r part plan
  | asked part answer =>
    cases plan : p.plan with
    | none => simpa only [step, plan] using .unplanned plan rfl
    | some plan' => simpa only [step, plan] using hear_effect s r part answer plan
  | saving => exact .save rfl
  | saved answer => exact conclude_effect p s r answer
  | finished o => simp [Item.outcome?] at unfinished

end Harvest.Pipeline
