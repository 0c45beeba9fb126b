import Harvest.Pipeline.Basic
import Harvest.Translation.Packing

/-!
The steps of one record through a pipeline. Between two steps any step of another record may happen; within
a step nothing does. Every step brings the record nearer to its end.
-/

namespace Harvest.Pipeline

open Translation (Answer Call)

variable {σ τ : Type}

structure Step (σ τ : Type) where
  shared : Shared σ τ
  item : Item
  pause : Pause := .none

/-- Counts the end of a record. -/
def Counters.finish (c : Counters) : Outcome → Counters
  | .ok (some _) => c.kept
  | .ok none => c.dropped
  | .error _ => c.failed

/-- Ends a record that holds no claim. -/
def endItem (p : Pipeline σ τ) (s : Shared σ τ) (r : Record) (o : Outcome) : Step σ τ :=
  ⟨{ s with counters := s.counters.finish o }.note (p.report r o), ⟨r, .finished o⟩, .none⟩

def Shared.release (s : Shared σ τ) (url : String) : Shared σ τ :=
  { s with inFlight := s.inFlight.filter (· ≠ url) }

/-- Ends a record that holds its claim, if the pipeline has claims. -/
def closeItem (p : Pipeline σ τ) (s : Shared σ τ) (r : Record) (o : Outcome) : Step σ τ :=
  endItem p (if p.dropDuplicates then s.release r.url else s) r o

/-- A record without a complete translation is counted and goes on to be stored. -/
def toSave (s : Shared σ τ) (r : Record) : Step σ τ :=
  let s := if r.isTranslated then s else { s with counters := s.counters.untranslated }
  ⟨s, ⟨r, .saving⟩, .none⟩

def firstStage : Option Plan → Stage
  | none => .saving
  | some plan =>
    match plan.mode with
    | .separate => .asking .content
    | .packed => .asking .both

def accept (p : Pipeline σ τ) (s : Shared σ τ) (r : Record) : Step σ τ :=
  ⟨s, ⟨r.stamp p.taskId, firstStage p.plan⟩, .none⟩

def arrive (p : Pipeline σ τ) (s : Shared σ τ) (r : Record) : Step σ τ :=
  if r.hasBlankUrl then endItem p s r (.error (.noUrl r.title))
  else if ¬p.dropDuplicates then accept p s r
  else if r.url ∈ s.inFlight then
    let s := s.note [Log.debug s!"Dropping duplicate {r.url} (already in flight)"]
    endItem p { s with counters := s.counters.duplicate } r (.ok none)
  else ⟨{ s with inFlight := r.url :: s.inFlight }, ⟨r, .looking⟩, .none⟩

def look (p : Pipeline σ τ) (s : Shared σ τ) (r : Record) : Step σ τ :=
  let (answer, store) := p.store.find r.url s.store
  ⟨{ s with store := store }, ⟨r, .looked answer⟩, .ofYield p.store.yields⟩

def judge (p : Pipeline σ τ) (s : Shared σ τ) (r : Record) :
    Except Harvest.Failure (Option StoredRecord) → Step σ τ
  | .error f => closeItem p s r (.error (.store f))
  | .ok (some existing) =>
    let s := s.note [Log.debug s!"Dropping duplicate {r.url} (stored as {existing.id})"]
    closeItem p { s with counters := s.counters.duplicate } r (.ok none)
  | .ok none => accept p s r

def partText (plan : Plan) (r : Record) : Part → String
  | .both => Translation.pack r.title r.content plan.delimiter
  | .content => r.content
  | .title => r.title

def call (p : Pipeline σ τ) (plan : Plan) (s : Shared σ τ) (r : Record) (part : Part) : Step σ τ :=
  let (reply, session) := s.session.ask p.translator ⟨partText plan r part, plan.target⟩
  ⟨{ s with session := session }.note reply.notes, ⟨r, .asked part reply.answer⟩, .ofWait reply.wait⟩

/-- Goes on after a field, now that its translation is known. -/
def setField (s : Shared σ τ) (r : Record) (plan : Plan) (value : Option String) : Part → Step σ τ
  | .title => toSave s { r with titleZh := value }
  | _ =>
    let pause := if r.content.isEmpty ∨ r.title.isEmpty then .none else .ofWait plan.delay
    ⟨s, ⟨{ r with contentZh := value }, .asking .title⟩, pause⟩

/-- An empty field is its own translation. -/
def ask (p : Pipeline σ τ) (plan : Plan) (s : Shared σ τ) (r : Record) (part : Part) : Step σ τ :=
  if part ≠ .both ∧ (partText plan r part).isEmpty then setField s r plan (some "") part
  else call p plan s r part

def fieldNotes (url field : String) : Answer → List Log.Entry
  | .ok (some _) => []
  | .ok none => [Log.warn s!"No {field} translation returned for {url}"]
  | .error f => [Log.warn s!"{field} translation unavailable for {url}: {f.message}"]

def hearField (s : Shared σ τ) (r : Record) (plan : Plan) (part : Part) (answer : Answer) : Step σ τ :=
  let value := match answer with
    | .ok t => t
    | .error _ => none
  setField (s.note (fieldNotes r.url part.name answer)) r plan value part

/-- Takes the answer for both fields; if it does not split into two, each field is sent on its own. -/
def hearBoth (s : Shared σ τ) (r : Record) (plan : Plan) : Answer → Step σ τ
  | .error f => toSave (s.note [Log.warn s!"Translation unavailable for {r.url}: {f.message}"]) r
  | .ok none => toSave (s.note [Log.warn s!"No translation returned for {r.url}"]) r
  | .ok (some text) =>
    let count := (Translation.unpack text plan.delimiter).length
    let s := s.note [Log.debug s!"Packed translation split into {count} segment(s)"]
    match (Translation.Unpacked.ofTranslation r.title plan.delimiter text).fields? with
    | some (title, content) => toSave s { r with titleZh := some title, contentZh := some content }
    | none =>
      let note := s!"Delimiter '{plan.delimiter}' did not split the translation of {r.url} " ++
        "into two fields, translating separately"
      ⟨s.note [Log.warn note], ⟨r, .asking .content⟩, .none⟩

def hear (s : Shared σ τ) (r : Record) (plan : Plan) (answer : Answer) : Part → Step σ τ
  | .both => hearBoth s r plan answer
  | part => hearField s r plan part answer

def save (p : Pipeline σ τ) (s : Shared σ τ) (r : Record) : Step σ τ :=
  let identity := p.identity s.minted
  let stored : StoredRecord := ⟨identity.id, r, identity.createdAt⟩
  let (answer, store) := p.store.append stored s.store
  ⟨{ s with store := store, minted := s.minted + 1 }, ⟨r, .saved (answer.map fun _ => stored)⟩,
    .ofYield p.store.yields⟩

def conclude (p : Pipeline σ τ) (s : Shared σ τ) (r : Record) : Except Harvest.Failure StoredRecord → Step σ τ
  | .error f => closeItem p s r (.error (.store f))
  | .ok stored =>
    let note := Log.debug s!"Stored {r.url} as {stored.id} (task {p.taskId})"
    closeItem p (s.note (p.store.notes stored ++ [note])) r (.ok (some r))

/-- The next step of a record; a record at its end stays there. -/
def step (p : Pipeline σ τ) (s : Shared σ τ) (i : Item) : Step σ τ :=
  match i.stage, p.plan with
  | .arrived, _ => arrive p s i.record
  | .looking, _ => look p s i.record
  | .looked answer, _ => judge p s i.record answer
  | .asking part, some plan => ask p plan s i.record part
  | .asked part answer, some plan => hear s i.record plan answer part
  | .asking _, none => ⟨s, ⟨i.record, .saving⟩, .none⟩
  | .asked _ _, none => ⟨s, ⟨i.record, .saving⟩, .none⟩
  | .saving, _ => save p s i.record
  | .saved answer, _ => conclude p s i.record answer
  | .finished _, _ => ⟨s, i, .none⟩

@[simp] theorem endItem_stage (p : Pipeline σ τ) (s : Shared σ τ) (r : Record) (o : Outcome) :
    (endItem p s r o).item.stage = .finished o := rfl

@[simp] theorem closeItem_stage (p : Pipeline σ τ) (s : Shared σ τ) (r : Record) (o : Outcome) :
    (closeItem p s r o).item.stage = .finished o := rfl

@[simp] theorem toSave_stage (s : Shared σ τ) (r : Record) : (toSave s r).item.stage = .saving := by
  simp [toSave]

theorem firstStage_rank (plan : Option Plan) : (firstStage plan).rank ≤ 8 := by
  rcases plan with _ | plan
  · simp [firstStage, Stage.rank]
  · cases h : plan.mode <;> simp [firstStage, h, Stage.rank]

theorem setField_rank (s : Shared σ τ) (r : Record) (plan : Plan) (value : Option String) (part : Part) :
    (setField s r plan value part).item.stage.rank < (Stage.asked part (.ok none)).rank := by
  cases part <;> simp [setField, Stage.rank]

/-- Every step leads nearer to the end. -/
theorem step_rank_lt (p : Pipeline σ τ) (s : Shared σ τ) (i : Item) (h : i.outcome? = none) :
    (step p s i).item.stage.rank < i.stage.rank := by
  obtain ⟨r, stage⟩ := i
  have first := firstStage_rank p.plan
  cases stage with
  | arrived =>
    simp only [step, arrive]
    split
    · simp [Stage.rank]
    · split
      · exact Nat.lt_of_le_of_lt first (by simp [Stage.rank])
      · split <;> simp [Stage.rank]
  | looking => simp [step, look, Stage.rank]
  | looked answer =>
    rcases answer with f | _ | existing
    · simp [step, judge, Stage.rank]
    · exact Nat.lt_of_le_of_lt first (by simp [Stage.rank])
    · simp [step, judge, Stage.rank]
  | asking part =>
    cases hp : p.plan with
    | none => cases part <;> simp [step, hp, Stage.rank]
    | some plan =>
      simp only [step, hp, ask]
      split
      · have := setField_rank s r plan (some "") part
        cases part <;> simp_all [Stage.rank] <;> omega
      · cases part <;> simp [call, Shared.note, Stage.rank]
  | asked part answer =>
    cases hp : p.plan with
    | none => cases part <;> simp [step, hp, Stage.rank]
    | some plan =>
      have field := setField_rank (σ := σ) (τ := τ)
      cases part with
      | both =>
        simp only [step, hp, hear]
        rcases answer with f | _ | text
        · simp [hearBoth, Stage.rank]
        · simp [hearBoth, Stage.rank]
        · simp only [hearBoth]
          split <;> simp [Stage.rank]
      | content => simpa [step, hp, hear, hearField, Stage.rank] using field _ _ _ _ .content
      | title => simpa [step, hp, hear, hearField, Stage.rank] using field _ _ _ _ .title
  | saving => simp [step, save, Stage.rank]
  | saved answer => rcases answer with f | stored <;> simp [step, conclude, Stage.rank]
  | finished o => simp [Item.outcome?] at h

/-- Lets a record go on until it pauses or ends. -/
def goOn (p : Pipeline σ τ) (s : Shared σ τ) (i : Item) : Step σ τ :=
  if _h : i.outcome? = none then
    let next := step p s i
    if next.pause = .none then goOn p next.shared next.item else next
  else ⟨s, i, .none⟩
termination_by i.stage.rank
decreasing_by exact step_rank_lt p s i _h

/-- Lets a record go on to its end, and counts the milliseconds of its pauses. -/
def complete (p : Pipeline σ τ) (s : Shared σ τ) (i : Item) : Shared σ τ × Item × Nat :=
  if _h : i.outcome? = none then
    let next := step p s i
    let (s, i, slept) := complete p next.shared next.item
    match next.pause with
    | .sleep ms => (s, i, ms + slept)
    | _ => (s, i, slept)
  else (s, i, 0)
termination_by i.stage.rank
decreasing_by exact step_rank_lt p s i _h

end Harvest.Pipeline
