import Harvest.Proofs.Pipeline.Course

/-!
Dialogues. The transcript of a run lists what its records say to the translator, each call with its answer, and how
long they pause of their own accord. It is taken from the pipeline over its translator, overheard, as the history of a
run is taken from its store, watched.
-/

namespace Harvest

open Store (Exchange)
open Translation (Answer Call)

variable {σ τ : Type}

namespace Translation

/-- A translator's memory with the calls that it has answered. -/
structure Overheard (τ : Type) where
  inner : τ
  answered : List (Call × Answer) := []

/-- The translator, overheard. It answers at once, which leaves the pauses that a caller makes between its calls. -/
def overheard (t : Translator τ) : Translator (Overheard τ) where
  name := t.name
  translate call m :=
    let (reply, inner) := t.translate call m.inner
    ({ reply with wait := 0 }, ⟨inner, m.answered ++ [(call, reply.answer)]⟩)

end Translation

open Translation (Overheard)

/-- The pipeline over its translator, overheard. -/
def Pipeline.overheard (p : Pipeline σ τ) : Pipeline σ (Overheard τ) where
  store := p.store
  translator := Translation.overheard p.translator
  taskId := p.taskId
  dropDuplicates := p.dropDuplicates
  plan := p.plan
  identity := p.identity
  report := p.report

namespace Pipeline

inductive Utterance
  | call (call : Call) (answer : Answer)
  | pause (milliseconds : Nat)
deriving DecidableEq

namespace Utterance

def answered (exchange : Call × Answer) : Utterance := .call exchange.1 exchange.2

def call? : Utterance → Option Call
  | call c _ => some c
  | pause _ => none

def ofPause : Pause → List Utterance
  | .sleep ms => [.pause ms]
  | _ => []

end Utterance

def Shared.overheard (s : Shared σ τ) : Shared σ (Overheard τ) where
  store := s.store
  session := ⟨⟨s.session.memory, []⟩, s.session.calls⟩
  inFlight := s.inFlight
  counters := s.counters
  log := s.log
  minted := s.minted

/-- What a record says in its next step. -/
def utterances (p : Pipeline σ τ) (s : Shared σ τ) (i : Item) : List Utterance :=
  let next := step p.overheard s.overheard i
  next.shared.session.memory.answered.map Utterance.answered ++ Utterance.ofPause next.pause

namespace Plan

variable (plan : Plan)

/-- The pause between the two fields, which is made for two fields only; none is longer than the longest wait. -/
def between (r : Record) : List Utterance :=
  if r.content = "" ∨ r.title = "" ∨ plan.delay = 0 then [] else [.pause (min plan.delay Translation.longestWait)]

/-- The pause that a step of the record ends with. -/
def paused (i : Item) : List Utterance :=
  match i.stage with
  | .asked .content _ => plan.between i.record
  | _ => []

/-- What is said in a step, by what becomes of the record in it. -/
def uttered (i i' : Item) : List Utterance :=
  match i.stage, i'.stage with
  | .asking part, .asked _ answer => [.call ⟨partText plan i.record part, plan.target⟩ answer]
  | _, _ => plan.paused i

theorem no_call_paused (i : Item) : (plan.paused i).filterMap Utterance.call? = [] := by
  unfold paused between
  split
  · split <;> rfl
  · rfl

end Plan

theorem between_eq (plan : Plan) (r : Record) :
    Utterance.ofPause (if r.content.isEmpty ∨ r.title.isEmpty then .none else .ofWait plan.delay) = plan.between r := by
  simp only [String.isEmpty_iff, Plan.between, Pause.ofWait]
  by_cases single : r.content = "" ∨ r.title = ""
  · have none_made : r.content = "" ∨ r.title = "" ∨ plan.delay = 0 := by
      rcases single with empty | empty <;> simp [empty]
    rw [if_pos single, if_pos none_made]
    rfl
  · obtain ⟨content, title⟩ := not_or.1 single
    rw [if_neg single]
    simp only [content, title, false_or]
    split <;> rfl

section Quiet

variable {p : Pipeline σ τ} {plan : Plan} {s : Shared σ τ} {i : Item}

/-- Whether a step passes without a call. -/
structure Quiet (p : Pipeline σ τ) (plan : Plan) (s : Shared σ τ) (i : Item) : Prop where
  session : (step p s i).shared.session = s.session
  pause : Utterance.ofPause (step p s i).pause = plan.paused i

theorem ofPause_ofYield (yields : Bool) : Utterance.ofPause (.ofYield yields) = [] := by
  cases yields <;> rfl

theorem quiet_arrived (r : Record) : Quiet p plan s ⟨r, .arrived⟩ := by
  have both : (arrive p s r).shared.session = s.session ∧ (arrive p s r).pause = .none := by
    unfold arrive
    split
    · exact ⟨rfl, rfl⟩
    · split
      · exact ⟨rfl, rfl⟩
      · split <;> exact ⟨rfl, rfl⟩
  exact ⟨both.1, congrArg Utterance.ofPause both.2⟩

theorem quiet_outside (outside : i.stage.isTranslating = false) : Quiet p plan s i := by
  obtain ⟨r, stage⟩ := i
  cases stage with
  | arrived => exact quiet_arrived r
  | looking | saving => exact ⟨rfl, ofPause_ofYield _⟩
  | looked answer =>
    rcases answer with f | _ | existing
    · exact ⟨closeItem_session s r _, rfl⟩
    · exact ⟨rfl, rfl⟩
    · exact ⟨closeItem_session _ r _, rfl⟩
  | saved answer =>
    rcases answer with f | row
    · exact ⟨closeItem_session s r _, rfl⟩
    · exact ⟨closeItem_session _ r _, rfl⟩
  | finished => exact ⟨rfl, rfl⟩
  | asking | asked => cases outside

variable (planned : p.plan = some plan)

include planned in
theorem quiet_asked (r : Record) (part : Part) (answer : Answer) : Quiet p plan s ⟨r, .asked part answer⟩ := by
  have heard : step p s ⟨r, .asked part answer⟩ = hear s r plan answer part := by simp only [step, planned]
  cases part with
  | content =>
    exact ⟨congrArg (·.shared.session) heard, (congrArg (Utterance.ofPause ·.pause) heard).trans (between_eq plan r)⟩
  | title =>
    exact ⟨(congrArg (·.shared.session) heard).trans (toSave_session _ _), congrArg (Utterance.ofPause ·.pause) heard⟩
  | both =>
    refine ⟨(congrArg (·.shared.session) heard).trans ?_, (congrArg (Utterance.ofPause ·.pause) heard).trans ?_⟩
    · rcases answer with f | _ | text
      · exact toSave_session _ r
      · exact toSave_session _ r
      · simp only [hear, hearBoth]
        split
        · exact toSave_session _ _
        · rfl
    · rcases answer with f | _ | text
      · rfl
      · rfl
      · simp only [hear, hearBoth]
        split <;> rfl

include planned in
theorem quiet_skipped {r : Record} {part : Part} (skip : part ≠ .both ∧ (partText plan r part).isEmpty = true) :
    Quiet p plan s ⟨r, .asking part⟩ ∧ plan.uttered ⟨r, .asking part⟩ (step p s ⟨r, .asking part⟩).item = [] := by
  have skipped : step p s ⟨r, .asking part⟩ = setField s r plan (some "") part := by
    simp only [step, planned, ask, if_pos skip]
  cases part with
  | both => exact absurd rfl skip.1
  | content =>
    have none_made : (setField s r plan (some "") .content).pause = .none := if_pos (.inl skip.2)
    refine ⟨⟨congrArg (·.shared.session) skipped, ?_⟩, ?_⟩
    · rw [skipped, none_made]
      rfl
    · rw [skipped]
      rfl
  | title =>
    have session := (congrArg (·.shared.session) skipped).trans (toSave_session _ _)
    refine ⟨⟨session, congrArg (Utterance.ofPause ·.pause) skipped⟩, ?_⟩
    rw [skipped]
    rfl

end Quiet

variable {p : Pipeline σ τ} {plan : Plan}

/-- What a record says in a step, that its calls are received in this order, and that a step without a call ends in the
pause that is told of it. -/
structure Utters (p : Pipeline σ τ) (plan : Plan) (s : Shared σ τ) (i : Item) : Prop where
  events : utterances p s i = plan.uttered i (step p s i).item
  received : (step p s i).shared.session.calls = s.session.calls ++ (utterances p s i).filterMap Utterance.call?
  slept : (utterances p s i).filterMap Utterance.call? = [] → Utterance.ofPause (step p s i).pause = utterances p s i

theorem Quiet.utters {s : Shared σ τ} {i : Item} (quiet : Quiet p plan s i)
    (overheard : Quiet p.overheard plan s.overheard i) (uncalled : plan.uttered i (step p s i).item = plan.paused i) :
    Utters p plan s i := by
  have events : utterances p s i = plan.paused i := by
    rw [utterances, overheard.session, overheard.pause]
    rfl
  refine ⟨events.trans uncalled.symm, ?_, fun _ => quiet.pause.trans events.symm⟩
  rw [events, plan.no_call_paused, quiet.session, List.append_nil]

theorem step_utters (planned : p.plan = some plan) (s : Shared σ τ) (i : Item) : Utters p plan s i := by
  have planned' : p.overheard.plan = some plan := planned
  by_cases outside : i.stage.isTranslating = false
  · refine (quiet_outside outside).utters (quiet_outside outside) ?_
    obtain ⟨r, stage⟩ := i
    cases stage with
    | asking | asked => cases outside
    | _ => rfl
  · obtain ⟨r, stage⟩ := i
    cases stage with
    | asked part answer =>
      exact (quiet_asked planned r part answer).utters (quiet_asked planned' r part answer) rfl
    | asking part =>
      by_cases skip : part ≠ .both ∧ (partText plan r part).isEmpty = true
      · obtain ⟨quiet, uncalled⟩ := quiet_skipped (s := s) planned skip
        exact quiet.utters (quiet_skipped planned' skip).1 uncalled
      · have called : step p s ⟨r, .asking part⟩ = call p plan s r part := by
          simp only [step, planned, ask, if_neg skip]
        have called' : step p.overheard s.overheard ⟨r, .asking part⟩ = call p.overheard plan s.overheard r part := by
          simp only [step, planned', ask, if_neg skip]
        have events : utterances p s ⟨r, .asking part⟩ =
            plan.uttered ⟨r, .asking part⟩ (step p s ⟨r, .asking part⟩).item := by
          rw [utterances, called, called']
          rfl
        refine ⟨events, ?_, ?_⟩
        · rw [events, called]
          rfl
        · intro none_called
          rw [events, called] at none_called
          cases none_called
    | _ => exact absurd rfl outside

namespace World

/-- What the record with index `n` says in its next step. -/
def utterances (p : Pipeline σ τ) (w : World σ τ) (n : Nat) : List (Nat × Utterance) :=
  match w.items[n]? with
  | none => []
  | some i => (Pipeline.utterances p w.shared i).map (n, ·)

/-- All that the records of a run say, in order, each utterance with the index of its record. -/
def transcript (p : Pipeline σ τ) (w : World σ τ) : List Nat → List (Nat × Utterance)
  | [] => []
  | n :: moves => w.utterances p n ++ (w.move p n).transcript p moves

theorem transcript_append (p : Pipeline σ τ) (w : World σ τ) (before after : List Nat) :
    w.transcript p (before ++ after) = w.transcript p before ++ (w.run p before).transcript p after := by
  induction before generalizing w with
  | nil => rfl
  | cons n before ih => rw [List.cons_append, transcript, ih, transcript, run_cons, List.append_assoc]

/-- The translator receives the calls of the transcript. -/
theorem run_received (planned : p.plan = some plan) (w : World σ τ) (moves : List Nat) :
    (w.run p moves).shared.session.calls =
      w.shared.session.calls ++ (w.transcript p moves).filterMap fun utterance => utterance.2.call? := by
  induction moves generalizing w with
  | nil => exact (List.append_nil _).symm
  | cons n moves ih =>
    rw [run_cons, ih, transcript, List.filterMap_append, ← List.append_assoc]
    congr 1
    cases found : w.items[n]? with
    | none =>
      simp only [move, utterances, found]
      exact (List.append_nil _).symm
    | some i =>
      rw [move_eq found]
      simp only [utterances, found, List.filterMap_map]
      exact (step_utters planned w.shared i).received

theorem ownOf_utterances_other (w : World σ τ) {m n : Nat} (other : m ≠ n) : ownOf (w.utterances p m) n = [] := by
  unfold utterances
  split
  · rfl
  · exact ownOf_there _ other

theorem utterances_finished {w : World σ τ} {n : Nat} (still : ∀ i, w.items[n]? = some i → i.outcome? ≠ none) :
    w.utterances p n = [] := by
  unfold utterances
  split
  · rfl
  · rename_i i found
    obtain ⟨r, stage⟩ := i
    cases stage with
    | finished o => rfl
    | _ => exact absurd rfl (still _ found)

/-- What holds of a record when it arrives and has said nothing, and is kept by its steps together with what it asks of
the store and says to the translator in them, holds of it in every run. -/
theorem run_dialogue (Local : Record → List Exchange → List Utterance → Item → Prop)
    (start : ∀ r, Local r [] [] ⟨r, .arrived⟩)
    (keep : ∀ {r calls said s i}, Local r calls said i → i.outcome? = none →
      Local r (calls ++ Pipeline.exchanges p s i) (said ++ Pipeline.utterances p s i) (step p s i).item)
    {s : Shared σ τ} {records : List Record} {moves : List Nat} {n : Nat} {i : Item}
    (found : ((ofRecords s records).run p moves).items[n]? = some i) :
    ∃ r, records[n]? = some r ∧ Local r (callsOf ((ofRecords s records).history p moves) n)
      (ownOf ((ofRecords s records).transcript p moves) n) i := by
  induction moves using List.reverseRecOn generalizing i with
  | nil =>
    obtain ⟨r, given, rfl⟩ := getElem?_arrived found
    exact ⟨r, given, start r⟩
  | append_singleton moves m ih =>
    rw [run_concat] at found
    rw [history_append, transcript_append, callsOf_append, ownOf_append]
    generalize (ofRecords s records).run p moves = w at found ih ⊢
    simp only [history, transcript, List.append_nil]
    by_cases same : m = n
    · subst same
      rcases w.active_or_still m with ⟨j, here, unfinished⟩ | still
      · obtain ⟨r, given, holds⟩ := ih here
        obtain rfl := Option.some.inj ((move_here here).symm.trans found)
        refine ⟨r, given, ?_⟩
        simp only [exchanges, utterances, here, callsOf_here, ownOf_here]
        exact keep holds unfinished
      · rw [move_eq_self still] at found
        rw [exchanges_finished still, utterances_finished still]
        simpa only [callsOf, ownOf, List.filterMap_nil, List.append_nil] using ih found
    · rw [callsOf_exchanges_other w same, ownOf_utterances_other w same, List.append_nil, List.append_nil]
      exact ih ((move_other same).symm.trans found)

end World

end Pipeline

end Harvest
