import Harvest.Proofs.Pipeline.Dialogue
import Harvest.Proofs.Translation.Unpacking
import Harvest.Translation.Rehearsal

/-!
The protocol between a record and the translator. `Dialogue` tells what a record may say and what it becomes by the
answers: each field in a call of its own, or both in one call and, where the answer is ambiguous, each field once more.
Main statement: a record that asks to be stored has held such a dialogue, and any other record has said nothing.
-/

namespace Harvest.Pipeline

open Store (Exchange)
open Translation (Answer Call Translator)

variable {σ τ : Type} {p : Pipeline σ τ} {plan : Plan}

namespace Plan

variable (plan : Plan)

/-- What is said for the sake of a field, and what its translation is after that. -/
inductive Field (text : String) : List Utterance → Option String → Prop
  | empty (nothing : text = "") : Field text [] (some "")
  | sent (worth : text ≠ "") (answer : Answer) : Field text [.call ⟨text, plan.target⟩ answer] (heard answer)

/-- The content and then the title, whatever the answer for the content. -/
inductive Separately (r : Record) : List Utterance → Record → Prop
  | fields {first second : List Utterance} {content title : Option String}
      (content_said : plan.Field r.content first content) (title_said : plan.Field r.title second title) :
      Separately r (first ++ plan.between r ++ second) { r with contentZh := content, titleZh := title }

/-- What is still said after the answer for both fields. -/
inductive Answered (r : Record) : Answer → List Utterance → Record → Prop
  | unheard {answer : Answer} (nothing : heard answer = none) : Answered r answer [] r
  | split {text first second : String} (two : Translation.unpack text plan.delimiter = [first, second])
      (whole : text = first ++ plan.delimiter ++ second) :
      Answered r (.ok (some text)) []
        { r with titleZh := some (if r.title = "" then "" else first), contentZh := some second }
  | fallBack {text : String} {said : List Utterance} {x : Record}
      (ambiguous : (Translation.unpack text plan.delimiter).length ≠ 2) (again : plan.Separately r said x) :
      Answered r (.ok (some text)) said x

/-- What the record `r`, once it is let in, says to the translator, and the record that it becomes. -/
inductive Dialogue (r : Record) : List Utterance → Record → Prop
  | separate {said : List Utterance} {x : Record} (mode : plan.mode = .separate) (fields : plan.Separately r said x) :
      Dialogue r said x
  | packed {answer : Answer} {said : List Utterance} {x : Record} (mode : plan.mode = .packed)
      (answered : plan.Answered r answer said x) :
      Dialogue r (.call ⟨Translation.pack r.title r.content plan.delimiter, plan.target⟩ answer :: said) x

/-- What a record may still say from a stage on, and the record that it then becomes. -/
def Rest (i : Item) (rest : List Utterance) (x : Record) : Prop :=
  match i.stage with
  | .asking .both => ∃ answer said,
      rest = .call ⟨Translation.pack i.record.title i.record.content plan.delimiter, plan.target⟩ answer :: said ∧
        plan.Answered i.record answer said x
  | .asked .both answer => plan.Answered i.record answer rest x
  | .asking .content => plan.Separately i.record rest x
  | .asked .content answer => ∃ second title, rest = plan.between i.record ++ second ∧
      plan.Field i.record.title second title ∧ x = { i.record with contentZh := heard answer, titleZh := title }
  | .asking .title => ∃ title, plan.Field i.record.title rest title ∧ x = { i.record with titleZh := title }
  | .asked .title answer => rest = [] ∧ x = { i.record with titleZh := heard answer }
  | _ => rest = [] ∧ x = i.record

theorem between_of_content_empty {r : Record} (empty : r.content = "") : plan.between r = [] := if_pos (.inl empty)

theorem exists_field (text : String) : ∃ said value, plan.Field text said value := by
  by_cases nothing : text = ""
  · exact ⟨_, _, .empty nothing⟩
  · exact ⟨_, _, .sent nothing (.ok none)⟩

theorem exists_separately (r : Record) : ∃ said x, plan.Separately r said x := by
  obtain ⟨_, _, content_said⟩ := plan.exists_field r.content
  obtain ⟨_, _, title_said⟩ := plan.exists_field r.title
  exact ⟨_, _, .fields content_said title_said⟩

theorem exists_answered (r : Record) (answer : Answer) : ∃ said x, plan.Answered r answer said x := by
  rcases answer with f | _ | text
  · exact ⟨_, _, .unheard rfl⟩
  · exact ⟨_, _, .unheard rfl⟩
  · by_cases two : (Translation.unpack text plan.delimiter).length = 2
    · obtain ⟨first, second, parts⟩ := List.length_eq_two.1 two
      exact ⟨_, _, .split parts (Translation.eq_of_unpack_eq_pair parts)⟩
    · obtain ⟨said, x, again⟩ := plan.exists_separately r
      exact ⟨said, x, .fallBack two again⟩

/-- Whatever the answers, a record comes to an end of its dialogue. -/
theorem exists_rest (i : Item) : ∃ rest x, plan.Rest i rest x := by
  obtain ⟨r, stage⟩ := i
  cases stage with
  | asking part =>
    cases part with
    | both =>
      obtain ⟨said, x, answered⟩ := plan.exists_answered r (.ok none)
      exact ⟨_, x, _, said, rfl, answered⟩
    | content => exact plan.exists_separately r
    | title =>
      obtain ⟨said, title, title_said⟩ := plan.exists_field r.title
      exact ⟨said, _, title, title_said, rfl⟩
  | asked part answer =>
    cases part with
    | both => exact plan.exists_answered r answer
    | content =>
      obtain ⟨said, title, title_said⟩ := plan.exists_field r.title
      exact ⟨_, _, said, title, rfl, title_said, rfl⟩
    | title => exact ⟨_, _, rfl, rfl⟩
  | _ => exact ⟨_, _, rfl, rfl⟩

theorem dialogue_of_rest {r x : Record} {rest : List Utterance} (later : plan.Rest ⟨r, firstStage (some plan)⟩ rest x) :
    plan.Dialogue r rest x := by
  cases mode : plan.mode with
  | separate =>
    simp only [firstStage, mode] at later
    exact .separate mode later
  | packed =>
    simp only [firstStage, mode] at later
    obtain ⟨answer, said, rfl, answered⟩ := later
    exact .packed mode answered

end Plan

theorem Work.rest {t : Translator τ} {i i' : Item} {rest : List Utterance} {x : Record} (work : Work t plan i i')
    (later : plan.Rest i' rest x) : plan.Rest i (plan.uttered i i' ++ rest) x := by
  cases work with
  | @send r part memory worth =>
    cases part with
    | both => exact ⟨_, rest, rfl, later⟩
    | content =>
      obtain ⟨second, title, rfl, title_said, rfl⟩ := later
      exact .fields (.sent (worth.resolve_left (by decide)) _) title_said
    | title =>
      obtain ⟨rfl, rfl⟩ := later
      exact ⟨_, .sent (worth.resolve_left (by decide)) _, rfl⟩
  | @skipContent r empty =>
    obtain ⟨title, title_said, rfl⟩ := later
    have fields := Plan.Separately.fields (.empty empty) title_said
    rwa [plan.between_of_content_empty empty] at fields
  | @hearContent r answer =>
    obtain ⟨title, title_said, rfl⟩ := later
    exact ⟨rest, title, rfl, title_said, rfl⟩
  | fallBack ambiguous =>
    exact .fallBack (Translation.fields?_eq_none ambiguous) later

theorem Ready.rest {i : Item} {r : Record} (ready : Ready plan i r) :
    plan.Rest i (plan.uttered i ⟨r, .saving⟩) r := by
  cases ready with
  | skipTitle empty => exact ⟨_, .empty empty, rfl⟩
  | hearTitle answer => exact ⟨rfl, rfl⟩
  | split fields =>
    obtain ⟨part, two, rfl⟩ := Translation.fields?_eq_some fields
    exact .split two (Translation.eq_of_unpack_eq_pair two)
  | unheard nothing => exact .unheard nothing

/-- Whether a record has been let in: it is under translation, or has asked to be stored or is about to. -/
def Item.IsIn (i : Item) (calls : List Exchange) : Prop :=
  i.stage.isTranslating = true ∨ i.stage = .saving ∨ ∃ row answer, .append row answer ∈ calls

/-- Stages in which it is open whether a record is let in. -/
def Stage.isEarly : Stage → Bool
  | .arrived | .looking | .looked _ => true
  | _ => false

theorem Stage.not_isEarly_of_isTranslating {stage : Stage} (asked : stage.isTranslating = true) :
    stage.isEarly = false := by
  cases stage <;> first | rfl | cases asked

namespace Course

variable {r : Record} {i : Item} {calls : List Exchange}

theorem not_append_mem_lookups (p : Pipeline σ τ) (r : Record) (row : StoredRecord)
    (answer : Except Harvest.Failure Unit) : .append row answer ∉ lookups p r := by
  unfold lookups
  split <;> simp

theorem not_isIn (course : Course p r i calls) (early : i.stage.isEarly = true) : ¬i.IsIn calls := by
  cases course with
  | arrived | looking | looked => simp [Item.IsIn, Stage.isTranslating]
  | translating _ asked => exact absurd (Stage.not_isEarly_of_isTranslating asked) (by simp [early])
  | _ => cases early

theorem isIn_of_saved (course : Course p r i calls) {answer : Except Harvest.Failure StoredRecord}
    (saved : i.stage = .saved answer) : ∃ row answer, .append row answer ∈ calls := by
  cases course with
  | saved | unsaved => exact ⟨_, _, List.mem_append_right _ (List.mem_singleton.2 rfl)⟩
  | translating _ asked => 
    rw [saved] at asked
    cases asked
  | _ => cases saved

/-- A record that has asked to be stored has no more to say. -/
theorem rest_of_append (course : Course p r i calls) {row : StoredRecord} {answer : Except Harvest.Failure Unit}
    (member : .append row answer ∈ calls) : plan.Rest i [] row.record := by
  have unlooked := not_append_mem_lookups p r row answer
  cases course with
  | arrived | looking | blank | inFlight => cases member
  | looked | known | lookFailed => cases List.mem_singleton.1 member
  | translating | saving => exact absurd member unlooked
  | saved | unsaved | saveFailed | kept =>
    cases List.mem_singleton.1 ((List.mem_append.1 member).resolve_left unlooked)
    exact ⟨rfl, rfl⟩

end Course

/-- What a record has said: nothing before it is let in, and from then on the first part of a dialogue. -/
inductive Told (p : Pipeline σ τ) (plan : Plan) (r : Record) (calls : List Exchange) : List Utterance → Item → Prop
  | outside {i : Item} (out : ¬i.IsIn calls) : Told p plan r calls [] i
  | inside {said : List Utterance} {i : Item} (isIn : i.IsIn calls)
      (to_come : ∀ rest x, plan.Rest i rest x → plan.Dialogue (r.stamp p.taskId) (said ++ rest) x) :
      Told p plan r calls said i

theorem Asks.of_saving {store : σ} {i i' : Item} {calls : List Exchange} (asks : Asks p store i calls i')
    (saving : i.stage = .saving) : ∃ row answer, calls = [.append row answer] := by
  cases asks with
  | nothing quiet =>
    rw [saving] at quiet
    cases quiet
  | find => cases saving
  | append => exact ⟨_, _, rfl⟩

theorem Asks.not_append_mem {store : σ} {i i' : Item} {calls : List Exchange} (asks : Asks p store i calls i')
    (other : i.stage ≠ .saving) (row : StoredRecord) (answer : Except Harvest.Failure Unit) :
    .append row answer ∉ calls := by
  cases asks with
  | nothing | find => simp
  | append => exact absurd rfl other

namespace Told

variable {r : Record} {i i' : Item} {calls more : List Exchange} {said : List Utterance}

theorem let_in (stage : i = ⟨r.stamp p.taskId, firstStage (some plan)⟩) : Told p plan r calls [] i := by
  subst stage
  exact .inside (.inl (firstStage_isTranslating plan)) fun rest x later => plan.dialogue_of_rest later

theorem keep (planned : p.plan = some plan) {b b' : Books σ} (course : Course p r i calls)
    (told : Told p plan r calls said i) (effect : Effect p b i b' i') (asks : Asks p b.store i more i') :
    Told p plan r (calls ++ more) (said ++ plan.uttered i i') i' := by
  cases told with
  | outside out =>
    -- a record that is not let in by this step has still not asked to be stored
    have refused (other : i.stage ≠ .saving) (away : i'.stage.isTranslating = false) (idle : i'.stage ≠ .saving) :
        Told p plan r (calls ++ more) [] i' := by
      refine .outside ?_
      rintro (asked | saving | ⟨row, answer, member⟩)
      · simp [away] at asked
      · exact idle saving
      · rcases List.mem_append.1 member with before | now
        · exact out (.inr (.inr ⟨row, answer, before⟩))
        · exact asks.not_append_mem other row answer now
    cases effect with
    | reject | collide | claim | look | lookFailed | known => exact refused nofun rfl nofun
    | enter =>
      cases course with
      | arrived => exact let_in (planned ▸ rfl)
      | translating _ asked => cases asked
    | fresh =>
      cases course with
      | looked => exact let_in (planned ▸ rfl)
      | translating _ asked => cases asked
    | work _ work => exact absurd (.inl work.isTranslating.1) out
    | ready _ ready => exact absurd (.inl ready.isTranslating) out
    | unplanned _ asked => exact absurd (.inl asked) out
    | save => exact absurd (.inr (.inl rfl)) out
    | saveFailed | keep => exact absurd (.inr (.inr (course.isIn_of_saved rfl))) out
  | inside isIn to_come =>
    have ahead {j : Item} (quiet : plan.uttered i j = []) (same : ∀ rest x, plan.Rest j rest x → plan.Rest i rest x) :
        ∀ rest x, plan.Rest j rest x → plan.Dialogue (r.stamp p.taskId) (said ++ plan.uttered i j ++ rest) x := by
      intro rest x later
      rw [quiet, List.append_nil]
      exact to_come rest x (same rest x later)
    cases effect with
    | reject | enter | collide | claim | look | lookFailed | known | fresh => exact absurd isIn (course.not_isIn rfl)
    | work planned' work =>
      obtain rfl := Option.some.inj (planned.symm.trans planned')
      refine .inside (.inl work.isTranslating.2) ?_
      intro rest x later
      rw [List.append_assoc]
      exact to_come _ x (work.rest later)
    | ready planned' ready =>
      obtain rfl := Option.some.inj (planned.symm.trans planned')
      refine .inside (.inr (.inl rfl)) ?_
      rintro rest x ⟨rfl, rfl⟩
      rw [List.append_nil]
      exact to_come _ _ ready.rest
    | unplanned plain => simp [planned] at plain
    | save =>
      obtain ⟨row, answer, rfl⟩ := asks.of_saving rfl
      exact .inside (.inr (.inr ⟨row, answer, List.mem_append_right _ (List.mem_singleton.2 rfl)⟩))
        (ahead rfl fun _ _ later => later)
    | saveFailed | keep =>
      obtain ⟨row, answer, member⟩ := course.isIn_of_saved rfl
      exact .inside (.inr (.inr ⟨row, answer, List.mem_append_left _ member⟩)) (ahead rfl fun _ _ later => later)

end Told

theorem Told.move (planned : p.plan = some plan) {s : Shared σ τ} {r : Record} {i : Item} {calls : List Exchange}
    {said : List Utterance} (both : Course p r i calls ∧ Told p plan r calls said i) (unfinished : i.outcome? = none) :
    Course p r (step p s i).item (calls ++ exchanges p s i) ∧
      Told p plan r (calls ++ exchanges p s i) (said ++ utterances p s i) (step p s i).item := by
  obtain ⟨course, told⟩ := both
  have effect := step_effect p s i unfinished
  have asks := step_asks p s i unfinished
  rw [(step_utters planned s i).events]
  exact ⟨course.keep effect asks, told.keep planned course effect asks⟩

theorem World.run_told (planned : p.plan = some plan) {s : Shared σ τ} {records : List Record} {moves : List Nat}
    {n : Nat} {r : Record} {i : Item} (given : records[n]? = some r)
    (found : ((ofRecords s records).run p moves).items[n]? = some i) :
    Course p r i (callsOf ((ofRecords s records).history p moves) n) ∧
      Told p plan r (callsOf ((ofRecords s records).history p moves) n)
        (ownOf ((ofRecords s records).transcript p moves) n) i := by
  obtain ⟨r', given', both⟩ := run_dialogue (p := p)
    (fun r calls said i => Course p r i calls ∧ Told p plan r calls said i)
    (fun r => ⟨.arrived, .outside (Course.arrived.not_isIn (p := p) (r := r) rfl)⟩) (Told.move planned) found
  obtain rfl := Option.some.inj (given.symm.trans given')
  exact both

namespace Told

variable {r : Record} {i : Item} {calls : List Exchange} {said : List Utterance}

theorem silent (told : Told p plan r calls said i) (out : ¬i.IsIn calls) : said = [] := by
  cases told with
  | outside => rfl
  | inside isIn => exact absurd isIn out

/-- The dialogue of a record that has asked to be stored is over. -/
theorem dialogue (course : Course p r i calls) (told : Told p plan r calls said i) {row : StoredRecord}
    {answer : Except Harvest.Failure Unit} (member : .append row answer ∈ calls) :
    plan.Dialogue (r.stamp p.taskId) said row.record := by
  cases told with
  | outside out => exact absurd (.inr (.inr ⟨row, answer, member⟩)) out
  | inside _ to_come =>
    have last := to_come [] row.record (course.rest_of_append member)
    rwa [List.append_nil] at last

theorem beginning (told : Told p plan r calls said i) :
    said = [] ∨ ∃ rest x, plan.Dialogue (r.stamp p.taskId) (said ++ rest) x := by
  cases told with
  | outside => exact .inl rfl
  | inside _ to_come =>
    obtain ⟨rest, x, later⟩ := plan.exists_rest i
    exact .inr ⟨rest, x, to_come rest x later⟩

end Told

namespace Course

variable {r x y : Record} {i : Item} {calls : List Exchange}

theorem not_isIn_of_blank (course : Course p r i calls) (unnamed : r.hasBlankUrl = true) : ¬i.IsIn calls := by
  have not_named (named : r.hasBlankUrl = false) : False := by simp [named] at unnamed
  cases course with
  | arrived | blank => simp [Item.IsIn, Stage.isTranslating]
  | _ => exact (not_named ‹_›).elim

theorem not_isIn_of_dropped (course : Course p r ⟨x, .finished (.ok none)⟩ calls) :
    ¬(⟨x, .finished (.ok none)⟩ : Item).IsIn calls := by
  cases course with
  | inFlight | known => simp [Item.IsIn, Stage.isTranslating]
  | translating _ asked => cases asked

theorem not_isIn_of_find_error (course : Course p r i calls) {url : String} {f : Harvest.Failure}
    (member : .find url (.error f) ∈ calls) : ¬i.IsIn calls := by
  have unlooked : .find url (.error f) ∉ lookups p r := by
    unfold lookups
    split <;> simp
  cases course with
  | looked | lookFailed => simp [Item.IsIn, Stage.isTranslating]
  | arrived | looking | blank | inFlight => cases member
  | known => cases List.mem_singleton.1 member
  | translating | saving => exact absurd member unlooked
  | saved | unsaved | saveFailed | kept =>
    cases List.mem_singleton.1 ((List.mem_append.1 member).resolve_left unlooked)

/-- How a record ends: turned away in one of three ways, or after it has asked to be stored. -/
theorem finished_cases {o : Outcome} (course : Course p r ⟨x, .finished o⟩ calls) :
    r.hasBlankUrl = true ∨ o = .ok none ∨ (∃ f, .find r.url (.error f) ∈ calls) ∨
      ∃ row answer, .append row answer ∈ calls := by
  cases course with
  | translating _ asked => cases asked
  | blank unnamed => exact .inl unnamed
  | inFlight | known => exact .inr (.inl rfl)
  | lookFailed => exact .inr (.inr (.inl ⟨_, List.mem_singleton.2 rfl⟩))
  | saveFailed | kept => exact .inr (.inr (.inr ⟨_, _, List.mem_append_right _ (List.mem_singleton.2 rfl)⟩))

theorem append_mem_of_kept (course : Course p r ⟨x, .finished (.ok (some y))⟩ calls) :
    ∃ row, row.record = y ∧ .append row (.ok ()) ∈ calls := by
  cases course with
  | translating _ asked => cases asked
  | kept => exact ⟨_, rfl, List.mem_append_right _ (List.mem_singleton.2 rfl)⟩

end Course

theorem World.dialogue_of_kept (planned : p.plan = some plan) {s : Shared σ τ} {records : List Record}
    {moves : List Nat} {n : Nat} {r x : Record} (given : records[n]? = some r)
    (kept : ((ofRecords s records).run p moves).outcome? n = some (.ok (some x))) :
    plan.Dialogue (r.stamp p.taskId) (ownOf ((ofRecords s records).transcript p moves) n) x := by
  obtain ⟨y, found⟩ := outcome?_eq_some.1 kept
  obtain ⟨course, told⟩ := run_told planned given found
  obtain ⟨row, rfl, member⟩ := course.append_mem_of_kept
  exact told.dialogue course member

end Harvest.Pipeline
