import Harvest.Proofs.Pipeline.Balance
import Harvest.Proofs.Pipeline.Protocol

/-!
Empty fields. A field that is empty is its own translation, and where the fields are sent one by one it always comes
to that. A packed text is sent even if there is nothing but the delimiter in it, and then the answer decides.
-/

namespace Harvest

/-- Whether the empty fields of a record have the empty text for their translations. -/
def Record.KeepsEmpty (x : Record) : Prop :=
  (x.title = "" → x.titleZh = some "") ∧ (x.content = "" → x.contentZh = some "")

namespace Pipeline

open Store (Exchange)
open Translation (Answer)

variable {σ τ : Type} {p : Pipeline σ τ} {plan : Plan}

namespace Plan

/-- Whether the answer for a packed text leaves an empty field with another translation than itself: there is nothing
in it and the record brought none along, or it has something in the place of an empty content. -/
def Spoils (plan : Plan) (r : Record) (answer : Answer) : Prop :=
  match heard answer with
  | none => ¬r.KeepsEmpty
  | some text => r.content = "" ∧
      ∃ first second, Translation.unpack text plan.delimiter = [first, second] ∧ second ≠ ""

variable {r x : Record} {answer : Answer} {said : List Utterance}

theorem Field.of_empty {value : Option String} (field : plan.Field "" said value) : said = [] ∧ value = some "" := by
  cases field with
  | empty => exact ⟨rfl, rfl⟩
  | sent worth => exact absurd rfl worth

theorem Separately.keepsEmpty (fields : plan.Separately r said x) : x.KeepsEmpty := by
  obtain ⟨content_said, title_said⟩ := fields
  refine ⟨?_, ?_⟩
  · intro empty
    exact (Field.of_empty (empty ▸ title_said)).2
  · intro empty
    exact (Field.of_empty (empty ▸ content_said)).2

theorem Separately.silent (fields : plan.Separately r said x) (title : r.title = "") (content : r.content = "") :
    said = [] ∧ x.isTranslated = true := by
  obtain ⟨content_said, title_said⟩ := fields
  obtain ⟨rfl, rfl⟩ := Field.of_empty (content ▸ content_said)
  obtain ⟨rfl, rfl⟩ := Field.of_empty (title ▸ title_said)
  rw [plan.between_of_content_empty content]
  exact ⟨rfl, rfl⟩

theorem Answered.keepsEmpty_iff (answered : plan.Answered r answer said x) :
    x.KeepsEmpty ↔ ¬plan.Spoils r answer := by
  cases answered with
  | unheard nothing =>
    simp only [Spoils, nothing, not_not]
  | @split text first second two whole =>
    have title : r.title = "" → some (if r.title = "" then "" else first) = some "" :=
      fun empty => congrArg some (if_pos empty)
    constructor
    · rintro ⟨_, content⟩ ⟨empty, first', second', two', more⟩
      cases two.symm.trans two'
      exact more (Option.some.inj (content empty))
    · intro unspoiled
      refine ⟨title, fun empty => congrArg some ?_⟩
      by_cases more : second = ""
      · exact more
      · exact absurd ⟨empty, first, second, two, more⟩ unspoiled
  | @fallBack text _ _ ambiguous again =>
    refine iff_of_true again.keepsEmpty ?_
    rintro ⟨_, first, second, two, _⟩
    exact ambiguous (congrArg List.length two)

theorem Answered.silent (answered : plan.Answered r answer said x) (title : r.title = "") (content : r.content = "") :
    said = [] ∧ (x.isTranslated = false ↔ heard answer = none ∧ r.isTranslated = false) := by
  cases answered with
  | unheard nothing => exact ⟨rfl, by simp [nothing]⟩
  | split => exact ⟨rfl, by simp [Record.isTranslated, heard]⟩
  | fallBack _ again =>
    obtain ⟨rfl, translated⟩ := again.silent title content
    exact ⟨rfl, by simp [translated, heard]⟩

end Plan

namespace Plan.Dialogue

variable {r x : Record} {said : List Utterance}

theorem keepsEmpty (dialogue : plan.Dialogue r said x) (mode : plan.mode = .separate) : x.KeepsEmpty := by
  cases dialogue with
  | separate _ fields => exact fields.keepsEmpty
  | packed other => cases mode.symm.trans other

theorem silent (dialogue : plan.Dialogue r said x) (mode : plan.mode = .separate) (title : r.title = "")
    (content : r.content = "") : said = [] ∧ x.isTranslated = true := by
  cases dialogue with
  | separate _ fields => exact fields.silent title content
  | packed other => cases mode.symm.trans other

/-- A packed text is sent whatever is in it. -/
theorem packed_sent (dialogue : plan.Dialogue r said x) (mode : plan.mode = .packed) :
    ∃ answer rest,
      said = .call ⟨Translation.pack r.title r.content plan.delimiter, plan.target⟩ answer :: rest ∧
      plan.Answered r answer rest x := by
  cases dialogue with
  | separate other => cases mode.symm.trans other
  | packed _ answered => exact ⟨_, _, rfl, answered⟩

end Plan.Dialogue

/-- What becomes of empty fields. In separate mode each record that is kept has the empty text for the translation of
an empty field, and one with two empty fields says nothing and is no failure. In packed mode the text is sent even then;
an empty field has another translation just if the answer spoils it, and a record with two empty fields is a failure
just if there is nothing in the answer and the record has not brought both translations along. The counter is raised for
each attempt to save a record without a complete translation. -/
theorem keeps_empty_iff_not_spoiled (planned : p.plan = some plan) (s : Shared σ τ) (records : List Record)
    (moves : List Nat) :
    let start := World.ofRecords s records
    let w := start.run p moves
    let history := start.history p moves
    let transcript := start.transcript p moves
    (w.isAtRest = true → w.shared.counters.translationFailures =
      s.counters.translationFailures + history.countP fun call => call.2.savesIncomplete) ∧
    ∀ n r, records[n]? = some r →
      (plan.mode = .separate →
        (∀ x, w.outcome? n = some (.ok (some x)) → x.KeepsEmpty) ∧
        (r.title = "" → r.content = "" →
          ownOf transcript n = [] ∧ ∀ call ∈ callsOf history n, call.savesIncomplete = false)) ∧
      (plan.mode = .packed → ∀ x, w.outcome? n = some (.ok (some x)) → ∃ answer rest,
        ownOf transcript n =
          .call ⟨Translation.pack r.title r.content plan.delimiter, plan.target⟩ answer :: rest ∧
        (x.KeepsEmpty ↔ ¬plan.Spoils r answer) ∧
        (r.title = "" → r.content = "" →
          rest = [] ∧ (x.isTranslated = false ↔ heard answer = none ∧ r.isTranslated = false))) := by
  intro start w history transcript
  refine ⟨?_, ?_⟩
  · intro rest
    have pending := World.run_pending planned s records moves
    rwa [World.countP_pending_of_isAtRest rest, Nat.add_zero] at pending
  · intro n r given
    refine ⟨?_, ?_⟩
    · intro mode
      refine ⟨fun x kept => (World.dialogue_of_kept planned given kept).keepsEmpty mode, ?_⟩
      intro title content
      obtain ⟨i, found⟩ := World.run_present p s moves given
      obtain ⟨course, told⟩ := World.run_told planned given found
      refine ⟨?_, ?_⟩
      · rcases told.beginning with silent | ⟨rest, x, dialogue⟩
        · exact silent
        · exact (List.append_eq_nil_iff.1 (dialogue.silent mode title content).1).1
      · rintro (⟨url, answer⟩ | ⟨row, answer⟩) member
        · rfl
        · have translated := ((told.dialogue course member).silent mode title content).2
          simp [Exchange.savesIncomplete, translated]
    · intro mode x kept
      obtain ⟨answer, rest, sent, answered⟩ := (World.dialogue_of_kept planned given kept).packed_sent mode
      exact ⟨answer, rest, sent, answered.keepsEmpty_iff, answered.silent⟩

/-- A translator that fails is not missed by a record with two empty fields in separate mode. -/
theorem keeps_empty_of_separate :
    let plan : Plan := ⟨"zh", 0, .separate, Translation.defaultDelimiter⟩
    let p := { trial ⟨[], []⟩ true (some plan) with translator := Translation.Rehearsal.failing.translator }
    let r : Record := ⟨"", "", "http://x", none, none, none, []⟩
    let w := (World.ofRecords trialStart [r]).run p (List.replicate 9 0)
    p.plan = some plan ∧
      (∃ x, w.outcome? 0 = some (.ok (some x)) ∧ x.KeepsEmpty ∧ x.titleZh = some "" ∧ x.contentZh = some "") ∧
      ownOf ((World.ofRecords trialStart [r]).transcript p (List.replicate 9 0)) 0 = [] := by
  intro plan p r w
  have planned : p.plan = some plan := rfl
  obtain ⟨keeps, silent⟩ :=
    ((keeps_empty_iff_not_spoiled planned trialStart [r] (List.replicate 9 0)).2 0 r rfl).1 rfl
  have fields : ((w.outcome? 0).bind Outcome.kept?).map (fun x => (x.titleZh, x.contentZh)) =
      some (some "", some "") := by
    decide +kernel
  obtain ⟨x, ended, same⟩ := World.exists_kept fields
  obtain ⟨title, content⟩ := Prod.mk.inj same
  exact ⟨planned, ⟨x, ended, keeps x ended, title, content⟩, (silent rfl rfl).1⟩

/-- In packed mode the same translator is sent the delimiter by itself, and the record is kept without translations and
counted. -/
theorem not_keeps_empty_of_unheard :
    let plan : Plan := ⟨"zh", 0, .packed, Translation.defaultDelimiter⟩
    let p := { trial ⟨[], []⟩ true (some plan) with translator := Translation.Rehearsal.failing.translator }
    let r : Record := ⟨"", "", "http://x", none, none, none, []⟩
    let w := (World.ofRecords trialStart [r]).run p (List.replicate 9 0)
    plan.delimiter ≠ "" ∧ r.hasBlankUrl = false ∧
      (∃ x, w.outcome? 0 = some (.ok (some x)) ∧ x.title = "" ∧ x.content = "" ∧ ¬x.KeepsEmpty) ∧
      w.shared.session.calls = [⟨"分隔符", "zh"⟩] ∧ w.shared.counters.translationFailures = 1 := by
  intro plan p r w
  have fields : ((w.outcome? 0).bind Outcome.kept?).map (fun x => (x.title, x.content, x.titleZh)) =
      some ("", "", none) := by
    decide +kernel
  obtain ⟨x, ended, same⟩ := World.exists_kept fields
  obtain ⟨title, rest⟩ := Prod.mk.inj same
  obtain ⟨content, titleZh⟩ := Prod.mk.inj rest
  have spoiled : ¬x.KeepsEmpty := fun keeps => by simp [keeps.1 title] at titleZh
  exact ⟨by decide, by decide, ⟨x, ended, title, content, spoiled⟩, by decide +kernel, by decide +kernel⟩

end Pipeline

end Harvest
