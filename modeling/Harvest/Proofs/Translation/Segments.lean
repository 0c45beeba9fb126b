import Harvest.Proofs.Translation.Response

/-!
What a list of segments depends on besides its translations. The source of a segment is not used, but one that is
neither a text nor null makes the list as a whole something else, and its translations are lost.
-/

namespace Harvest.Translation

open Json Record

/-- The lists of objects that have one translation each, beside any other members. -/
def EachTranslated : List Json → List String → Prop :=
  List.Forall₂ fun v part => ∃ ms, v = .object ms ∧ given "dst" ms = [.string part]

/-- Whether the objects of a list have at most one source each, a text or null. -/
def Sourced (vs : List Json) : Prop :=
  ∀ v ∈ vs, ∃ ms src, v = .object ms ∧ OptionalText (given "src" ms) src

variable {vs ws : List Json} {parts : List String} {s : String}

theorem Segment.form_of_translated {ms : List (String × Json)} {part other : String}
    (translated : given "dst" ms = [.string part]) : (∃ src, Form (.object ms) src (some other)) ↔
      (∃ src, OptionalText (given "src" ms) src) ∧ other = part := by
  constructor
  · rintro ⟨src, form⟩
    obtain ⟨source, translation⟩ := form
    rw [translated] at translation
    cases translation
    exact ⟨⟨src, source⟩, rfl⟩
  · rintro ⟨⟨src, source⟩, rfl⟩
    exact ⟨src, .object source (translated ▸ .text other)⟩

theorem EachTranslated.forms_iff (translated : EachTranslated vs parts) {others : List String} :
    List.Forall₂ (fun v part => ∃ src, Segment.Form v src (some part)) vs others ↔ Sourced vs ∧ others = parts := by
  induction translated generalizing others with
  | nil => simp [Sourced]
  | @cons v part vs parts first _ ih =>
    obtain ⟨ms, rfl, dst⟩ := first
    have sourced : Sourced (.object ms :: vs) ↔ (∃ src, OptionalText (given "src" ms) src) ∧ Sourced vs := by
      simp [Sourced]
    rw [List.forall₂_cons_left_iff, sourced]
    constructor
    · rintro ⟨other, others, form, forms, rfl⟩
      obtain ⟨source, rfl⟩ := (Segment.form_of_translated dst).1 form
      obtain ⟨sources, rfl⟩ := ih.1 forms
      exact ⟨⟨source, sources⟩, rfl⟩
    · rintro ⟨⟨source, sources⟩, rfl⟩
      exact ⟨part, parts, (Segment.form_of_translated dst).2 ⟨source, rfl⟩, ih.2 ⟨sources, rfl⟩, rfl⟩

theorem EachTranslated.translates_iff (translated : EachTranslated vs parts) :
    Translates (.array vs) s ↔ Sourced vs ∧ s = String.join parts := by
  constructor
  · rintro ⟨forms⟩
    obtain ⟨sourced, rfl⟩ := translated.forms_iff.1 forms
    exact ⟨sourced, rfl⟩
  · rintro ⟨sourced, rfl⟩
    exact .list (translated.forms_iff.2 ⟨sourced, rfl⟩)

namespace Response

theorem text?_of_translated {body : String} (answers : Answers body (.array vs)) (translated : EachTranslated vs parts) :
    ∃ r, parse body = .ok r ∧ ∀ s, r.text? = some s ↔ Sourced vs ∧ s = String.join parts ∧ s ≠ "" := by
  obtain ⟨r, read, text⟩ := text?_of_answers answers
  refine ⟨r, read, fun s => ?_⟩
  rw [text, Result.text?_eq_some, translated.translates_iff]
  tauto

/-- Two answers with the same translations have the same text just if the sources are well formed in both or in none
of them, unless the translations are empty. -/
theorem text?_eq_iff_sourced {body body' : String} (answers : Answers body (.array vs))
    (answers' : Answers body' (.array ws)) (translated : EachTranslated vs parts) (translated' : EachTranslated ws parts) :
    ∃ r r', parse body = .ok r ∧ parse body' = .ok r' ∧
      (∀ s, r.text? = some s ↔ Sourced vs ∧ s = String.join parts ∧ s ≠ "") ∧
      (r.text? = r'.text? ↔ (Sourced vs ↔ Sourced ws) ∨ String.join parts = "") := by
  obtain ⟨r, read, text⟩ := text?_of_translated answers translated
  obtain ⟨r', read', text'⟩ := text?_of_translated answers' translated'
  refine ⟨r, r', read, read', text, ?_⟩
  have same : r.text? = r'.text? ↔ ∀ s, r.text? = some s ↔ r'.text? = some s := Option.ext_iff
  rw [same]
  simp only [text, text']
  constructor
  · intro each
    by_cases empty : String.join parts = ""
    · exact .inr empty
    · have both := each (String.join parts)
      exact .inl (by simpa [empty] using both)
  · rintro (both | empty) s
    · rw [both]
    · constructor
      · rintro ⟨-, rfl, full⟩
        exact absurd empty full
      · rintro ⟨-, rfl, full⟩
        exact absurd empty full

/-- A source that is a number takes the translation away that is there beside another one. -/
theorem text?_ne_of_number :
    let vs : List Json := [.object [("src", .string "a"), ("dst", .string "A")]]
    let ws : List Json := [.object [("k", .null), ("src", .number (.integer 5)), ("dst", .string "A")]]
    ∃ r r', parse (object [("trans_result", .array vs)]).compact = .ok r ∧
      parse (object [("trans_result", .array ws)]).compact = .ok r' ∧ r.text? = some "A" ∧ r.text? ≠ r'.text? := by
  intro vs ws
  have answers : Answers (object [("trans_result", .array vs)]).compact (.array vs) :=
    answers_result (by simp [vs, Json.numbers, itemNumbers, memberNumbers]) (by decide)
  have answers' : Answers (object [("trans_result", .array ws)]).compact (.array ws) := by
    refine answers_result ?_ (by decide)
    simpa [ws, Json.numbers, itemNumbers, memberNumbers] using isKept_integer (k := 5) (by decide)
  have translated : EachTranslated vs ["A"] := .cons ⟨_, rfl, rfl⟩ .nil
  have translated' : EachTranslated ws ["A"] := .cons ⟨_, rfl, rfl⟩ .nil
  obtain ⟨r, r', read, read', text, same⟩ := text?_eq_iff_sourced answers answers' translated translated'
  have sourced : Sourced vs := by
    intro v member
    obtain rfl := List.mem_singleton.1 member
    exact ⟨_, some "a", rfl, .text "a"⟩
  have unsourced : ¬Sourced ws := by
    intro all
    obtain ⟨ms, src, ⟨⟩, source⟩ := all _ List.mem_cons_self
    cases source
  have lost : ¬((Sourced vs ↔ Sourced ws) ∨ String.join ["A"] = "") := by
    simp [sourced, unsourced]
  exact ⟨r, r', read, read', (text "A").2 ⟨sourced, rfl, by decide⟩, mt same.1 lost⟩

theorem no_text_of_number :
    let vs : List Json := [.object [("src", .number (.integer 5)), ("dst", .string "A")]]
    let body := "\x7b\"trans_result\":[\x7b\"src\":5,\"dst\":\"A\"\x7d]\x7d"
    Answers body (.array vs) ∧ EachTranslated vs ["A"] ∧
      ∃ r, parse body = .ok r ∧ r.text? = none ∧ String.join ["A"] ≠ "" := by
  intro vs body
  have written : (object [("trans_result", .array vs)]).compact = body := by decide +kernel
  have answers : Answers body (.array vs) := by
    refine written ▸ answers_result ?_ (by decide)
    simpa [vs, Json.numbers, itemNumbers, memberNumbers] using isKept_integer (k := 5) (by decide)
  have translated : EachTranslated vs ["A"] := .cons ⟨_, rfl, rfl⟩ .nil
  obtain ⟨r, read, text⟩ := text?_of_translated answers translated
  refine ⟨answers, translated, r, read, ?_, by decide⟩
  rw [Option.eq_none_iff_forall_ne_some]
  intro s found
  obtain ⟨ms, src, ⟨⟩, source⟩ := ((text s).1 found).1 _ List.mem_cons_self
  cases source

end Response

end Harvest.Translation
