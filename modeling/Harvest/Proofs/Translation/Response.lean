import Harvest.Proofs.Json.Members
import Harvest.Proofs.Json.Written
import Harvest.Proofs.Record.Format
import Harvest.Translation.Response

/-!
What an answer of the service is taken to say. A result is a translation if it is a list of segments that all have
one, or an object with a text in one of two places; an answer with a result in any other form is read too, and says
nothing.
-/

namespace Harvest.Translation

open Json Record

/-- The forms of a segment with its two texts: an object in which each is given at most once, or an array of at most
both of them in order. -/
inductive Segment.Form : Json → Option String → Option String → Prop
  | object {ms : List (String × Json)} {src dst : Option String} (source : OptionalText (given "src" ms) src)
      (translation : OptionalText (given "dst" ms) dst) : Form (.object ms) src dst
  | empty : Form (.array []) none none
  | source (src : Option String) : Form (.array [optionalValue src]) src none
  | pair (src dst : Option String) : Form (.array [optionalValue src, optionalValue dst]) src dst

/-- The text that a result translates to: of a list, the translations of its segments one after the other; of an
object, the text that was given last under `dst`, or if nothing was, the one in the object under `0`. -/
inductive Translates : Json → String → Prop
  | list {vs : List Json} {parts : List String}
      (each : List.Forall₂ (fun v part => ∃ src, Segment.Form v src (some part)) vs parts) :
      Translates (.array vs) (String.join parts)
  | direct {ms : List (String × Json)} {s : String} (found : (given "dst" ms).getLast? = some (.string s)) :
      Translates (.object ms) s
  | first {ms inner : List (String × Json)} {s : String} (absent : given "dst" ms = [])
      (zero : (given "0" ms).getLast? = some (.object inner))
      (found : (given "dst" inner).getLast? = some (.string s)) : Translates (.object ms) s

namespace Segment

variable {v : Json} {ms : List (String × Json)} {seg : Segment} {t : Option String}

theorem text?_eq_some : text? v = some t ↔ v = optionalValue t := by
  cases t <;> cases v <;> simp [text?, Json.optionalText, Json.text, optionalValue, Except.map, Except.toOption]

/-- What is made of the values under a name, when one may have been read before. -/
def Collected (now : Option (Option String)) (vs : List Json) (t : Option String) : Prop :=
  match now with
  | none => OptionalText vs t
  | some s => vs = [] ∧ s = t

theorem given_cons (name key : String) (v : Json) (ms : List (String × Json)) :
    given name ((key, v) :: ms) = if key = name then v :: given name ms else given name ms := by
  by_cases same : key = name <;> simp [given, same]

theorem optionalText_cons {vs : List Json} :
    OptionalText (v :: vs) t ↔ v = optionalValue t ∧ vs = [] := by
  constructor
  · intro optional
    cases optional <;> exact ⟨rfl, rfl⟩
  · rintro ⟨rfl, rfl⟩
    cases t with
    | none => exact .null
    | some s => exact .text s

theorem collected_nil {now : Option (Option String)} : Collected now [] t ↔ now.getD none = t := by
  cases now with
  | none =>
    constructor
    · rintro ⟨⟩
      rfl
    · rintro rfl
      exact .missing
  | some s => simp [Collected]

theorem collected_cons {vs : List Json} {now : Option (Option String)} :
    Collected now (v :: vs) t ↔ now = none ∧ ∃ s, text? v = some s ∧ Collected (some s) vs t := by
  cases now with
  | none =>
    simp only [Collected, optionalText_cons, text?_eq_some, true_and]
    constructor
    · rintro ⟨rfl, rfl⟩
      exact ⟨t, rfl, rfl, rfl⟩
    · rintro ⟨s, rfl, rfl, rfl⟩
      exact ⟨rfl, rfl⟩
  | some s => simp [Collected]

/-- The members of an object are a segment as the values under its two names are texts. -/
theorem ofMembers_eq_some {src dst : Option (Option String)} : ofMembers src dst ms = some seg ↔
    Collected src (given "src" ms) seg.src ∧ Collected dst (given "dst" ms) seg.dst := by
  induction ms generalizing src dst with
  | nil =>
    obtain ⟨s, d⟩ := seg
    simp [ofMembers, given, collected_nil]
  | cons m ms ih =>
    obtain ⟨key, v⟩ := m
    simp only [ofMembers, given_cons]
    by_cases source : key = "src"
    · subst source
      cases src with
      | some s => simp [collected_cons]
      | none => simp [collected_cons, ih, Option.bind_eq_some_iff, ← exists_and_right, and_assoc]
    · by_cases translation : key = "dst"
      · subst translation
        cases dst with
        | some s => simp [collected_cons]
        | none => simp [collected_cons, ih, Option.bind_eq_some_iff, and_left_comm]
      · simp [source, translation, ih]

theorem ofJson_eq_some : ofJson v = some seg ↔ Form v seg.src seg.dst := by
  obtain ⟨src, dst⟩ := seg
  constructor
  · intro read
    unfold ofJson at read
    split at read
    · obtain ⟨source, translation⟩ := ofMembers_eq_some.1 read
      exact .object source translation
    · cases read
      exact .empty
    · obtain ⟨s, first, read⟩ := Option.bind_eq_some_iff.1 read
      cases read
      rw [text?_eq_some.1 first]
      exact .source src
    · obtain ⟨s, first, read⟩ := Option.bind_eq_some_iff.1 read
      obtain ⟨d, second, read⟩ := Option.bind_eq_some_iff.1 read
      cases read
      rw [text?_eq_some.1 first, text?_eq_some.1 second]
      exact .pair src dst
    · cases read
  · intro form
    cases form with
    | object source translation => exact ofMembers_eq_some.2 ⟨source, translation⟩
    | empty => rfl
    | source =>
      rw [ofJson, text?_eq_some.2 rfl]
      rfl
    | pair =>
      rw [ofJson, text?_eq_some.2 rfl, text?_eq_some.2 rfl]
      rfl

end Segment

namespace Result

variable {v : Json} {vs : List Json} {ms : List (String × Json)} {s : String}

/-- In an object as it is kept, a key has the last value that was given for it. -/
theorem get?_mergedMembers (name : String) (ms : List (String × Json)) :
    get? name (mergedMembers [] ms) = (given name ms).getLast?.map merged := by
  rw [(gathered_mergedMembers ms).values, if_neg List.not_mem_nil]

/-- The text of a value that may be missing. -/
def textOf : Option Json → Option String
  | some (.string s) => some s
  | _ => none

theorem textOf_map_merged {v : Option Json} : textOf (v.map merged) = some s ↔ v = some (.string s) := by
  rcases v with _ | v
  · simp [textOf]
  · cases v <;> simp [textOf, merged]

theorem ofSingle_eq_some : ofSingle (mergedMembers [] ms) = some s ↔ Translates (.object ms) s := by
  simp only [ofSingle, get?_mergedMembers]
  constructor
  · intro found
    cases last : (given "dst" ms).getLast? with
    | some v =>
      simp only [last, Option.map_some] at found
      have text : textOf (some v.merged) = some s := found
      exact .direct (last.trans (textOf_map_merged.1 text))
    | none =>
      have absent : given "dst" ms = [] := List.getLast?_eq_none_iff.1 last
      simp only [last, Option.map_none] at found
      cases zero : (given "0" ms).getLast? with
      | none => simp [zero] at found
      | some w =>
        cases w with
        | object inner =>
          simp only [zero, Option.map_some, merged, get?_mergedMembers] at found
          have text : textOf ((given "dst" inner).getLast?.map merged) = some s := found
          exact .first absent zero (textOf_map_merged.1 text)
        | _ => simp [zero, merged] at found
  · intro translates
    cases translates with
    | direct found => simp only [found, Option.map_some, merged]
    | first absent zero found =>
      simp only [absent, zero, List.getLast?_nil, Option.map_none, Option.map_some, merged, get?_mergedMembers, found]

/-- A list is translated if all its items are segments with translations. -/
theorem joined_eq_some : ((vs.mapM Segment.ofJson).bind joined) = some s ↔ Translates (.array vs) s := by
  have form {v : Json} {part : String} : (∃ seg, Segment.ofJson v = some seg ∧ seg.dst = some part) ↔
      ∃ src, Segment.Form v src (some part) := by
    constructor
    · rintro ⟨seg, read, dst⟩
      exact ⟨seg.src, dst ▸ Segment.ofJson_eq_some.1 read⟩
    · rintro ⟨src, form⟩
      exact ⟨⟨src, some part⟩, Segment.ofJson_eq_some.2 form, rfl⟩
  simp only [Option.bind_eq_some_iff, joined, Option.map_eq_some_iff]
  constructor
  · rintro ⟨list, read, parts, dsts, rfl⟩
    have each := mapM_mapM_eq_some.1 ⟨list, read, dsts⟩
    exact .list (each.imp fun _ _ found => form.1 found)
  · rintro ⟨⟩
    rename_i parts each
    obtain ⟨list, read, dsts⟩ := mapM_mapM_eq_some.2 (each.imp fun _ _ found => form.2 found)
    exact ⟨list, read, parts, dsts, rfl⟩

/-- A result is usable just as what it translates to, which must not be empty. -/
theorem text?_eq_some : (ofJson v).text? = some s ↔ s ≠ "" ∧ Translates v s := by
  have nothing : ¬Translates v s → (none.filter (· ≠ "") = some s ↔ s ≠ "" ∧ Translates v s) :=
    fun silent => by simp [silent]
  cases v with
  | array vs =>
    rw [← joined_eq_some, ofJson]
    cases vs.mapM Segment.ofJson with
    | none => simp [text?]
    | some list =>
      rw [Option.bind_some, text?, Option.filter_eq_some_iff, and_comm]
      simp
  | object ms =>
    rw [← ofSingle_eq_some, ofJson, text?, Option.filter_eq_some_iff, and_comm]
    simp
  | _ => exact nothing fun translates => by cases translates

end Result

namespace Response

/-- Whether the value of a member can be read as its name asks for: a text or null, any value, or for a name that is
not known something that can be passed over. -/
def Fits (room : Nat) (name : String) (d : Doc) : Prop :=
  if name ∈ ["from", "to", "error_msg"] then ∃ s, d.optional (Doc.text "a string") = .ok s
  else if name ∈ ["trans_result", "error_code"] then ∃ v, d.content room = .ok v
  else d.skim = .ok ()

/-- The members of an answer with the result `v`: all of them can be read, known ones come once, and the result is
among them. -/
structure IsAnswer (room : Nat) (ms : List (String × Doc)) (v : Json) : Prop where
  fits : ∀ m ∈ ms, Fits room m.1 m.2
  once : ((ms.map Prod.fst).filter (· ∈ Member.names fields)).Nodup
  result : ∃ d, ("trans_result", d) ∈ ms ∧ d.content room = .ok v

/-- The members that are found in an object, by their names. -/
def Named (ds : List (Scan String × Doc)) (ms : List (String × Doc)) : Prop :=
  List.Forall₂ (fun found m => found.1.value = .ok m.1 ∧ found.2 = m.2) ds ms

/-- Whether a text is an answer with the result `v`: one object, with members as they should be. -/
def Answers (body : String) (v : Json) : Prop :=
  ∃ ds close ms, Document.ofText body = ⟨.object ds close, false⟩ ∧ close.objectFlaw? = none ∧ Named ds ms ∧
    IsAnswer (maxRoom - 1) ms v

variable {room : Nat} {name : String} {d : Doc} {v : Json} {r : Response}

/-- The result of an answer in its form, unless it is null. -/
def resultOf : Json → Option Result
  | .null => none
  | v => some (Result.ofJson v)

theorem optional_content (content : d.content room = .ok v) :
    ∃ found, d.optional (Doc.content room) = .ok found ∧ found.map Result.ofJson = resultOf v := by
  cases Doc.reads_of_content content with
  | null => exact ⟨none, rfl, rfl⟩
  | _ => exact ⟨some _, map_eq_ok.2 ⟨_, content, rfl⟩, rfl⟩

theorem optional_value (content : d.content room = .ok v) : ∃ found, d.optional (Doc.value room) = .ok found := by
  cases Doc.reads_of_content content with
  | null => exact ⟨none, rfl⟩
  | _ => exact ⟨some _, map_eq_ok.2 ⟨_, map_eq_ok.2 ⟨_, content, rfl⟩, rfl⟩⟩

/-- A known member that fits is read, and the result is set by its own member only. -/
theorem read_of_fits {field : Member Response} (found : fields.find? (·.name = name) = some field)
    (fits : Fits room name d) (r : Response) : ∃ r', field.read room d r = .ok r' ∧
      (name ≠ "trans_result" → r'.result = r.result) ∧
      ∀ v, name = "trans_result" → d.content room = .ok v → r'.result = resultOf v := by
  have named : field.name = name := by simpa using List.find?_some found
  have member := List.mem_of_find?_eq_some found
  subst named
  simp only [fields, List.mem_cons, List.not_mem_nil, or_false] at member
  rcases member with rfl | rfl | rfl | rfl | rfl
  · obtain ⟨s, text⟩ := fits
    exact ⟨_, map_eq_ok.2 ⟨s, text, rfl⟩, fun _ => rfl, fun v other => absurd other (by decide)⟩
  · obtain ⟨s, text⟩ := fits
    exact ⟨_, map_eq_ok.2 ⟨s, text, rfl⟩, fun _ => rfl, fun v other => absurd other (by decide)⟩
  · obtain ⟨v, content⟩ := fits
    obtain ⟨found, read, result⟩ := optional_content content
    refine ⟨_, map_eq_ok.2 ⟨found, read, rfl⟩, fun other => absurd rfl other, fun w _ again => ?_⟩
    rw [content] at again
    cases again
    exact result
  · obtain ⟨v, content⟩ := fits
    obtain ⟨found, read⟩ := optional_value content
    exact ⟨_, map_eq_ok.2 ⟨found, read, rfl⟩, fun _ => rfl, fun v other => absurd other (by decide)⟩
  · obtain ⟨s, text⟩ := fits
    exact ⟨_, map_eq_ok.2 ⟨s, text, rfl⟩, fun _ => rfl, fun v other => absurd other (by decide)⟩

theorem skim_of_fits (fits : Fits room name d) (unknown : name ∉ Member.names fields) : d.skim = .ok () := by
  have others : name ∉ ["from", "to", "error_msg"] ∧ name ∉ ["trans_result", "error_code"] := by
    simp only [Member.names, fields, textField, List.map_cons, List.map_nil, List.mem_cons, List.not_mem_nil, or_false,
      not_or] at unknown ⊢
    tauto
  rwa [Fits, if_neg others.1, if_neg others.2] at fits

/-- Members that fit, known ones once, are all read, and the result is the one among them. -/
theorem readMembers_of_fits {close : Close} (ends : close.objectFlaw? = none) {docs ms : List (String × Doc)}
    {ds : List (Scan String × Doc)} (found : Named ds ms) (fits : ∀ m ∈ ms, Fits room m.1 m.2)
    (admitted : Member.Admitted fields docs ms) {seen : List String} (new : Member.Unread fields seen ms)
    (r : Response) : ∃ r', Member.readMembers fields room seen r ds close = .ok r' ∧
      ("trans_result" ∉ ms.map Prod.fst → r'.result = r.result) ∧
      ∀ d v, ("trans_result", d) ∈ ms → d.content room = .ok v → r'.result = resultOf v := by
  induction found generalizing seen r with
  | nil => exact ⟨r, orDone_eq_ok.2 ⟨ends, rfl⟩, fun _ => rfl, fun d v member => by cases member⟩
  | @cons a m ds ms same _ ih =>
    obtain ⟨key, d⟩ := a
    obtain ⟨name, d'⟩ := m
    obtain ⟨named, rfl⟩ : key.value = .ok name ∧ d = d' := same
    have fit := fits _ List.mem_cons_self
    have rest_fits : ∀ m ∈ ms, Fits room m.1 m.2 := fun m member => fits m (List.mem_cons_of_mem _ member)
    by_cases known : name ∈ Member.names fields
    · obtain ⟨field, lookup⟩ := Option.ne_none_iff_exists'.1 (mt Member.find?_eq_none.1 (not_not.2 known))
      have apart := admitted.not_mem_tail known
      obtain ⟨next, read, kept, set⟩ := read_of_fits lookup fit r
      obtain ⟨r', rest, same, result⟩ := ih rest_fits admitted.tail (new.next admitted known) next
      rw [Member.readMembers_known named lookup (new name known List.mem_cons_self) read]
      refine ⟨r', rest, ?_, ?_⟩
      · intro absent
        rw [List.map_cons, List.mem_cons, not_or] at absent
        rw [same absent.2, kept (Ne.symm absent.1)]
      · intro d v member content
        rcases List.mem_cons.1 member with here | there
        · cases here
          rw [same apart, set v rfl content]
        · exact result d v there content
    · obtain ⟨r', rest, same, result⟩ := ih rest_fits admitted.tail new.tail r
      rw [Member.readMembers_unknown named known (skim_of_fits fit known)]
      refine ⟨r', rest, ?_, ?_⟩
      · intro absent
        exact same fun member => absent (List.mem_cons_of_mem _ member)
      · intro d v member content
        rcases List.mem_cons.1 member with here | there
        · cases here
          exact absurd (by decide) known
        · exact result d v there content

/-- An answer is read, and its text is that of its result. -/
theorem text?_of_answers {body : String} (answers : Answers body v) :
    ∃ r, parse body = .ok r ∧ r.text? = (Result.ofJson v).text? := by
  obtain ⟨ds, close, ms, document, ends, found, fits, once, d, member, content⟩ := answers
  have admitted : Member.Admitted fields ms ms :=
    ⟨fun m member _ => member, fun m member => skim_of_fits (fits m member), once⟩
  obtain ⟨r, read, _, result⟩ := readMembers_of_fits ends found fits admitted (fun _ _ _ => List.not_mem_nil) {}
  refine ⟨r, (decode_of_document document).trans read, ?_⟩
  rw [text?, result d v member content]
  cases v <;> rfl

theorem named_memberDocs (ms : List (String × Json)) : Named (memberDocs ms) (namedDocs (object ms)) := by
  induction ms with
  | nil => exact .nil
  | cons m ms ih => exact .cons ⟨rfl, rfl⟩ ih

/-- An object is an answer as it is written, if its numbers are read as they are written. -/
theorem answers_compact {ms : List (String × Json)} (kept : ∀ n ∈ (object ms).numbers, IsKept n)
    (answer : IsAnswer (maxRoom - 1) (namedDocs (object ms)) v) : Answers (object ms).compact v :=
  ⟨_, _, _, ofText_compact kept, rfl, named_memberDocs ms, answer⟩

/-- Every value that does not nest too deeply is the result of an answer. -/
theorem answers_result (kept : ∀ n ∈ v.numbers, IsKept n) (shallow : v.depth ≤ maxRoom - 1) :
    Answers (object [("trans_result", v)]).compact v := by
  have content := content_toDoc v shallow
  refine answers_compact (by simpa [Json.numbers, memberNumbers] using kept) ⟨?_, ?_, ?_⟩
  · rintro m (_ | ⟨_, ⟨⟩⟩)
    exact ⟨v, content⟩
  · simp [namedDocs, List.Nodup.filter]
  · exact ⟨toDoc v, List.mem_singleton_self _, content⟩

/-- An answer with any result is read, and its text is what the result translates to, unless this is empty. -/
theorem parse_answer {body : String} (answers : Answers body v) :
    ∃ r, parse body = .ok r ∧ ∀ s, r.text? = some s ↔ s ≠ "" ∧ Translates v s := by
  obtain ⟨r, read, text⟩ := text?_of_answers answers
  exact ⟨r, read, fun s => text ▸ Result.text?_eq_some⟩

/-- An answer whose segments come in both forms, beside other members. -/
theorem parse_answer_in_both_forms :
    let first : Json := .object [("src", .null), ("dst", .string "A"), ("k", .array [.bool true])]
    let second : Json := .array [.string "b", .string "B"]
    let result : Json := .array [first, second]
    let body := object [("from", .string "en"), ("x", .null), ("trans_result", result), ("error_code", .bool true)]
    ∃ r, parse body.compact = .ok r ∧ r.text? = some "AB" := by
  intro first second result body
  have form : Segment.Form first none (some "A") := .object .null (.text "A")
  have form' : Segment.Form second (some "b") (some "B") := .pair (some "b") (some "B")
  have answer : Answers body.compact result := by
    refine answers_compact ?_ ⟨?_, by decide, toDoc result, by simp [namedDocs], rfl⟩
    · simp [result, first, second, Json.numbers, itemNumbers, memberNumbers]
    · simp only [namedDocs, List.map, List.forall_mem_cons]
      exact ⟨⟨_, rfl⟩, rfl, ⟨_, rfl⟩, ⟨_, rfl⟩, fun _ none => absurd none List.not_mem_nil⟩
  obtain ⟨r, read, text⟩ := parse_answer answer
  exact ⟨r, read, (text "AB").2 ⟨by decide, .list (.cons ⟨_, form⟩ (.cons ⟨_, form'⟩ .nil))⟩⟩

end Response

end Harvest.Translation
