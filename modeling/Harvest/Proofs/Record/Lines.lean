import Harvest.Proofs.Json.Unbroken
import Harvest.Proofs.Record.RoundTrip
import Harvest.Proofs.Text.Lines
import Harvest.Record.Lines

/-!
Records as JSON lines. Main statement: a text that lists records, with blank lines and line ends of both kinds, is read
as these records in order, and any text is read all or nothing, up to its first bad line.
-/

namespace Harvest.Record

open Json Text

/-- Texts that list records: the JSON text of each on a line of its own, lines of blanks anywhere, and a line end after
every line, which the last line may lack. -/
inductive Listing : List Record → List Char → Prop
  | blankLast {s : List Char} (blank : s.all isBlank = true) (unbroken : '\n' ∉ s) : Listing [] s
  | recordLast (r : Record) : Listing [r] r.toJson.write
  | blank {s e t : List Char} {rs : List Record} (blank : s.all isBlank = true) (unbroken : '\n' ∉ s)
      (ends : IsLineEnd e) (rest : Listing rs t) : Listing rs (s ++ e ++ t)
  | record {e t : List Char} {rs : List Record} (r : Record) (ends : IsLineEnd e) (rest : Listing rs t) :
      Listing (r :: rs) (r.toJson.write ++ e ++ t)

theorem getLast?_writeMembers (ms : List (String × Json)) : (writeMembers ms).getLast? = some '\x7d' := by
  induction ms with
  | nil => rfl
  | cons m ms ih =>
    rw [writeMembers, List.getLast?_append, ih]
    rfl

theorem write_toJson (r : Record) : ∃ s, r.toJson.write = '\x7b' :: s ∧ s.getLast? = some '\x7d' := by
  refine ⟨_, by rw [toJson, members, write]; rfl, ?_⟩
  change (_ ++ writeMembers _).getLast? = _
  rw [List.getLast?_append, getLast?_writeMembers]
  rfl

theorem isBlankText_compact (r : Record) : isBlankText r.toJson.compact = false := by
  obtain ⟨s, text, _⟩ := write_toJson r
  rw [isBlankText, compact, String.toList_ofList, text, List.all_cons]
  rfl

/-- The text of a record on a line is all of that line: it does not end with a carriage return. -/
theorem linesFrom_write (r : Record) {e : List Char} (ends : IsLineEnd e) (t : List Char) :
    linesFrom [] (r.toJson.write ++ e ++ t) = r.toJson.write :: linesFrom [] t := by
  obtain ⟨line, split, rfl | returned⟩ := linesFrom_line (feed_not_mem_write r.toJson) ends t
  · exact split
  · obtain ⟨s, text, last⟩ := write_toJson r
    have whole : r.toJson.write.getLast? = some '\x7d' := by
      rw [text, List.getLast?_cons, last]
      rfl
    rw [returned, List.getLast?_concat] at whole
    exact absurd whole (by decide)

/-- Whether a line stands in no reader's way: it is blank, or it is a record. -/
def Passes (line : String) : Prop := isBlankText line = true ∨ ∃ r, parse line = .ok r

section Steps

variable {line : String} {r : Record} {e : Error} {f : Failure}

theorem ofLines_blank (blank : isBlankText line = true) (n : Nat) (rest : List String) :
    ofLines n (line :: rest) = ofLines (n + 1) rest := by
  rw [ofLines, if_pos blank]

theorem ofLines_record (printed : isBlankText line = false) (read : parse line = .ok r) (n : Nat)
    (rest : List String) : ofLines n (line :: rest) = (ofLines (n + 1) rest).map (r :: ·) := by
  rw [ofLines, if_neg (by simp [printed]), read]

theorem ofLines_bad (printed : isBlankText line = false) (read : parse line = .error e) (n : Nat)
    (rest : List String) : ofLines n (line :: rest) = .error ⟨s!"Invalid record on line {n}", [e.message]⟩ := by
  rw [ofLines, if_neg (by simp [printed]), read]

theorem ofLines_eq_error_of_passes (passes : Passes line) (n : Nat) (rest : List String) :
    ofLines n (line :: rest) = .error f ↔ ofLines (n + 1) rest = .error f := by
  by_cases blank : isBlankText line = true
  · rw [ofLines_blank blank]
  · obtain ⟨r, read⟩ := passes.resolve_left blank
    rw [ofLines_record (by simpa using blank) read]
    cases ofLines (n + 1) rest <;> simp [Except.map]

end Steps

theorem ofLines_listing {rs : List Record} {t : List Char} (listing : Listing rs t)
    (kept : ∀ r ∈ rs, parse r.toJson.compact = .ok r) (n : Nat) :
    ofLines n ((linesFrom [] t).map String.ofList) = .ok rs := by
  have passed {s : List Char} (blank : s.all isBlank = true) : isBlankText (String.ofList s) = true := by
    rwa [isBlankText, String.toList_ofList]
  induction listing generalizing n with
  | blankLast blank unbroken =>
    rw [linesFrom_last unbroken]
    split
    · rfl
    · exact ofLines_blank (passed blank) n []
  | recordLast r =>
    have printed : r.toJson.write ≠ [] := by
      obtain ⟨s, text, _⟩ := write_toJson r
      simp [text]
    rw [linesFrom_last (feed_not_mem_write r.toJson), if_neg printed]
    exact ofLines_record (isBlankText_compact r) (kept r List.mem_cons_self) n []
  | blank blank unbroken ends rest ih =>
    obtain ⟨line, split, whole⟩ := linesFrom_line unbroken ends _
    have line_blank : line.all isBlank = true := by
      rcases whole with rfl | rfl
      · exact blank
      · rw [List.all_append] at blank
        exact (Bool.and_eq_true_iff.1 blank).1
    rw [split, List.map_cons, ofLines_blank (passed line_blank), ih kept]
  | record r ends rest ih =>
    rw [List.forall_mem_cons] at kept
    rw [linesFrom_write r ends, List.map_cons]
    exact (ofLines_record (isBlankText_compact r) kept.1 n _).trans (by rw [ih kept.2]; rfl)

/-- Lines are read as records just if each line with something on it is read as its record. -/
theorem ofLines_eq_ok {rs : List Record} : ∀ (ls : List String) (n : Nat), ofLines n ls = .ok rs ↔
    List.Forall₂ (fun line r => parse line = .ok r) (ls.filter fun line => !isBlankText line) rs := by
  intro ls
  induction ls generalizing rs with
  | nil =>
    intro n
    simp [ofLines, eq_comm]
  | cons line ls ih =>
    intro n
    by_cases blank : isBlankText line = true
    · rw [ofLines_blank blank, List.filter_cons_of_neg (by simp [blank]), ih]
    · have printed : isBlankText line = false := by simpa using blank
      rw [List.filter_cons_of_pos (by simp [printed]), List.forall₂_cons_left_iff]
      cases read : parse line with
      | ok r =>
        rw [ofLines_record printed read, map_eq_ok]
        simp only [ih, Except.ok.injEq]
        constructor
        · rintro ⟨later, all, rfl⟩
          exact ⟨r, later, rfl, all, rfl⟩
        · rintro ⟨_, later, rfl, all, rfl⟩
          exact ⟨later, all, rfl⟩
      | error e =>
        rw [ofLines_bad printed read]
        simp

/-- Where lines are not read, the first bad one says why, and its number counts all lines. -/
theorem ofLines_eq_error {f : Failure} : ∀ (ls : List String) (n : Nat), ofLines n ls = .error f ↔
    ∃ before line after e, ls = before ++ line :: after ∧ (∀ l ∈ before, Passes l) ∧ isBlankText line = false ∧
      parse line = .error e ∧ f = ⟨s!"Invalid record on line {n + before.length}", [e.message]⟩ := by
  intro ls n
  constructor
  · intro failed
    induction ls generalizing n with
    | nil => cases failed
    | cons first ls ih =>
      by_cases passes : Passes first
      · obtain ⟨before, line, after, e, rfl, passed, bad⟩ :=
          ih (n + 1) ((ofLines_eq_error_of_passes passes n ls).1 failed)
        refine ⟨first :: before, line, after, e, rfl, List.forall_mem_cons.2 ⟨passes, passed⟩, ?_⟩
        rwa [List.length_cons, Nat.add_comm before.length, ← Nat.add_assoc]
      · obtain ⟨nonblank, unread⟩ := not_or.1 passes
        have printed : isBlankText first = false := by simpa using nonblank
        cases read : parse first with
        | ok r => exact absurd ⟨r, read⟩ unread
        | error e =>
          rw [ofLines_bad printed read] at failed
          exact ⟨[], first, ls, e, rfl, by simp, printed, read, (Except.error.inj failed).symm⟩
  · rintro ⟨before, line, after, e, rfl, passed, printed, read, rfl⟩
    induction before generalizing n with
    | nil => exact ofLines_bad printed read n after
    | cons first before ih =>
      rw [List.forall_mem_cons] at passed
      rw [List.cons_append, ofLines_eq_error_of_passes passed.1, List.length_cons, Nat.add_comm before.length,
        ← Nat.add_assoc]
      exact ih (n + 1) passed.2

/-- Lines are read, all or nothing, just if each of them passes. -/
theorem exists_ofLines_eq_ok (ls : List String) (n : Nat) :
    (∃ rs, ofLines n ls = .ok rs) ↔ ∀ line ∈ ls, Passes line := by
  induction ls generalizing n with
  | nil => simp [ofLines]
  | cons line ls ih =>
    rw [List.forall_mem_cons, ← ih (n + 1), exists_eq_ok_iff, exists_eq_ok_iff]
    by_cases passes : Passes line
    · simp only [ne_eq, ofLines_eq_error_of_passes passes, passes, true_and]
    · obtain ⟨nonblank, unread⟩ := not_or.1 passes
      cases read : parse line with
      | ok r => exact absurd ⟨r, read⟩ unread
      | error e => simp [ofLines_bad (by simpa using nonblank) read, passes]

/-- Records as JSON lines. Records that are read back from their own texts, as those without floating-point numbers are
whose extra fields keep clear of the names of the fixed ones and which nest no deeper than a reader goes, are read from
any text that lists them, in order. And any text is read just if its lines are blank or records, as the records of
the latter; otherwise its first bad line is named. -/
theorem parseLines_in_order_or_first_bad_line :
    (∀ r : Record, r.WellFormed → r.isFloatless = true → r.toJson.depth ≤ maxRoom →
      (∀ m ∈ r.extra, m.1 ∉ fixedNames) → parse r.toJson.compact = .ok r) ∧
    (∀ rs text, Listing rs text.toList → (∀ r ∈ rs, parse r.toJson.compact = .ok r) → parseLines text = .ok rs) ∧
    ∀ text, ((∃ rs, parseLines text = .ok rs) ↔ ∀ line ∈ lines text, Passes line) ∧
      (∀ rs, parseLines text = .ok rs ↔ List.Forall₂ (fun line r => parse line = .ok r)
        ((lines text).filter fun line => !isBlankText line) rs) ∧
      ∀ f, parseLines text = .error f ↔
        ∃ before line after e, lines text = before ++ line :: after ∧ (∀ l ∈ before, Passes l) ∧
          isBlankText line = false ∧ parse line = .error e ∧
          f = ⟨s!"Invalid record on line {before.length + 1}", [e.message]⟩ := by
  refine ⟨?_, ?_, ?_⟩
  · intro r formed floatless shallow extra
    exact parse_compact (isKept_of_isFloatless formed.proper floatless) formed.merged shallow extra
  · intro rs text listing kept
    exact ofLines_listing listing kept 1
  · intro text
    refine ⟨exists_ofLines_eq_ok (lines text) 1, fun rs => ofLines_eq_ok (lines text) 1, fun f => ?_⟩
    have failed := ofLines_eq_error (f := f) (lines text) 1
    simp only [Nat.add_comm 1] at failed
    exact failed

/-- Two records between blank lines, and a text whose second line is not a record. -/
theorem parseLines_between_blank_lines :
    let r : Record := ⟨"two\nlines", "b", "u", none, none, none, [("n", .number (.integer 1))]⟩
    let text := [' '] ++ ['\r', '\n'] ++ (r.toJson.write ++ ['\n'] ++ (['\t'] ++ ['\n'] ++ r.toJson.write))
    parse r.toJson.compact = .ok r ∧ parseLines (String.ofList text) = .ok [r, r] ∧
      parseLines "\n\x7b\x7d\n!" = .error ⟨"Invalid record on line 2", ["missing field `title`"]⟩ := by
  intro r text
  obtain ⟨keeps, lists, each⟩ := parseLines_in_order_or_first_bad_line
  have kept : parse r.toJson.compact = .ok r := keeps r ⟨by decide, by decide⟩ (by decide) (by decide) (by decide)
  have listing : Listing [r, r] text :=
    .blank (by decide) (by decide) (by decide) (.record r (by decide) (.blank (by decide) (by decide) (by decide)
      (.recordLast r)))
  have unread : parse "\x7b\x7d" = .error (.missingField "title") := rfl
  have blank : Passes "" := .inl (by decide)
  refine ⟨kept, lists [r, r] _ (by rwa [String.toList_ofList]) (by simp [kept]), ?_⟩
  exact ((each _).2.2 _).2 ⟨[""], _, ["!"], _, by decide, by simp [blank], by decide, unread, rfl⟩

end Harvest.Record
