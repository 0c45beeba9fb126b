import Harvest.Json.Reader
import Harvest.Proofs.Json.Scalars
import Harvest.Proofs.Json.Values

/-!
Written values, read again. However a writer spaces the text of a value, on one line or indented, the reader takes it
for the value's own document, whatever follows, as long as the numbers are read back from their own texts; whole numbers
that fit are.
-/

namespace Harvest.Json

/-- What a value may begin with: it is not passed over, and not taken for the end of an array or object. -/
structure OpensValue (c : Char) : Prop where
  printed : isSpace c = false
  bracket : c ≠ ']'
  brace : c ≠ '\x7d'

theorem opensValue_of_isDigit {c : Char} (digit : c.isDigit = true) : OpensValue c := by
  refine ⟨?_, ?_, ?_⟩
  · by_contra space
    simp only [Bool.not_eq_false, isSpace, Bool.or_eq_true, decide_eq_true_eq] at space
    rcases space with ((rfl | rfl) | rfl) | rfl <;> exact absurd digit (by decide)
  · rintro rfl
    exact absurd digit (by decide)
  · rintro rfl
    exact absurd digit (by decide)

theorem skipSpace_cons {c : Char} (printed : isSpace c = false) (s : List Char) : skipSpace (c :: s) = c :: s :=
  List.dropWhile_cons_of_neg (by simp [printed])

theorem skipSpace_append {gap : List Char} (blank : ∀ c ∈ gap, isSpace c = true) (s : List Char) :
    skipSpace (gap ++ s) = skipSpace s := List.dropWhile_append_of_pos blank

theorem readValue_append {gap : List Char} (blank : ∀ c ∈ gap, isSpace c = true) (fuel : Nat) (s : List Char) :
    readValue fuel (gap ++ s) = readValue fuel s := by
  cases fuel with
  | zero => rfl
  | succ fuel => rw [readValue, readValue, skipSpace_append blank]

/-- Whether a number is read back from its own text. -/
def IsKept (n : Number) : Prop := scanNumber (writeNumber n) = (.plain n, some [])

theorem isKept_integer {k : Int} (fits : Number.fits k = true) : IsKept (.integer k) := scanNumber_integer fits

theorem writeNumber_eq_cons {n : Number} (kept : IsKept n) : ∃ c s, writeNumber n = c :: s ∧
    (c = '-' ∨ c.isDigit = true) := by
  by_cases signed : (writeNumber n).head? = some '-'
  · obtain ⟨s, text⟩ := List.head?_eq_some_iff.1 signed
    exact ⟨'-', s, text, .inl rfl⟩
  · rw [IsKept, scanNumber_unsigned signed] at kept
    split at kept
    · rename_i scanned
      obtain ⟨c, s, text, digit⟩ := exists_digit_of_scanDigits (scanNumeral_eq_ok.1 scanned).1
      exact ⟨c, s, text, .inr digit⟩
    · cases kept

theorem write_eq_cons {v : Json} (kept : ∀ n ∈ v.numbers, IsKept n) : ∃ c s, write v = c :: s ∧ OpensValue c := by
  cases v with
  | null => exact ⟨_, _, rfl, by decide, by decide, by decide⟩
  | bool b => cases b <;> exact ⟨_, _, rfl, by decide, by decide, by decide⟩
  | string s => exact ⟨_, _, rfl, by decide, by decide, by decide⟩
  | array vs => cases vs <;> exact ⟨_, _, rfl, by decide, by decide, by decide⟩
  | object ms => cases ms <;> exact ⟨_, _, rfl, by decide, by decide, by decide⟩
  | number n =>
    obtain ⟨c, s, text, rfl | digit⟩ := writeNumber_eq_cons (kept n List.mem_cons_self)
    · exact ⟨_, _, text, by decide, by decide, by decide⟩
    · exact ⟨c, s, text, opensValue_of_isDigit digit⟩

theorem readValue_numeral {c : Char} (opens : c = '-' ∨ c.isDigit = true) (fuel : Nat) (s : List Char) :
    readValue (fuel + 1) (c :: s) = (.number (scanNumber (c :: s)).1, (scanNumber (c :: s)).2) := by
  have printed : isSpace c = false := by
    rcases opens with rfl | digit
    · decide
    · exact (opensValue_of_isDigit digit).printed
  have numeral : c = '-' ∨ '0' ≤ c ∧ c ≤ '9' := by simpa [Char.isDigit, Char.le_def] using opens
  rw [readValue, skipSpace_cons printed]
  split
  case h_8 same =>
    obtain ⟨rfl, rfl⟩ := List.cons.inj same
    rw [if_pos numeral]
  all_goals
    rename_i same
    cases same
  all_goals exact absurd opens (by decide)

section Steps

variable {fuel : Nat} {s t u w rest : List Char} {c : Char} {item value : Doc} {items : List Doc} {key : Scan String}
  {members : List (Scan String × Doc)} {close : Close} {left : Option (List Char)}

theorem readValue_array (skipped : skipSpace t = c :: s) (opens : OpensValue c)
    (inside : readItems fuel (c :: s) = (items, close, left)) :
    readValue (fuel + 1) ('[' :: t) = (.array items close, left) := by
  rw [readValue, skipSpace_cons rfl]
  simp only [skipped]
  split
  case h_2 same => exact absurd (List.cons.inj same).1 opens.bracket
  case h_1 same => cases same
  case h_3 => rw [inside]

theorem readValue_object (skipped : skipSpace t = '"' :: s)
    (inside : readMembers fuel ('"' :: s) = (members, close, left)) :
    readValue (fuel + 1) ('\x7b' :: t) = (.object members close, left) := by
  rw [readValue, skipSpace_cons rfl]
  simp only [skipped]
  split
  case h_1 same | h_2 same => cases same
  case h_3 => rw [inside]

theorem readItems_last (here : readValue fuel s = (item, some t)) (bracket : skipSpace t = ']' :: rest) :
    readItems (fuel + 1) s = ([item], .closed, some rest) := by
  rw [readItems, here]
  simp only [bracket]

theorem readItems_more (here : readValue fuel s = (item, some t)) (comma : skipSpace t = ',' :: u)
    (skipped : skipSpace u = c :: w) (opens : OpensValue c) (later : readItems fuel (c :: w) = (items, close, left)) :
    readItems (fuel + 1) s = (item :: items, close, left) := by
  rw [readItems, here]
  simp only [comma, skipped]
  split
  case h_2 same => exact absurd (List.cons.inj same).1 opens.bracket
  case h_1 same => cases same
  case h_3 => rw [later]

theorem readMembers_last (name : scanString s = (key, some (':' :: t))) (here : readValue fuel t = (value, some u))
    (brace : skipSpace u = '\x7d' :: rest) :
    readMembers (fuel + 1) ('"' :: s) = ([(key, value)], .closed, some rest) := by
  rw [readMembers, skipSpace_cons rfl]
  simp only [name, skipSpace_cons (c := ':') rfl, here, brace]

theorem readMembers_more (name : scanString s = (key, some (':' :: t))) (here : readValue fuel t = (value, some u))
    (comma : skipSpace u = ',' :: w) (skipped : skipSpace w = '"' :: rest)
    (later : readMembers fuel ('"' :: rest) = (members, close, left)) :
    readMembers (fuel + 1) ('"' :: s) = ((key, value) :: members, close, left) := by
  rw [readMembers, skipSpace_cons rfl]
  simp only [name, skipSpace_cons (c := ':') rfl, here, comma, skipped]
  split
  case h_1 same | h_2 same => cases same
  case h_3 => rw [later]

end Steps

/-- Where a writer leaves space: in front of the items and members of a level and of what closes them, and after a
colon. -/
structure Spacing where
  line : Nat → List Char
  colon : List Char
  line_blank : ∀ level, ∀ c ∈ line level, isSpace c = true
  colon_blank : ∀ c ∈ colon, isSpace c = true

namespace Spacing

def tight : Spacing := ⟨fun _ => [], [], by simp, by simp⟩

def indented : Spacing where
  line := newline
  colon := [' ']
  line_blank level c member := by
    rcases List.mem_cons.1 member with rfl | blank
    · rfl
    · rw [(List.mem_replicate.1 blank).2]
      rfl
  colon_blank := by simp [isSpace]

mutual
/-- The text of a value that stands on some level. -/
def text (sp : Spacing) (level : Nat) : Json → List Char
  | array [] => ['[', ']']
  | array (v :: vs) => '[' :: sp.line (level + 1) ++ (sp.text (level + 1) v ++ sp.items level vs)
  | object [] => ['\x7b', '\x7d']
  | object (m :: ms) =>
    '\x7b' :: sp.line (level + 1) ++ (quote m.1 ++ ':' :: sp.colon ++ (sp.text (level + 1) m.2 ++ sp.members level ms))
  | v => write v

/-- What follows an item of an array, the closing bracket included. -/
def items (sp : Spacing) (level : Nat) : List Json → List Char
  | [] => sp.line level ++ [']']
  | v :: vs => ',' :: sp.line (level + 1) ++ (sp.text (level + 1) v ++ sp.items level vs)

/-- What follows a member of an object, the closing brace included. -/
def members (sp : Spacing) (level : Nat) : List (String × Json) → List Char
  | [] => sp.line level ++ ['\x7d']
  | (k, v) :: ms =>
    ',' :: sp.line (level + 1) ++ (quote k ++ ':' :: sp.colon ++ (sp.text (level + 1) v ++ sp.members level ms))
end

mutual
theorem text_tight (level : Nat) : ∀ v, tight.text level v = write v
  | null | bool _ | number _ | string _ => by rw [text] <;> intros <;> contradiction
  | array [] | object [] => rfl
  | array (v :: vs) => by
    rw [text, text_tight (level + 1) v, items_tight level vs]
    rfl
  | object ((k, v) :: ms) => by
    rw [text, text_tight (level + 1) v, members_tight level ms, write]
    simp [tight]

theorem items_tight (level : Nat) : ∀ vs, tight.items level vs = writeItems vs
  | [] => rfl
  | v :: vs => by
    rw [items, text_tight (level + 1) v, items_tight level vs]
    rfl

theorem members_tight (level : Nat) : ∀ ms, tight.members level ms = writeMembers ms
  | [] => rfl
  | (k, v) :: ms => by
    rw [members, text_tight (level + 1) v, members_tight level ms, writeMembers]
    simp [tight]
end

mutual
theorem text_indented : ∀ (v : Json) (level : Nat), indented.text level v = layout level v
  | null, _ | bool true, _ | bool false, _ | number _, _ | string _, _ | array [], _ | object [], _ => by
    rw [layout]
    rfl
  | array (v :: vs), level => by
    rw [text, text_indented v, items_indented vs, layout]
    simp [indented]
  | object ((k, v) :: ms), level => by
    rw [text, text_indented v, members_indented ms, layout]
    simp [indented]

theorem items_indented : ∀ (vs : List Json) (level : Nat), indented.items level vs = layoutItems level vs
  | [], _ => rfl
  | v :: vs, level => by
    rw [items, text_indented v, items_indented vs, layoutItems]
    simp [indented]

theorem members_indented : ∀ (ms : List (String × Json)) (level : Nat),
    indented.members level ms = layoutMembers level ms
  | [], _ => rfl
  | (k, v) :: ms, level => by
    rw [members, text_indented v, members_indented ms, layoutMembers]
    simp [indented]
end

variable (sp : Spacing)

/-- The items of an array as they stand between its brackets, with the closing one. -/
def itemsText (sp : Spacing) (level : Nat) : List Json → List Char
  | [] => [']']
  | v :: vs => sp.text (level + 1) v ++ sp.items level vs

/-- The members of an object as they stand between its braces, with the closing one. -/
def membersText (sp : Spacing) (level : Nat) : List (String × Json) → List Char
  | [] => ['\x7d']
  | (k, v) :: ms => quote k ++ ':' :: sp.colon ++ (sp.text (level + 1) v ++ sp.members level ms)

theorem text_array (level : Nat) (v : Json) (vs : List Json) :
    sp.text level (array (v :: vs)) = '[' :: (sp.line (level + 1) ++ sp.itemsText level (v :: vs)) := rfl

theorem text_object (level : Nat) (m : String × Json) (ms : List (String × Json)) :
    sp.text level (object (m :: ms)) = '\x7b' :: (sp.line (level + 1) ++ sp.membersText level (m :: ms)) := rfl

theorem items_cons (level : Nat) (v : Json) (vs : List Json) :
    sp.items level (v :: vs) = ',' :: (sp.line (level + 1) ++ sp.itemsText level (v :: vs)) := rfl

theorem members_cons (level : Nat) (m : String × Json) (ms : List (String × Json)) :
    sp.members level (m :: ms) = ',' :: (sp.line (level + 1) ++ sp.membersText level (m :: ms)) := rfl

theorem text_eq_cons {v : Json} (kept : ∀ n ∈ v.numbers, IsKept n) (level : Nat) :
    ∃ c s, sp.text level v = c :: s ∧ OpensValue c := by
  cases v with
  | array vs => cases vs <;> exact ⟨_, _, rfl, by decide, by decide, by decide⟩
  | object ms => cases ms <;> exact ⟨_, _, rfl, by decide, by decide, by decide⟩
  | null | bool | number | string => exact write_eq_cons kept

theorem itemsText_eq_cons {v : Json} (kept : ∀ n ∈ v.numbers, IsKept n) (level : Nat) (vs : List Json) :
    ∃ c s, sp.itemsText level (v :: vs) = c :: s ∧ OpensValue c := by
  obtain ⟨c, s, text, opens⟩ := sp.text_eq_cons kept (level + 1)
  exact ⟨c, s ++ sp.items level vs, by rw [itemsText, text, List.cons_append], opens⟩

theorem membersText_append (level : Nat) (m : String × Json) (ms : List (String × Json)) (rest : List Char) :
    sp.membersText level (m :: ms) ++ rest = '"' :: (m.1.toList.flatMap escape ++
      '"' :: ':' :: (sp.colon ++ (sp.text (level + 1) m.2 ++ (sp.members level ms ++ rest)))) := by
  simp [membersText, quote]

theorem length_items_pos (level : Nat) (vs : List Json) : 0 < (sp.items level vs).length := by
  cases vs with
  | nil => simp [items]
  | cons v vs => simp [items]

theorem skipSpace_line {c : Char} (printed : isSpace c = false) (level : Nat) (s : List Char) :
    skipSpace (sp.line level ++ c :: s) = c :: s := by
  rw [skipSpace_append (sp.line_blank level), skipSpace_cons printed]

theorem afterValue_line {c : Char} (delimiter : c ∈ delimiters) (level : Nat) (s : List Char) :
    AfterValue (sp.line level ++ c :: s) := by
  have blank := sp.line_blank level
  cases whole : sp.line level with
  | nil => exact afterValue_cons delimiter s
  | cons d gap =>
    rw [whole] at blank
    have space := blank d List.mem_cons_self
    refine afterValue_cons ?_ _
    simp only [isSpace, Bool.or_eq_true, decide_eq_true_eq] at space
    rcases space with ((rfl | rfl) | rfl) | rfl <;> decide

theorem afterValue_items (level : Nat) (vs : List Json) (rest : List Char) :
    AfterValue (sp.items level vs ++ rest) := by
  cases vs with
  | nil =>
    rw [items, List.append_assoc]
    exact sp.afterValue_line (by decide) level rest
  | cons v vs => exact afterValue_cons (by decide) _

theorem afterValue_members (level : Nat) (ms : List (String × Json)) (rest : List Char) :
    AfterValue (sp.members level ms ++ rest) := by
  cases ms with
  | nil =>
    rw [members, List.append_assoc]
    exact sp.afterValue_line (by decide) level rest
  | cons m ms => exact afterValue_cons (by decide) _

mutual
theorem readValue_text : ∀ (v : Json) (level fuel : Nat) (rest : List Char), (∀ n ∈ v.numbers, IsKept n) →
    (sp.text level v).length ≤ fuel → AfterValue rest → readValue fuel (sp.text level v ++ rest) = (toDoc v, some rest)
  | v, level, 0, _, kept, enough, _ => by
    obtain ⟨c, s, text, _⟩ := sp.text_eq_cons kept level
    simp [text] at enough
  | null, _, _ + 1, _, _, _, _ | bool true, _, _ + 1, _, _, _, _ | bool false, _, _ + 1, _, _, _, _ => rfl
  | string s, level, fuel + 1, rest, _, _, _ => by
    have quoted : sp.text level (string s) ++ rest = '"' :: (s.toList.flatMap escape ++ '"' :: rest) := by
      simp [text, write, quote]
    rw [quoted, readValue, skipSpace_cons rfl]
    simp only [scanString_quote]
    rfl
  | number n, _, fuel + 1, rest, kept, _, after => by
    obtain ⟨c, s, text, opens⟩ := writeNumber_eq_cons (kept n List.mem_cons_self)
    have scanned := scanNumber_append after (kept n List.mem_cons_self)
    change readValue (fuel + 1) (writeNumber n ++ rest) = _
    rw [text, List.cons_append] at scanned ⊢
    rw [readValue_numeral opens, scanned]
    rfl
  | array [], _, _ + 1, _, _, _, _ | object [], _, _ + 1, _, _, _, _ => rfl
  | array (v :: vs), level, fuel + 1, rest, kept, enough, _ => by
    rw [text_array, List.length_cons, List.length_append] at enough
    have inside := readItems_itemsText (v :: vs) level fuel rest (List.cons_ne_nil v vs) kept (by omega)
    obtain ⟨c, s, first, opens⟩ :=
      sp.itemsText_eq_cons (fun n here => kept n (List.mem_append_left _ here)) level vs
    rw [first, List.cons_append] at inside
    rw [text_array, List.cons_append, List.append_assoc, first, List.cons_append]
    exact readValue_array (sp.skipSpace_line opens.printed _ _) opens inside
  | object (m :: ms), level, fuel + 1, rest, kept, enough, _ => by
    rw [text_object, List.length_cons, List.length_append] at enough
    have inside := readMembers_membersText (m :: ms) level fuel rest (List.cons_ne_nil m ms) kept (by omega)
    rw [membersText_append] at inside
    rw [text_object, List.cons_append, List.append_assoc, membersText_append]
    exact readValue_object (sp.skipSpace_line rfl _ _) inside

theorem readItems_itemsText : ∀ (vs : List Json) (level fuel : Nat) (rest : List Char), vs ≠ [] →
    (∀ n ∈ itemNumbers vs, IsKept n) → (sp.itemsText level vs).length ≤ fuel →
    readItems fuel (sp.itemsText level vs ++ rest) = (itemDocs vs, .closed, some rest)
  | [], _, _, _, some_item, _, _ => absurd rfl some_item
  | v :: vs, level, 0, _, _, kept, enough => by
    obtain ⟨c, s, text, _⟩ :=
      sp.itemsText_eq_cons (fun n here => kept n (List.mem_append_left _ here)) level vs
    simp [text] at enough
  | v :: vs, level, fuel + 1, rest, _, kept, enough => by
    have kept_here : ∀ n ∈ v.numbers, IsKept n := fun n here => kept n (List.mem_append_left _ here)
    have kept_later : ∀ n ∈ itemNumbers vs, IsKept n := fun n later => kept n (List.mem_append_right _ later)
    have later := readItems_itemsText vs level fuel rest
    have tail := sp.length_items_pos level vs
    rw [itemsText, List.length_append] at enough
    have here := readValue_text v (level + 1) fuel (sp.items level vs ++ rest) kept_here (by omega)
      (sp.afterValue_items level vs rest)
    rw [itemsText, List.append_assoc]
    cases vs with
    | nil =>
      refine readItems_last here ?_
      rw [items, List.append_assoc]
      exact sp.skipSpace_line rfl level rest
    | cons v' vs =>
      rw [items_cons, List.length_cons, List.length_append] at enough
      obtain ⟨c, s, next, opens⟩ :=
        sp.itemsText_eq_cons (fun n here => kept_later n (List.mem_append_left _ here)) level vs
      have rest_read := later (List.cons_ne_nil v' vs) kept_later (by omega)
      rw [items_cons, List.cons_append, List.append_assoc, next, List.cons_append] at here
      rw [next, List.cons_append] at rest_read
      rw [items_cons, List.cons_append, List.append_assoc, next, List.cons_append]
      exact readItems_more here (skipSpace_cons rfl _) (sp.skipSpace_line opens.printed _ _) opens rest_read

theorem readMembers_membersText : ∀ (ms : List (String × Json)) (level fuel : Nat) (rest : List Char), ms ≠ [] →
    (∀ n ∈ memberNumbers ms, IsKept n) → (sp.membersText level ms).length ≤ fuel →
    readMembers fuel (sp.membersText level ms ++ rest) = (memberDocs ms, .closed, some rest)
  | [], _, _, _, some_member, _, _ => absurd rfl some_member
  | (k, v) :: ms, _, 0, _, _, _, enough => by simp [membersText, quote] at enough
  | (k, v) :: ms, level, fuel + 1, rest, _, kept, enough => by
    have kept_here : ∀ n ∈ v.numbers, IsKept n := fun n here => kept n (List.mem_append_left _ here)
    have kept_later : ∀ n ∈ memberNumbers ms, IsKept n := fun n later => kept n (List.mem_append_right _ later)
    have later := readMembers_membersText ms level fuel rest
    have name := scanString_quote k (':' :: (sp.colon ++ (sp.text (level + 1) v ++ (sp.members level ms ++ rest))))
    simp only [membersText, List.length_append, List.length_cons] at enough
    have here := readValue_text v (level + 1) fuel (sp.members level ms ++ rest) kept_here (by omega)
      (sp.afterValue_members level ms rest)
    rw [← readValue_append sp.colon_blank] at here
    rw [membersText_append]
    cases ms with
    | nil =>
      refine readMembers_last name here ?_
      rw [members, List.append_assoc]
      exact sp.skipSpace_line rfl level rest
    | cons m ms =>
      rw [members_cons, List.length_cons, List.length_append] at enough
      have rest_read := later (List.cons_ne_nil m ms) kept_later (by omega)
      rw [membersText_append] at rest_read
      rw [members_cons, List.cons_append, List.append_assoc, membersText_append] at here name ⊢
      exact readMembers_more name here (skipSpace_cons rfl _) (sp.skipSpace_line rfl _ _) rest_read
end

theorem ofText_text {v : Json} (kept : ∀ n ∈ v.numbers, IsKept n) :
    Document.ofText (String.ofList (sp.text 0 v)) = ⟨toDoc v, false⟩ := by
  have whole := sp.readValue_text v 0 (2 * (sp.text 0 v).length + 2) [] kept (by omega) afterValue_nil
  rw [List.append_nil] at whole
  simp only [Document.ofText, String.toList_ofList, whole]
  rfl

end Spacing

theorem ofText_compact {v : Json} (kept : ∀ n ∈ v.numbers, IsKept n) :
    Document.ofText v.compact = ⟨toDoc v, false⟩ := by
  rw [compact, ← Spacing.text_tight 0 v, Spacing.tight.ofText_text kept]

theorem ofText_pretty {v : Json} (kept : ∀ n ∈ v.numbers, IsKept n) :
    Document.ofText v.pretty = ⟨toDoc v, false⟩ := by
  rw [pretty, ← Spacing.text_indented v 0, Spacing.indented.ofText_text kept]

end Harvest.Json
