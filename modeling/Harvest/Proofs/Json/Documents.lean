import Harvest.Json.Reader
import Harvest.Json.Reading
import Harvest.Proofs.Json.Values
import Harvest.Proofs.Results

/-!
Documents and their values. The document of a value has that value where there is room for its depth, and a value that
is read from a text is as deep as there is room for, and its whole numbers fit.
-/

namespace Harvest.Json

variable {α : Type}

theorem orFlaw_eq_ok {x : Except Flaw α} {a : α} : orFlaw x = .ok a ↔ x = .ok a := by
  cases x <;> simp [orFlaw]

theorem orDone_eq_ok {a b : α} {flaw : Option Flaw} : orDone a flaw = .ok b ↔ flaw = none ∧ a = b := by
  cases flaw <;> simp [orDone, failFlaw]

theorem decode_eq_ok {read : Nat → Doc → Except Error α} {text : String} {a : α} :
    decode read text = .ok a ↔
      read maxRoom (Document.ofText text).root = .ok a ∧ (Document.ofText text).trailing = false := by
  rw [decode, Document.read, bind_eq_ok]
  constructor
  · rintro ⟨b, root, ended⟩
    split at ended
    · cases ended
    · rename_i none_trailing
      cases ended
      exact ⟨root, by simpa using none_trailing⟩
  · rintro ⟨root, none_trailing⟩
    exact ⟨a, root, by rw [none_trailing]; rfl⟩

theorem decode_of_document {read : Nat → Doc → Except Error α} {text : String} {d : Doc}
    (document : Document.ofText text = ⟨d, false⟩) : decode read text = read maxRoom d := by
  rw [decode, document, Document.read]
  cases read maxRoom d <;> rfl

mutual
theorem content_toDoc : ∀ (v : Json) {room : Nat}, v.depth ≤ room → (toDoc v).content room = .ok v
  | null, _, _ | bool _, _, _ | number _, _, _ | string _, _, _ => rfl
  | array vs, 0, shallow | object ms, 0, shallow => absurd shallow (Nat.not_succ_le_zero _)
  | array vs, room + 1, shallow => by
    rw [toDoc, Doc.content, if_neg (Nat.succ_ne_zero room), Nat.add_sub_cancel,
      contentItems_itemDocs vs (Nat.le_of_succ_le_succ shallow)]
    rfl
  | object ms, room + 1, shallow => by
    rw [toDoc, Doc.content, if_neg (Nat.succ_ne_zero room), Nat.add_sub_cancel,
      contentMembers_memberDocs ms (Nat.le_of_succ_le_succ shallow)]
    rfl

theorem contentItems_itemDocs : ∀ (vs : List Json) {room : Nat}, itemDepth vs ≤ room →
    Doc.contentItems room (itemDocs vs) .closed = .ok vs
  | [], _, _ => rfl
  | v :: vs, room, shallow => by
    obtain ⟨first, later⟩ := Nat.max_le.1 shallow
    rw [itemDocs, Doc.contentItems, content_toDoc v first, contentItems_itemDocs vs later]
    rfl

theorem contentMembers_memberDocs : ∀ (ms : List (String × Json)) {room : Nat}, memberDepth ms ≤ room →
    Doc.contentMembers room (memberDocs ms) .closed = .ok ms
  | [], _, _ => rfl
  | (k, v) :: ms, room, shallow => by
    obtain ⟨first, later⟩ := Nat.max_le.1 shallow
    rw [memberDocs, Doc.contentMembers, content_toDoc v first, contentMembers_memberDocs ms later]
    rfl
end

namespace Doc

/-- Which documents have a value, and which one. -/
inductive Reads (room : Nat) : Doc → Json → Prop
  | null : Reads room .null .null
  | bool (b : Bool) : Reads room (.bool b) (.bool b)
  | number {scan : Scan Number} {n : Number} (scanned : scan.value = .ok n) : Reads room (.number scan) (.number n)
  | string {scan : Scan String} {s : String} (scanned : scan.value = .ok s) : Reads room (.string scan) (.string s)
  | array {ds : List Doc} {close : Close} {vs : List Json} (space : room ≠ 0)
      (items : contentItems (room - 1) ds close = .ok vs) : Reads room (.array ds close) (.array vs)
  | object {ds : List (Scan String × Doc)} {close : Close} {ms : List (String × Json)} (space : room ≠ 0)
      (members : contentMembers (room - 1) ds close = .ok ms) : Reads room (.object ds close) (.object ms)

variable {d : Doc} {v : Json} {room : Nat}

theorem reads_of_content (read : d.content room = .ok v) : Reads room d v := by
  cases d with
  | absent | flawed f => cases read
  | null | bool b =>
    cases read
    constructor
  | number scan =>
    obtain ⟨n, scanned, rfl⟩ := map_eq_ok.1 read
    exact .number (orFlaw_eq_ok.1 scanned)
  | string scan =>
    obtain ⟨s, scanned, rfl⟩ := map_eq_ok.1 read
    exact .string (orFlaw_eq_ok.1 scanned)
  | array ds close =>
    rw [content] at read
    split at read
    · cases read
    · obtain ⟨vs, items, rfl⟩ := map_eq_ok.1 read
      exact .array ‹_› items
  | object ds close =>
    rw [content] at read
    split at read
    · cases read
    · obtain ⟨ms, members, rfl⟩ := map_eq_ok.1 read
      exact .object ‹_› members

theorem Reads.kind (reads : Reads room d v) : d.kind = .ok v.kind := by
  cases reads with
  | number scanned | string scanned =>
    rw [Doc.kind, scanned]
    rfl
  | _ => rfl

theorem Reads.text (reads : Reads room d v) (expected : String) : d.text expected = v.text expected := by
  have other : d.mismatch expected = (.error (.wrongType v.kind expected) : Except Error String) := by
    rw [mismatch, reads.kind]
  cases reads with
  | string scanned =>
    rw [Doc.text, scanned]
    rfl
  | _ => exact other

theorem Reads.optionalText (reads : Reads room d v) (expected : String) :
    d.optional (Doc.text expected) = v.optionalText expected := by
  have text := congrArg (Except.map some) (reads.text expected)
  cases reads with
  | null => rfl
  | _ => exact text

/-- A document that has a value is taken in each way as that value is. -/
theorem reading_of_content (read : d.content room = .ok v) : d.reading room = v.reading := by
  have reads := reads_of_content read
  rw [Doc.reading, Json.reading, reads.text, reads.optionalText, Doc.value, read]
  rfl

theorem mismatch_ne_ok (expected : String) (d : Doc) (a : α) : d.mismatch expected ≠ .ok a := by
  unfold mismatch
  split <;> exact fun h => by cases h

theorem content_of_text {expected s : String} (taken : d.text expected = .ok s) (room : Nat) :
    d.content room = .ok (.string s) := by
  unfold Doc.text at taken
  split at taken
  · rw [content, taken]
    rfl
  · exact absurd taken (mismatch_ne_ok _ _ _)

theorem exists_content_of_optional {expected : String} {s : Option String}
    (taken : d.optional (Doc.text expected) = .ok s) (room : Nat) : ∃ v, d.content room = .ok v := by
  unfold Doc.optional at taken
  split at taken
  · exact ⟨.null, rfl⟩
  · obtain ⟨s', text, _⟩ := map_eq_ok.1 taken
    exact ⟨.string s', content_of_text text room⟩

mutual
/-- The numbers that are read in a document. -/
def numbers : Doc → List Number
  | absent | flawed _ | null | bool _ | string _ => []
  | number scan => scan.value.toOption.toList
  | array ds _ => itemNumbers ds
  | object ms _ => memberNumbers ms

def itemNumbers : List Doc → List Number
  | [] => []
  | d :: ds => numbers d ++ itemNumbers ds

def memberNumbers : List (Scan String × Doc) → List Number
  | [] => []
  | (_, d) :: ms => numbers d ++ memberNumbers ms
end

theorem readable_scalar {v : Json} (room : Nat) (flat : v.depth = 0) (numberless : v.numbers = []) :
    Readable room v := by
  refine ⟨flat ▸ Nat.zero_le room, ?_⟩
  rw [numberless]
  exact fun n member => absurd member List.not_mem_nil

mutual
theorem readable_content : ∀ (d : Doc) {room : Nat} {v : Json}, (∀ n ∈ d.numbers, n.isProper = true) →
    d.content room = .ok v → Readable room v
  | absent, _, _, _, read | flawed _, _, _, _, read => by cases read
  | null, room, _, _, read | bool _, room, _, _, read => by
    cases read
    exact readable_scalar room rfl rfl
  | number scan, room, v, proper, read => by
    obtain ⟨n, scanned, rfl⟩ := map_eq_ok.1 read
    refine ⟨Nat.zero_le room, ?_⟩
    rintro m ⟨⟩
    · exact proper n (by simp [numbers, orFlaw_eq_ok.1 scanned, Except.toOption])
    · contradiction
  | string scan, room, v, _, read => by
    obtain ⟨s, _, rfl⟩ := map_eq_ok.1 read
    exact readable_scalar room rfl rfl
  | array ds close, room, v, proper, read => by
    rw [content] at read
    split at read
    · cases read
    · obtain ⟨vs, items, rfl⟩ := map_eq_ok.1 read
      exact readable_array.2 ⟨Nat.pos_of_ne_zero ‹_›, readable_contentItems ds proper items⟩
  | object ms close, room, v, proper, read => by
    rw [content] at read
    split at read
    · cases read
    · obtain ⟨vs, members, rfl⟩ := map_eq_ok.1 read
      exact readable_object.2 ⟨Nat.pos_of_ne_zero ‹_›, readable_contentMembers ms proper members⟩

theorem readable_contentItems : ∀ (ds : List Doc) {close : Close} {room : Nat} {vs : List Json},
    (∀ n ∈ itemNumbers ds, n.isProper = true) → contentItems room ds close = .ok vs → ∀ v ∈ vs, Readable room v
  | [], close, room, vs, _, read => by
    obtain ⟨_, rfl⟩ := orDone_eq_ok.1 read
    simp
  | d :: ds, close, room, vs, proper, read => by
    obtain ⟨v, first, read⟩ := bind_eq_ok.1 read
    obtain ⟨vs, later, read⟩ := bind_eq_ok.1 read
    cases read
    rw [List.forall_mem_cons]
    exact ⟨readable_content d (fun n here => proper n (List.mem_append_left _ here)) first,
      readable_contentItems ds (fun n later => proper n (List.mem_append_right _ later)) later⟩

theorem readable_contentMembers : ∀ (ms : List (Scan String × Doc)) {close : Close} {room : Nat}
    {vs : List (String × Json)}, (∀ n ∈ memberNumbers ms, n.isProper = true) →
    contentMembers room ms close = .ok vs → ∀ m ∈ vs, Readable room m.2
  | [], close, room, vs, _, read => by
    obtain ⟨_, rfl⟩ := orDone_eq_ok.1 read
    simp
  | (key, d) :: ms, close, room, vs, proper, read => by
    obtain ⟨k, _, read⟩ := bind_eq_ok.1 read
    obtain ⟨v, first, read⟩ := bind_eq_ok.1 read
    obtain ⟨vs, later, read⟩ := bind_eq_ok.1 read
    cases read
    rw [List.forall_mem_cons]
    exact ⟨readable_content d (fun n here => proper n (List.mem_append_left _ here)) first,
      readable_contentMembers ms (fun n later => proper n (List.mem_append_right _ later)) later⟩
end

end Doc

theorem isProper_of_toNumber {m : Numeral} {n : Number} (read : m.toNumber = .ok n) : n.isProper = true := by
  unfold Numeral.toNumber at read
  dsimp only at read
  generalize (if m.negative = true then _ else _ : Int) = signed at read
  split at read
  · rename_i whole
    cases read
    exact whole.2.2.1
  · obtain ⟨x, _, rfl⟩ := map_eq_ok.1 read
    rfl

theorem isProper_of_scanNumber {s : List Char} {n : Number} (read : (scanNumber s).1.value = .ok n) :
    n.isProper = true := by
  unfold scanNumber at read
  dsimp only at read
  split at read
  · exact isProper_of_toNumber read
  · cases read

/-- Numbers as a reader makes them. -/
def Proper (ns : List Number) : Prop := ∀ n ∈ ns, n.isProper = true

theorem proper_nil : Proper [] := fun _ member => absurd member List.not_mem_nil

theorem proper_append {ns more : List Number} : Proper (ns ++ more) ↔ Proper ns ∧ Proper more :=
  List.forall_mem_append

theorem proper_readWord (word : List Char) {d : Doc} (numberless : d.numbers = []) (rest : List Char) :
    Proper (readWord word d rest).1.numbers := by
  unfold readWord
  split
  · rw [numberless]
    exact proper_nil
  · exact proper_nil

theorem proper_scanNumber (s : List Char) : Proper (Doc.number (scanNumber s).1).numbers := by
  intro n member
  rw [Doc.numbers, Option.mem_toList] at member
  cases scanned : (scanNumber s).1.value with
  | error f =>
    rw [scanned] at member
    cases member
  | ok m =>
    rw [scanned] at member
    cases member
    exact isProper_of_scanNumber scanned

section Fuel

variable {fuel : Nat} (value : ∀ s, Proper (readValue fuel s).1.numbers)
  (items : ∀ s, Proper (Doc.itemNumbers (readItems fuel s).1))
  (members : ∀ s, Proper (Doc.memberNumbers (readMembers fuel s).1))

include items members in
theorem proper_readValue_succ (s : List Char) : Proper (readValue (fuel + 1) s).1.numbers := by
  rw [readValue]
  split
  · exact proper_nil
  · exact proper_readWord _ rfl _
  · exact proper_readWord _ rfl _
  · exact proper_readWord _ rfl _
  · exact proper_nil
  · split
    · exact proper_nil
    · exact proper_nil
    · exact items _
  · split
    · exact proper_nil
    · exact proper_nil
    · exact members _
  · split
    · exact proper_scanNumber _
    · exact proper_nil

include value items in
theorem proper_readItems_succ (s : List Char) : Proper (Doc.itemNumbers (readItems (fuel + 1) s).1) := by
  have first := value s
  rw [readItems]
  split
  · rename_i item same
    rw [same] at first
    exact proper_append.2 ⟨first, proper_nil⟩
  · rename_i item rest same
    rw [same] at first
    have single : Proper (Doc.itemNumbers [item]) := proper_append.2 ⟨first, proper_nil⟩
    split
    · exact single
    · exact single
    · split
      · exact single
      · exact single
      · exact proper_append.2 ⟨first, items _⟩
    · exact single

include value members in
theorem proper_readMembers_succ (s : List Char) : Proper (Doc.memberNumbers (readMembers (fuel + 1) s).1) := by
  rw [readMembers]
  split
  · dsimp only
    split
    · exact proper_nil
    · split
      · exact proper_nil
      · rename_i t _
        have first := value t
        split
        · rename_i item same
          rw [same] at first
          exact proper_append.2 ⟨first, proper_nil⟩
        · rename_i item rest same
          rw [same] at first
          have single (key : Scan String) : Proper (Doc.memberNumbers [(key, item)]) :=
            proper_append.2 ⟨first, proper_nil⟩
          split
          · exact single _
          · exact single _
          · split
            · exact single _
            · exact single _
            · exact proper_append.2 ⟨first, members _⟩
          · exact single _
      · exact proper_nil
  · exact proper_append.2 ⟨value _, proper_nil⟩

end Fuel

theorem proper_read (fuel : Nat) : (∀ s, Proper (readValue fuel s).1.numbers) ∧
    (∀ s, Proper (Doc.itemNumbers (readItems fuel s).1)) ∧ ∀ s, Proper (Doc.memberNumbers (readMembers fuel s).1) := by
  induction fuel with
  | zero => exact ⟨fun _ => proper_nil, fun _ => proper_nil, fun _ => proper_nil⟩
  | succ fuel ih =>
    obtain ⟨value, items, members⟩ := ih
    exact ⟨proper_readValue_succ items members, proper_readItems_succ value items,
      proper_readMembers_succ value members⟩

theorem proper_ofText (text : String) : Proper (Document.ofText text).root.numbers := by
  have proper := (proper_read (2 * text.toList.length + 2)).1 text.toList
  unfold Document.ofText
  dsimp only
  split
  · rename_i same
    rwa [same] at proper
  · rename_i same
    rwa [same] at proper

end Harvest.Json
