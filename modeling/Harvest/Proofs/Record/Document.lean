import Harvest.Bson.Extended
import Harvest.Proofs.Record.Format
import Harvest.Proofs.Record.Stored

/-!
Stored records as documents of a database. Main statement: a stored record that was read, with no name inside its extra
fields that starts with a dollar sign, becomes a document just if no whole number in it takes more than sixty-four bits
with its sign, and then the document has its fields in the order in which they are written, each name once and each
value as it is.
-/

namespace Harvest

namespace Json

mutual
/-- The names of the members of all objects within a value. -/
def innerNames : Json → List String
  | null | bool _ | number _ | string _ => []
  | array vs => itemNames vs
  | object ms => memberNames ms

def itemNames : List Json → List String
  | [] => []
  | v :: vs => innerNames v ++ itemNames vs

def memberNames : List (String × Json) → List String
  | [] => []
  | (k, v) :: ms => k :: (innerNames v ++ memberNames ms)
end

/-- Whether a name cannot be taken for that of a value which JSON does not have. -/
def IsPlainName (name : String) : Prop := name.toList.head? ≠ some '$'

instance (name : String) : Decidable (IsPlainName name) := inferInstanceAs (Decidable (_ ≠ _))

theorem forall_mem_memberNames {p : String → Prop} {ms : List (String × Json)} :
    (∀ k ∈ memberNames ms, p k) ↔ ∀ m ∈ ms, p m.1 ∧ ∀ k ∈ m.2.innerNames, p k := by
  induction ms with
  | nil => simp [memberNames]
  | cons m ms ih =>
    rw [memberNames, List.forall_mem_cons, List.forall_mem_append, ih, List.forall_mem_cons, and_assoc]

theorem get?_of_mem {m : String × Json} {ms : List (String × Json)} (distinct : (keys ms).Nodup) (member : m ∈ ms) :
    get? m.1 ms = some m.2 := by
  induction ms with
  | nil => cases member
  | cons first ms ih =>
    obtain ⟨new, distinct⟩ := List.nodup_cons.1 distinct
    rw [get?]
    rcases List.mem_cons.1 member with rfl | later
    · exact if_pos rfl
    · rw [if_neg, ih distinct later]
      intro same
      exact new (same ▸ List.mem_map_of_mem later)

/-- What has been gathered was given, as it is or with its repeated keys merged. -/
theorem Gathered.exists_given {out : List String} {ms extra : List (String × Json)} (gathered : Gathered out ms extra)
    {m : String × Json} (member : m ∈ extra) : ∃ v, (m.1, v) ∈ ms ∧ m.2 = v.merged := by
  have found := get?_of_mem gathered.nodup member
  rw [gathered.values, if_neg (gathered.mem_keys.1 (List.mem_map_of_mem member)).1, Option.map_eq_some_iff] at found
  obtain ⟨v, last, whole⟩ := found
  obtain ⟨⟨k, v⟩, among, rfl⟩ := List.mem_map.1 (List.mem_of_getLast? last)
  obtain ⟨among, same⟩ := List.mem_filter.1 among
  exact ⟨v, of_decide_eq_true same ▸ among, whole.symm⟩

end Json

namespace Bson

open Json

mutual
/-- A value as it stands in a document: part by part, whole numbers with sixty-four bits. -/
def mirror : Json → Bson
  | .null => null
  | .bool b => boolean b
  | .number (.integer n) => int64 n
  | .number (.float x) => double x
  | .string s => string s
  | .array vs => array (mirrorItems vs)
  | .object ms => document (mirrorMembers ms)

def mirrorItems : List Json → List Bson
  | [] => []
  | v :: vs => mirror v :: mirrorItems vs

def mirrorMembers : List (String × Json) → List (String × Bson)
  | [] => []
  | (k, v) :: ms => (k, mirror v) :: mirrorMembers ms
end

theorem mirrorMembers_eq (ms : List (String × Json)) : mirrorMembers ms = ms.map fun m => (m.1, mirror m.2) := by
  induction ms with
  | nil => rfl
  | cons m ms ih => rw [mirrorMembers, ih, List.map_cons]

/-- What is wrong with a number, if it is too large. -/
def tooLarge? : Number → Option TooLarge
  | .integer n => if 9223372036854775807 < n then some ⟨n⟩ else none
  | .float _ => none

/-- The result for a value with certain numbers in it: the first one that is too large is an error. -/
def checked {α : Type} (ns : List Number) (a : α) : Except TooLarge α :=
  match ns.findSome? tooLarge? with
  | some e => .error e
  | none => .ok a

theorem checked_map {α β : Type} (ns : List Number) (f : α → β) (a : α) :
    (checked ns a).map f = checked ns (f a) := by
  unfold checked
  split <;> rfl

/-- Two results, one after the other, are one result for all the numbers. -/
theorem checked_append {α β γ : Type} (ns more : List Number) (f : α → β → γ) (a : α) (b : β) :
    (do pure (f (← checked ns a) (← checked more b))) = checked (ns ++ more) (f a b) := by
  unfold checked
  rw [List.findSome?_append]
  cases ns.findSome? tooLarge? <;> cases more.findSome? tooLarge? <;> rfl

theorem tooLarge?_eq_some {n : Number} {e : TooLarge} :
    tooLarge? n = some e ↔ n = .integer e.value ∧ 9223372036854775807 < e.value := by
  cases n with
  | float x => simp [tooLarge?]
  | integer n =>
    simp only [tooLarge?, Option.ite_none_right_eq_some, Option.some.injEq, Number.integer.injEq]
    constructor
    · rintro ⟨large, rfl⟩
      exact ⟨rfl, large⟩
    · rintro ⟨rfl, large⟩
      exact ⟨large, rfl⟩

theorem checked_eq_ok {α : Type} {ns : List Number} {a b : α} :
    checked ns a = .ok b ↔ (∀ n, .integer n ∈ ns → n ≤ 9223372036854775807) ∧ a = b := by
  unfold checked
  split
  · rename_i e found
    obtain ⟨n, member, large⟩ := List.exists_of_findSome?_eq_some found
    obtain ⟨rfl, beyond⟩ := tooLarge?_eq_some.1 large
    refine iff_of_false (by simp) ?_
    rintro ⟨small, -⟩
    exact absurd (small _ member) (Int.not_le.2 beyond)
  · rename_i none_found
    rw [List.findSome?_eq_none_iff] at none_found
    have small : ∀ n, .integer n ∈ ns → n ≤ 9223372036854775807 := by
      intro n member
      by_contra large
      exact absurd (none_found _ member) (by simp [tooLarge?, Int.not_le.1 large])
    rw [Except.ok.injEq]
    exact ⟨fun same => ⟨small, same⟩, And.right⟩

theorem exists_checked_eq_error {α : Type} {ns : List Number} {a : α} :
    (∃ e, checked ns a = .error e) ↔ ∃ n, .integer n ∈ ns ∧ 9223372036854775807 < n := by
  simp [exists_eq_error_iff, checked_eq_ok]

theorem ofNumber_eq (n : Number) : ofNumber n = checked [n] (mirror (.number n)) := by
  cases n with
  | float x => rfl
  | integer n =>
    by_cases small : n < 9223372036854775808
    · have kept : ¬ 9223372036854775807 < n := by omega
      rw [ofNumber, if_pos small, checked, List.findSome?_singleton, tooLarge?, if_neg kept, mirror]
    · have large : 9223372036854775807 < n := by omega
      rw [ofNumber, if_neg small, checked, List.findSome?_singleton, tooLarge?, if_pos large]

theorem ofSingle?_of_isPlainName {name : String} (plain : IsPlainName name) (value : Bson) :
    ofSingle? name value = none := by
  unfold ofSingle?
  split
  case h_20 => rfl
  all_goals exact absurd (by decide) plain

theorem ofFields_of_isPlainName {fs : List (String × Bson)} (plain : ∀ f ∈ fs, IsPlainName f.1) :
    ofFields fs = document fs := by
  unfold ofFields
  split
  · rw [ofSingle?_of_isPlainName (plain _ List.mem_cons_self)]
    rfl
  · exact absurd (plain _ List.mem_cons_self) (show ¬IsPlainName "$code" by decide)
  · exact absurd (plain _ List.mem_cons_self) (show ¬IsPlainName "$scope" by decide)
  · rfl

mutual
/-- A value with plain names is taken over part by part, unless a number in it is too large. -/
theorem ofJson_eq : ∀ {v : Json}, (∀ k ∈ v.innerNames, IsPlainName k) → ofJson v = checked v.numbers (mirror v)
  | .null, _ | .bool _, _ | .string _, _ => rfl
  | .number n, _ => ofNumber_eq n
  | .array vs, plain => by
    rw [ofJson, ofItems_eq plain, checked_map]
    rfl
  | .object ms, plain => by
    have each := forall_mem_memberNames.1 plain
    have itself : ofFields (mirrorMembers ms) = document (mirrorMembers ms) := by
      refine ofFields_of_isPlainName ?_
      rw [mirrorMembers_eq, List.forall_mem_map]
      exact fun m member => (each m member).1
    rw [ofJson, ofMembers_eq fun m member => (each m member).2, checked_map, itself]
    rfl

theorem ofItems_eq : ∀ {vs : List Json}, (∀ k ∈ itemNames vs, IsPlainName k) →
    ofItems vs = checked (itemNumbers vs) (mirrorItems vs)
  | [], _ => rfl
  | v :: vs, plain => by
    obtain ⟨here, later⟩ := List.forall_mem_append.1 plain
    rw [ofItems, ofJson_eq here, ofItems_eq later]
    exact checked_append _ _ List.cons _ _

theorem ofMembers_eq : ∀ {ms : List (String × Json)}, (∀ m ∈ ms, ∀ k ∈ m.2.innerNames, IsPlainName k) →
    ofMembers ms = checked (memberNumbers ms) (mirrorMembers ms)
  | [], _ => rfl
  | (name, v) :: ms, plain => by
    obtain ⟨here, later⟩ := List.forall_mem_cons.1 plain
    rw [ofMembers, ofJson_eq here, ofMembers_eq later]
    exact checked_append _ _ (fun value fs => (name, value) :: fs) _ _
end

end Bson

namespace StoredRecord

open Json

/-- What can be among the other members of a stored record in the making. -/
structure IsOther (room : Nat) (m : String × Json) : Prop where
  apart : m.1 ∉ ownNames
  readable : Readable room m.2

/-- A member is one of the stored record's own, or the last of the others. -/
theorem Draft.rest_of_add {room : Nat} {d d' : Draft} {name : String} {v : Doc} (proper : Proper v.numbers)
    (others : ∀ m ∈ d.rest, IsOther room m) (added : d.add name room v = .ok d') : ∀ m ∈ d'.rest, IsOther room m := by
  unfold Draft.add at added
  split at added
  · split at added
    · cases added
    · obtain ⟨s, _, rfl⟩ := map_eq_ok.1 added
      exact others
  · split at added
    · split at added
      · cases added
      · obtain ⟨s, _, rfl⟩ := map_eq_ok.1 added
        exact others
    · rename_i other_id other_time
      obtain ⟨value, content, rfl⟩ := map_eq_ok.1 added
      have apart : name ∉ ownNames := by simp [ownNames, other_id, other_time]
      rw [List.forall_mem_append, List.forall_mem_singleton]
      exact ⟨others, apart, Doc.readable_content v proper content⟩

theorem rest_of_readMembers {room : Nat} {close : Close} : ∀ (ds : List (Scan String × Doc)) {d d' : Draft},
    Proper (Doc.memberNumbers ds) → (∀ m ∈ d.rest, IsOther room m) → readMembers room d ds close = .ok d' →
    ∀ m ∈ d'.rest, IsOther room m
  | [], d, d', _, others, read => by
    obtain ⟨_, rfl⟩ := orDone_eq_ok.1 read
    exact others
  | (key, v) :: ds, d, d', proper, others, read => by
    obtain ⟨here, later⟩ := proper_append.1 proper
    obtain ⟨name, _, read⟩ := bind_eq_ok.1 read
    obtain ⟨next, added, read⟩ := bind_eq_ok.1 read
    exact rest_of_readMembers ds later (Draft.rest_of_add here others added) read

/-- The record of a stored record that was read is made of the members that are not the stored record's own. -/
theorem format_of_parse {text : String} {s : StoredRecord} (read : parse text = .ok s) :
    ∃ ms, Record.Format ms s.record ∧ ∀ m ∈ ms, IsOther (maxRoom - 1) m := by
  have proper := proper_ofText text
  have root_read := (decode_eq_ok.1 read).1
  unfold ofDoc at root_read
  split at root_read
  · rename_i ds close root
    rw [root] at proper
    rw [if_neg (by decide)] at root_read
    obtain ⟨d, members, finished⟩ := bind_eq_ok.1 root_read
    obtain ⟨id, _, finished⟩ := bind_eq_ok.1 finished
    obtain ⟨createdAt, _, finished⟩ := bind_eq_ok.1 finished
    obtain ⟨r, record, finished⟩ := bind_eq_ok.1 finished
    cases finished
    exact ⟨d.rest, Record.ofMembers_eq_ok.1 record, rest_of_readMembers ds proper (List.forall_mem_nil _) members⟩
  · exact absurd root_read (Doc.mismatch_ne_ok _ _ _)

/-- The name of a text, if there is one. -/
def nameIfSet (name : String) (text : Option String) : List String := if text.isSome then [name] else []

def fieldNames (s : StoredRecord) : List String :=
  ["_id", "title", "content", "url"] ++ nameIfSet "task_id" s.record.taskId ++ nameIfSet "title_zh" s.record.titleZh ++
    nameIfSet "content_zh" s.record.contentZh ++ keys s.record.extra ++ ["created_at"]

theorem keys_members (s : StoredRecord) : keys s.members = s.fieldNames := by
  obtain ⟨id, ⟨title, content, url, taskId, titleZh, contentZh, extra⟩, createdAt⟩ := s
  cases taskId <;> cases titleZh <;> cases contentZh <;>
    simp [keys, members, Record.members, Record.textMember, fieldNames, nameIfSet]

theorem nameIfSet_sublist (name : String) (text : Option String) : (nameIfSet name text).Sublist [name] := by
  cases text with
  | none => exact List.nil_sublist _
  | some _ => exact List.Sublist.refl _

/-- No name comes twice if the extra fields have names of their own. -/
theorem nodup_fieldNames {s : StoredRecord} (distinct : (keys s.record.extra).Nodup)
    (extra : ∀ name ∈ keys s.record.extra, name ∉ Record.fixedNames ∧ name ∉ ownNames) : s.fieldNames.Nodup := by
  -- The names that may be missing only make the list shorter, so they are taken as set.
  have optional := ((nameIfSet_sublist "task_id" s.record.taskId).append
    (nameIfSet_sublist "title_zh" s.record.titleZh)).append (nameIfSet_sublist "content_zh" s.record.contentZh)
  have some_of_all := ((List.Sublist.refl ["_id", "title", "content", "url"]).append optional).append
    (List.Sublist.refl (keys s.record.extra ++ ["created_at"]))
  have others : (keys s.record.extra ++ ["created_at"]).Nodup := by
    refine List.nodup_append'.2 ⟨distinct, List.nodup_singleton _, ?_⟩
    intro name member single
    obtain rfl := List.mem_singleton.1 single
    exact (extra _ member).2 (by decide)
  have all : ((["_id", "title", "content", "url"] ++ (["task_id"] ++ ["title_zh"] ++ ["content_zh"])) ++
      (keys s.record.extra ++ ["created_at"])).Nodup := by
    refine List.nodup_append'.2 ⟨by decide, others, ?_⟩
    intro name fixed member
    have known : name = "_id" ∨ name ∈ Record.fixedNames := by simpa [Record.fixedNames] using fixed
    rcases List.mem_append.1 member with member | last
    · rcases known with rfl | known
      · exact (extra _ member).2 (by decide)
      · exact (extra _ member).1 known
    · obtain rfl := List.mem_singleton.1 last
      exact absurd fixed (by decide)
  have sublist := all.sublist some_of_all
  simpa only [fieldNames, List.append_assoc] using sublist

theorem extra_of_parse {text : String} {s : StoredRecord} (read : parse text = .ok s) :
    s.fieldNames.Nodup ∧ ∀ n ∈ s.record.numbers, n.isProper = true := by
  obtain ⟨ms, format, others⟩ := format_of_parse read
  refine ⟨nodup_fieldNames format.extra.nodup ?_, ?_⟩
  · intro name member
    obtain ⟨extra, given⟩ := format.extra.mem_keys.1 member
    obtain ⟨m, among, rfl⟩ := List.mem_map.1 given
    exact ⟨extra, (others m among).apart⟩
  · intro n inside
    obtain ⟨m, member, inside⟩ := mem_memberNumbers.1 inside
    obtain ⟨v, given, whole⟩ := format.extra.exists_given member
    exact (others _ given).readable.merged.1.proper n (whole ▸ inside)

theorem forall_mem_members {p : Json → Prop} {s : StoredRecord} (texts : ∀ text, p (.string text))
    (extra : ∀ m ∈ s.record.extra, p m.2) : ∀ m ∈ s.members, p m.2 := by
  have optional (name : String) (text : Option String) : ∀ m ∈ Record.textMember name text, p m.2 := by
    cases text <;> simp [Record.textMember, texts]
  simp only [members, Record.members, List.forall_mem_cons, List.forall_mem_append]
  exact ⟨texts _, ⟨texts _, texts _, texts _, ⟨⟨optional _ _, optional _ _⟩, optional _ _⟩, extra⟩, texts _,
    List.forall_mem_nil _⟩

theorem toDocument_eq {s : StoredRecord} (plain : ∀ m ∈ s.record.extra, ∀ name ∈ m.2.innerNames, IsPlainName name) :
    s.toDocument = Bson.checked s.record.numbers (s.members.map fun m => (m.1, Bson.mirror m.2)) := by
  have each : ∀ m ∈ s.members, ∀ name ∈ m.2.innerNames, IsPlainName name :=
    forall_mem_members (p := fun v => ∀ name ∈ v.innerNames, IsPlainName name) (fun _ => List.forall_mem_nil _) plain
  rw [toDocument, Bson.ofMembers_eq each, ← Bson.mirrorMembers_eq, ← numbers_toJson s]
  rfl

/-- A document is made of a stored record that was read, with plain names within its extra fields, unless a whole number
in them is greater than the greatest one of sixty-four bits with a sign. It has the fields of the stored record in
their order, no name twice, each value as it is, and its whole numbers fit. -/
theorem document_of_stored {text : String} {s : StoredRecord} (read : parse text = .ok s)
    (plain : ∀ m ∈ s.record.extra, ∀ name ∈ m.2.innerNames, IsPlainName name) :
    ((∃ e, s.toDocument = .error e) ↔ ∃ n, .integer n ∈ s.record.numbers ∧ 9223372036854775807 < n) ∧
    ((∀ n, .integer n ∈ s.record.numbers → n ≤ 9223372036854775807) → ∃ fs, s.toDocument = .ok fs ∧
      fs.map Prod.fst = ["_id", "title", "content", "url"] ++ nameIfSet "task_id" s.record.taskId ++
        nameIfSet "title_zh" s.record.titleZh ++ nameIfSet "content_zh" s.record.contentZh ++ keys s.record.extra ++
        ["created_at"] ∧
      (fs.map Prod.fst).Nodup ∧ fs = s.members.map (fun m => (m.1, Bson.mirror m.2)) ∧
      ∀ n, .integer n ∈ s.record.numbers → -9223372036854775808 ≤ n) := by
  obtain ⟨distinct, proper⟩ := extra_of_parse read
  have made := toDocument_eq plain
  have names : (s.members.map fun m => (m.1, Bson.mirror m.2)).map Prod.fst = s.fieldNames := by
    rw [List.map_map, ← keys_members]
    rfl
  refine ⟨?_, fun small => ⟨_, made.trans (Bson.checked_eq_ok.2 ⟨small, rfl⟩), names, names ▸ distinct, rfl, ?_⟩⟩
  · rw [made, Bson.exists_checked_eq_error]
  · intro n inside
    have fits := proper _ inside
    simp only [Number.isProper, Number.fits, Bool.and_eq_true, decide_eq_true_eq] at fits
    exact fits.1

/-- The greatest number that fits is kept, within an array and an object too, and the next one is refused. -/
theorem document_of_stored_greatest :
    let s (n : Int) : StoredRecord := ⟨"7", ⟨"t", "c", "u", none, some "", none,
      [("tags", .array [.object [("a", .number (.integer n)), ("b", .null)], .number (.integer (-5))]),
        ("$oid", .bool true)]⟩, "now"⟩
    (∀ n ∈ [9223372036854775807, 9223372036854775808], parse (s n).toJson.compact = .ok (s n)) ∧
    (∀ m ∈ (s 9223372036854775807).record.extra, ∀ name ∈ m.2.innerNames, IsPlainName name) ∧
    (∃ fs, (s 9223372036854775807).toDocument = .ok fs ∧
      fs.map Prod.fst = ["_id", "title", "content", "url", "title_zh", "tags", "$oid", "created_at"]) ∧
    ∃ e, (s 9223372036854775808).toDocument = .error e := by
  intro s
  have numbers (n : Int) : ∀ k, k ∈ (s n).record.numbers ↔ k = .integer n ∨ k = .integer (-5) := by
    simp [s, Record.numbers, memberNumbers, itemNumbers, Json.numbers]
  have extra (n : Int) : ∀ m ∈ (s n).record.extra, m.1 ∉ Record.fixedNames ∧ m.1 ∉ ownNames := by
    simp only [s, List.forall_mem_cons]
    decide
  have plain (n : Int) : ∀ m ∈ (s n).record.extra, ∀ name ∈ m.2.innerNames, IsPlainName name := by
    simp only [s, List.forall_mem_cons, innerNames, itemNames, memberNames, List.append_nil, List.nil_append]
    decide
  have read : ∀ n ∈ [9223372036854775807, 9223372036854775808], parse (s n).toJson.compact = .ok (s n) := by
    intro n member
    have fits : Number.fits n = true := by
      revert n
      decide
    have kept : ∀ k ∈ (s n).toJson.numbers, IsKept k := by
      intro k inside
      rw [numbers_toJson, numbers] at inside
      rcases inside with rfl | rfl
      · exact isKept_integer fits
      · exact isKept_integer (by decide)
    have shallow : (s n).record.toJson.depth ≤ maxRoom := Nat.le_of_ble_eq_true rfl
    exact (parse_eq_ok_iff (ofText_compact kept) rfl shallow (fun m member => (extra n m member).1) _).2
      ⟨rfl, fun m member => (extra n m member).2⟩
  have small : ∀ n, .integer n ∈ (s 9223372036854775807).record.numbers → n ≤ 9223372036854775807 := by
    simp [numbers]
  obtain ⟨fs, made, names, -⟩ := (document_of_stored (read _ (by decide)) (plain 9223372036854775807)).2 small
  refine ⟨read, plain _, ⟨fs, made, names⟩, ?_⟩
  have large : .integer 9223372036854775808 ∈ (s 9223372036854775808).record.numbers := (numbers _ _).2 (.inl rfl)
  exact (document_of_stored (read _ (by decide)) (plain 9223372036854775808)).1.2 ⟨_, large, by decide⟩

end StoredRecord

end Harvest
