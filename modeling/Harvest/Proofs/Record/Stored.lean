import Harvest.Proofs.Record.RoundTrip
import Harvest.Stored

/-!
Stored records as JSON text. The two fields of its own stand next to those of the record in one object. Main statement:
the text of a stored record is read, and read as that stored record, if and only if no extra field of the record has
the name of one of the two.
-/

namespace Harvest.StoredRecord

open Json

/-- The names of the fields that a stored record has besides those of its record. -/
def ownNames : List String := ["_id", "created_at"]

variable {room : Nat} {d d' : Draft}

/-- Whether a field of the stored record's own has been taken in. -/
def Draft.has (d : Draft) (name : String) : Bool :=
  name = "_id" && d.id.isSome || name = "created_at" && d.createdAt.isSome

/-- A field of the stored record's own is taken in once. -/
theorem Draft.has_add {name : String} {v : Doc} (added : d.add name room v = .ok d') :
    ∀ k ∈ ownNames, d'.has k = (d.has k || decide (k = name)) ∧ (k = name → d.has k = false) := by
  have own : ∀ k, k ∈ ownNames ↔ k = "_id" ∨ k = "created_at" := by simp [ownNames]
  unfold Draft.add at added
  split at added
  · rename_i named
    subst named
    split at added
    · cases added
    · rename_i unset
      obtain ⟨s, _, rfl⟩ := map_eq_ok.1 added
      intro k member
      rcases (own k).1 member with rfl | rfl <;> simp_all [Draft.has]
  · split at added
    · rename_i named
      subst named
      split at added
      · cases added
      · rename_i unset
        obtain ⟨s, _, rfl⟩ := map_eq_ok.1 added
        intro k member
        rcases (own k).1 member with rfl | rfl <;> simp_all [Draft.has]
    · rename_i other_id other_time
      obtain ⟨value, _, rfl⟩ := map_eq_ok.1 added
      intro k member
      rcases (own k).1 member with rfl | rfl <;>
        simp [Draft.has, Ne.symm other_id, Ne.symm other_time]

theorem count_of_readMembers {close : Close} : ∀ (ms : List (String × Json)) {d d' : Draft},
    readMembers room d (memberDocs ms) close = .ok d' → ∀ k ∈ ownNames,
    (keys ms).count k ≤ 1 ∧ (d.has k = true → k ∉ keys ms)
  | [], d, d', _, k, _ => by simp [keys]
  | (name, v) :: ms, d, d', read, k, own => by
    obtain ⟨_, same, read⟩ := bind_eq_ok.1 read
    cases same
    obtain ⟨next, added, read⟩ := bind_eq_ok.1 read
    obtain ⟨later, known⟩ := count_of_readMembers ms read k own
    obtain ⟨has, new⟩ := Draft.has_add added k own
    rw [has, Bool.or_eq_true, decide_eq_true_eq] at known
    rw [keys, List.map_cons, List.count_cons, List.mem_cons, not_or]
    by_cases same : k = name
    · have gone := List.count_eq_zero.2 (known (.inr same))
      rw [keys] at gone
      refine ⟨by rw [gone]; split <;> omega, fun taken => ?_⟩
      rw [new same] at taken
      cases taken
    · have other : (name == k) = false := by simpa using Ne.symm same
      rw [other]
      exact ⟨later, fun taken => ⟨same, known (.inl taken)⟩⟩

theorem readMembers_append : ∀ (ms more : List (String × Json)) (d : Draft), memberDepth ms ≤ room →
    (∀ m ∈ ms, m.1 ∉ ownNames) → readMembers room d (memberDocs (ms ++ more)) .closed =
      readMembers room { d with rest := d.rest ++ ms } (memberDocs more) .closed
  | [], more, d, _, _ => by rw [List.nil_append, List.append_nil]
  | (name, v) :: ms, more, d, shallow, other => by
    obtain ⟨here, later⟩ := Nat.max_le.1 shallow
    rw [List.forall_mem_cons] at other
    have passed : d.add name room (toDoc v) = .ok { d with rest := d.rest ++ [(name, v)] } := by
      have names : name ≠ "_id" ∧ name ≠ "created_at" := by simpa [ownNames] using other.1
      rw [Draft.add, if_neg names.1, if_neg names.2, content_toDoc v here]
      rfl
    have rest := readMembers_append ms more { d with rest := d.rest ++ [(name, v)] } later other.2
    rw [List.append_assoc, List.singleton_append] at rest
    rw [List.cons_append, memberDocs, readMembers, ← rest]
    change (d.add name room (toDoc v) >>= fun d => readMembers room d (memberDocs (ms ++ more)) .closed) = _
    rw [passed]
    rfl

/-- What a reader makes of the members of a stored record. -/
theorem readMembers_members (s : StoredRecord) (shallow : memberDepth s.record.members ≤ room)
    (other : ∀ m ∈ s.record.members, m.1 ∉ ownNames) :
    readMembers room {} (memberDocs s.members) .closed = .ok ⟨some s.id, some s.createdAt, s.record.members⟩ := by
  exact readMembers_append s.record.members [("created_at", .string s.createdAt)] { id := some s.id } shallow other

theorem numbers_toJson (s : StoredRecord) : s.toJson.numbers = s.record.numbers := by
  have record : memberNumbers s.record.members = s.record.numbers := Record.numbers_toJson s.record
  rw [toJson, Json.numbers, members, memberNumbers, memberNumbers_append, record]
  exact List.append_nil _

theorem depth_toJson (s : StoredRecord) : s.toJson.depth = s.record.toJson.depth := by
  rw [toJson, Json.depth, members, memberDepth, memberDepth_append]
  exact congrArg (· + 1) ((Nat.zero_max _).trans (Nat.max_zero _))

theorem names_members (r : Record) :
    (∀ m ∈ r.members, m.1 ∉ ownNames) ↔ ∀ m ∈ r.extra, m.1 ∉ ownNames := by
  have optional (name : String) (text : Option String) (apart : name ∉ ownNames) :
      ∀ m ∈ Record.textMember name text, m.1 ∉ ownNames := by
    cases text <;> simp [Record.textMember, apart]
  have task := optional "task_id" r.taskId (by decide)
  have title := optional "title_zh" r.titleZh (by decide)
  have content := optional "content_zh" r.contentZh (by decide)
  simp only [Record.members, List.forall_mem_cons, List.forall_mem_append]
  exact ⟨fun all => all.2.2.2.2, fun extra => ⟨by decide, by decide, by decide, ⟨⟨task, title⟩, content⟩, extra⟩⟩

theorem finish_members {s : StoredRecord} (merged : (object s.record.extra).isMerged = true)
    (extra : ∀ m ∈ s.record.extra, m.1 ∉ Record.fixedNames) :
    Draft.finish ⟨some s.id, some s.createdAt, s.record.members⟩ = .ok s := by
  have record := Record.ofMembers_members merged extra
  exact bind_eq_ok.2 ⟨_, rfl, bind_eq_ok.2 ⟨_, rfl, bind_eq_ok.2 ⟨_, record, rfl⟩⟩⟩

/-- Where the members of a stored record can be taken in, the record has none of the stored record's own. -/
theorem other_of_readMembers {s : StoredRecord} {close : Close}
    (taken : readMembers room {} (memberDocs s.members) close = .ok d) : ∀ m ∈ s.record.members, m.1 ∉ ownNames := by
  have once := count_of_readMembers s.members taken
  have names : keys s.members = "_id" :: (keys s.record.members ++ ["created_at"]) := by
    rw [keys, members, List.map_cons, List.map_append]
    rfl
  have no_id := (once "_id" (by decide)).1
  have no_time := (once "created_at" (by decide)).1
  rw [names, List.count_cons_self] at no_id
  rw [names, List.count_cons_of_ne (by decide), List.count_append, List.count_singleton_self] at no_time
  rw [List.count_append] at no_id
  intro m member own
  have field : 0 < (keys s.record.members).count m.1 := List.count_pos_iff.2 (List.mem_map_of_mem member)
  have named : m.1 = "_id" ∨ m.1 = "created_at" := by simpa [ownNames] using own
  rcases named with named | named
  · rw [named] at field
    omega
  · rw [named] at field
    omega

/-- A text of a stored record is read just if its extra fields keep clear of the stored record's own names, and then it
is read as what it was made of. -/
theorem parse_eq_ok_iff {s : StoredRecord} {text : String} (document : Document.ofText text = ⟨toDoc s.toJson, false⟩)
    (merged : (object s.record.extra).isMerged = true) (shallow : s.record.toJson.depth ≤ maxRoom)
    (extra : ∀ m ∈ s.record.extra, m.1 ∉ Record.fixedNames) (s' : StoredRecord) :
    parse text = .ok s' ↔ s' = s ∧ ∀ m ∈ s.record.extra, m.1 ∉ ownNames := by
  have members : memberDepth s.record.members ≤ maxRoom - 1 := Nat.le_sub_of_add_le shallow
  have finished := finish_members merged extra
  rw [parse, decode_of_document document, toJson, toDoc, ofDoc, if_neg (by decide), ← names_members]
  constructor
  · intro read
    obtain ⟨d, taken, made⟩ := bind_eq_ok.1 read
    have other := other_of_readMembers taken
    rw [readMembers_members s members other] at taken
    cases taken
    exact ⟨Except.ok.inj (made.symm.trans finished), other⟩
  · rintro ⟨rfl, other⟩
    exact bind_eq_ok.2 ⟨_, readMembers_members s' members other, finished⟩

/-- A stored record made of a record that was read, with numbers that are read back from their own texts, as whole
numbers are, is read back from its text, on one line or indented, just if no extra field is called `_id` or
`created_at`. Otherwise its text is not read at all. -/
theorem stored_read_back_iff_extra_names {text : String} {r : Record} (read : Record.parse text = .ok r) :
    (r.isFloatless = true → ∀ n ∈ r.numbers, IsKept n) ∧
    ((∀ n ∈ r.numbers, IsKept n) → ∀ id createdAt,
      let s : StoredRecord := ⟨id, r, createdAt⟩
      (∀ s', parse s.toJson.compact = .ok s' ↔ s' = s ∧ ∀ m ∈ r.extra, m.1 ∉ ownNames) ∧
      ∀ s', parse s.toJson.pretty = .ok s' ↔ s' = s ∧ ∀ m ∈ r.extra, m.1 ∉ ownNames) := by
  obtain ⟨formed, shallow⟩ := Record.wellFormed_of_parse read
  refine ⟨Record.isKept_of_isFloatless formed.proper, ?_⟩
  intro kept id createdAt s
  have extra := (Record.sound_of_parse read).1
  have each : ∀ n ∈ s.toJson.numbers, IsKept n := fun n member => kept n (numbers_toJson s ▸ member)
  exact ⟨parse_eq_ok_iff (ofText_compact each) formed.merged shallow extra,
    parse_eq_ok_iff (ofText_pretty each) formed.merged shallow extra⟩

/-- A record with nested fields is read back from its stored form, written in both ways. -/
theorem stored_read_back_nested :
    let r : Record := ⟨"a \"title\"", "two\nlines", "http://x/ü", none, some "", none,
      [("tags", .array [.number (.integer (-5)), .object [("_id", .null)]]), ("ID", .bool true)]⟩
    let s : StoredRecord := ⟨"7", r, "now"⟩
    Record.parse r.toJson.compact = .ok r ∧ (∀ n ∈ r.numbers, IsKept n) ∧
      parse s.toJson.compact = .ok s ∧ parse s.toJson.pretty = .ok s := by
  intro r s
  have kept : ∀ n ∈ r.numbers, IsKept n := Record.isKept_of_isFloatless (by decide) (by decide)
  have read : Record.parse r.toJson.compact = .ok r := Record.parse_compact kept (by decide) (by decide) (by decide)
  obtain ⟨compact, pretty⟩ := (stored_read_back_iff_extra_names read).2 kept "7" "now"
  exact ⟨read, kept, (compact s).2 ⟨rfl, by decide⟩, (pretty s).2 ⟨rfl, by decide⟩⟩

/-- A record with an extra field `_id` is read back from its own text, but not from its stored form. -/
theorem stored_not_read_back :
    let r : Record := ⟨"a", "b", "u", none, none, none, [("_id", .string "x")]⟩
    let s : StoredRecord := ⟨"i", r, "t"⟩
    Record.parse r.toJson.compact = .ok r ∧ r.isFloatless = true ∧
      parse s.toJson.compact = .error (.duplicateField "_id") := by
  intro r s
  have kept : ∀ n ∈ r.numbers, IsKept n := Record.isKept_of_isFloatless (by decide) (by decide)
  have document := ofText_compact (v := s.toJson) fun n member => kept n (numbers_toJson s ▸ member)
  refine ⟨Record.parse_compact kept (by decide) (by decide) (by decide), by decide, ?_⟩
  rw [parse, decode_of_document document]
  rfl

end Harvest.StoredRecord
