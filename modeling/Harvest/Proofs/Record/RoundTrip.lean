import Harvest.Proofs.Json.Documents
import Harvest.Proofs.Json.Written
import Harvest.Record.Decode

/-!
Records as JSON text. Main statement: a record without floating-point numbers is read back from its text if and only if
none of its extra fields has the name of a fixed field; no record that was read has one.
-/

namespace Harvest

open Json

namespace Record

/-- The numbers in the extra fields. -/
def numbers (r : Record) : List Number := memberNumbers r.extra

def isFloatless (r : Record) : Bool := r.numbers.all Number.isWhole

/-- Extra fields as JSON values can be: no object repeats a key, and whole numbers fit. -/
structure WellFormed (r : Record) : Prop where
  merged : (object r.extra).isMerged = true
  proper : ∀ n ∈ r.numbers, n.isProper = true

theorem isKept_of_isFloatless {r : Record} (proper : ∀ n ∈ r.numbers, n.isProper = true)
    (floatless : r.isFloatless = true) : ∀ n ∈ r.numbers, IsKept n := by
  intro n member
  have fits := proper n member
  have whole := List.all_eq_true.1 floatless n member
  cases n with
  | integer k => exact isKept_integer fits
  | float x => cases whole

theorem memberNumbers_textMember (name : String) (s : Option String) (ms : List (String × Json)) :
    memberNumbers (textMember name s ++ ms) = memberNumbers ms := by
  cases s <;> rfl

theorem memberDepth_textMember (name : String) (s : Option String) (ms : List (String × Json)) :
    memberDepth (textMember name s ++ ms) = memberDepth ms := by
  cases s with
  | none => rfl
  | some s => exact Nat.zero_max _

theorem numbers_toJson (r : Record) : r.toJson.numbers = r.numbers := by
  simp only [toJson, members, Json.numbers, memberNumbers, List.append_assoc, memberNumbers_textMember, List.nil_append]
  rfl

theorem depth_toJson (r : Record) : r.toJson.depth = memberDepth r.extra + 1 := by
  simp only [toJson, members, Json.depth, memberDepth, List.append_assoc, memberDepth_textMember, Nat.zero_max]

theorem readMembers_of_content {room : Nat} {close : Close} : ∀ (ds : List (Scan String × Doc))
    {ms : List (String × Json)} (d : Draft), Doc.contentMembers room ds close = .ok ms →
    readMembers room d ds close = ms.foldlM (fun (d : Draft) m => d.add m.1 m.2.reading) d
  | [], ms, d, content => by
    obtain ⟨unflawed, rfl⟩ := orDone_eq_ok.1 content
    rw [readMembers, unflawed]
    rfl
  | (key, v) :: ds, ms, d, content => by
    obtain ⟨name, named, content⟩ := bind_eq_ok.1 content
    obtain ⟨value, read, content⟩ := bind_eq_ok.1 content
    obtain ⟨later, members, same⟩ := bind_eq_ok.1 content
    cases same
    have rest := fun d => readMembers_of_content ds d members
    rw [readMembers, named, List.foldlM_cons]
    simp only [rest, Doc.reading_of_content read]
    rfl

/-- A record reads the same from a document as from its members. -/
theorem ofDoc_toDoc {room : Nat} {ms : List (String × Json)} (shallow : (object ms).depth ≤ room) :
    ofDoc room (toDoc (object ms)) = ofMembers ms := by
  have space : room ≠ 0 := by
    rintro rfl
    exact absurd shallow (Nat.not_succ_le_zero _)
  have content := contentMembers_memberDocs ms (Nat.le_sub_of_add_le shallow : memberDepth ms ≤ room - 1)
  rw [toDoc, ofDoc, if_neg space, readMembers_of_content (memberDocs ms) {} content, ofMembers]

theorem lookup_eq_none {name : String} : Slot.all.lookup name = none ↔ name ∉ fixedNames := by
  simp [List.lookup_eq_none_iff, Slot.all, fixedNames]

theorem add_extra {name : String} (extra : name ∉ fixedNames) (d : Draft) (v : Reading) :
    d.add name v = v.value.map fun value => { d with extra := insert name value d.extra } := by
  rw [Draft.add, lookup_eq_none.2 extra]

theorem foldlM_extra : ∀ (ms : List (String × Json)) (d : Draft), (∀ m ∈ ms, m.1 ∉ fixedNames) →
    membersMerged ms = true → (keys (d.extra ++ ms)).Nodup →
    ms.foldlM (fun (d : Draft) m => d.add m.1 m.2.reading) d = .ok { d with extra := d.extra ++ ms }
  | [], d, _, _, _ => by
    rw [List.append_nil]
    rfl
  | (name, v) :: ms, d, extra, merged, distinct => by
    rw [List.forall_mem_cons] at extra
    obtain ⟨merged_here, merged_later⟩ := Bool.and_eq_true_iff.1 merged
    have new : name ∉ keys d.extra := by
      rw [keys, List.map_append, List.nodup_append] at distinct
      exact fun old => distinct.2.2 name old name List.mem_cons_self rfl
    have moved : d.extra ++ (name, v) :: ms = (d.extra ++ [(name, v)]) ++ ms := by
      rw [List.append_assoc, List.singleton_append]
    rw [moved] at distinct ⊢
    rw [List.foldlM_cons, add_extra extra.1, reading, Except.map, merged_of_isMerged merged_here,
      insert_of_not_mem v new]
    exact foldlM_extra ms _ extra.2 merged_later distinct

/-- The fixed fields of a record, taken in. -/
def draft (r : Record) : Draft :=
  ⟨some r.title, some r.content, some r.url, r.taskId.map some, r.titleZh.map some, r.contentZh.map some, []⟩

theorem foldlM_members (r : Record) :
    r.members.foldlM (fun (d : Draft) m => d.add m.1 m.2.reading) {} =
      r.extra.foldlM (fun (d : Draft) m => d.add m.1 m.2.reading) (draft r) := by
  obtain ⟨title, content, url, taskId, titleZh, contentZh, extra⟩ := r
  cases taskId <;> cases titleZh <;> cases contentZh <;> rfl

theorem finish_draft (r : Record) : Draft.finish { draft r with extra := r.extra } = .ok r := by
  obtain ⟨title, content, url, taskId, titleZh, contentZh, extra⟩ := r
  cases taskId <;> cases titleZh <;> cases contentZh <;> rfl

theorem ofMembers_members {r : Record} (merged : (object r.extra).isMerged = true)
    (extra : ∀ m ∈ r.extra, m.1 ∉ fixedNames) : ofMembers r.members = .ok r := by
  obtain ⟨distinct, each⟩ := Bool.and_eq_true_iff.1 merged
  rw [ofMembers, foldlM_members, foldlM_extra r.extra (draft r) extra each (of_decide_eq_true distinct)]
  exact finish_draft r

theorem parse_compact {r : Record} (kept : ∀ n ∈ r.numbers, IsKept n) (merged : (object r.extra).isMerged = true)
    (shallow : r.toJson.depth ≤ maxRoom) (extra : ∀ m ∈ r.extra, m.1 ∉ fixedNames) :
    parse r.toJson.compact = .ok r := by
  have document := ofText_compact (v := r.toJson) fun n member => kept n (numbers_toJson r ▸ member)
  rw [parse, decode_of_document document, toJson, ofDoc_toDoc shallow, ofMembers_members merged extra]

/-- What is known of a record in the making. -/
structure Draft.Sound (room : Nat) (d : Draft) : Prop where
  names : ∀ m ∈ d.extra, m.1 ∉ fixedNames
  values : ∀ m ∈ d.extra, Readable room m.2 ∧ m.2.isMerged = true
  distinct : (keys d.extra).Nodup

theorem Draft.once_extra {α : Type} {name : String} {now : Option α} {read : Except Error α} {set : α → Draft}
    {d d' : Draft} (taken : Draft.once name now read set = .ok d') (keeps : ∀ a, (set a).extra = d.extra) :
    d'.extra = d.extra := by
  unfold Draft.once at taken
  split at taken
  · cases taken
  · obtain ⟨a, _, rfl⟩ := map_eq_ok.1 taken
    exact keeps a

/-- A member is taken in as a fixed field, or it is the value of an extra field. -/
theorem Draft.add_cases {d d' : Draft} {name : String} {v : Reading} (added : d.add name v = .ok d') :
    d'.extra = d.extra ∨
    name ∉ fixedNames ∧ ∃ value, v.value = .ok value ∧ d'.extra = insert name value d.extra := by
  unfold Draft.add at added
  split at added
  case h_7 none_fixed =>
    obtain ⟨value, read, rfl⟩ := map_eq_ok.1 added
    exact .inr ⟨lookup_eq_none.1 none_fixed, value, read, rfl⟩
  all_goals exact .inl (Draft.once_extra added fun _ => rfl)

theorem Draft.Sound.add {room : Nat} {d d' : Draft} (sound : d.Sound room) {name : String} {v : Doc}
    (proper : Proper v.numbers) (added : d.add name (v.reading room) = .ok d') : d'.Sound room := by
  rcases Draft.add_cases added with same | ⟨extra, value, read, whole⟩
  · exact ⟨same ▸ sound.names, same ▸ sound.values, same ▸ sound.distinct⟩
  · obtain ⟨content, inside, rfl⟩ := map_eq_ok.1 read
    refine ⟨?_, ?_, whole ▸ nodup_keys_insert sound.distinct⟩
    · intro m member
      rcases mem_insert (whole ▸ member) with rfl | old
      · exact extra
      · exact sound.names m old
    · intro m member
      rcases mem_insert (whole ▸ member) with rfl | old
      · exact (Doc.readable_content v proper inside).merged
      · exact sound.values m old

theorem sound_readMembers {room : Nat} : ∀ (ms : List (Scan String × Doc)) {close : Close} {d d' : Draft},
    d.Sound room → Proper (Doc.memberNumbers ms) → readMembers room d ms close = .ok d' → d'.Sound room
  | [], close, d, d', sound, _, read => by
    obtain ⟨_, rfl⟩ := orDone_eq_ok.1 read
    exact sound
  | (key, v) :: ms, close, d, d', sound, proper, read => by
    obtain ⟨here, later⟩ := proper_append.1 proper
    obtain ⟨name, _, read⟩ := bind_eq_ok.1 read
    obtain ⟨next, added, read⟩ := bind_eq_ok.1 read
    exact sound_readMembers ms (sound.add here added) later read

theorem extra_of_finish {d : Draft} {r : Record} (finished : d.finish = .ok r) : r.extra = d.extra := by
  obtain ⟨_, _, finished⟩ := bind_eq_ok.1 finished
  obtain ⟨_, _, finished⟩ := bind_eq_ok.1 finished
  obtain ⟨_, _, finished⟩ := bind_eq_ok.1 finished
  cases finished
  rfl

/-- What is known of the extra fields of a record that was read. -/
theorem sound_of_parse {text : String} {r : Record} (read : parse text = .ok r) :
    (∀ m ∈ r.extra, m.1 ∉ fixedNames) ∧ (∀ m ∈ r.extra, Readable (maxRoom - 1) m.2 ∧ m.2.isMerged = true) ∧
      (keys r.extra).Nodup := by
  have proper := proper_ofText text
  have root_read := (decode_eq_ok.1 read).1
  unfold ofDoc at root_read
  split at root_read
  · rename_i ms close root
    rw [root] at proper
    rw [if_neg (by decide)] at root_read
    obtain ⟨d, members, finished⟩ := bind_eq_ok.1 root_read
    have empty : Draft.Sound (maxRoom - 1) {} := ⟨by simp, by simp, List.nodup_nil⟩
    have sound := sound_readMembers ms empty proper members
    rw [extra_of_finish finished]
    exact ⟨sound.names, sound.values, sound.distinct⟩
  · exact absurd root_read (Doc.mismatch_ne_ok _ _ _)

/-- A record that was read is as deep as a reader goes, and its extra fields are as JSON values can be. -/
theorem wellFormed_of_parse {text : String} {r : Record} (read : parse text = .ok r) :
    r.WellFormed ∧ r.toJson.depth ≤ maxRoom := by
  obtain ⟨_, values, distinct⟩ := sound_of_parse read
  refine ⟨⟨?_, ?_⟩, ?_⟩
  · exact Bool.and_eq_true_iff.2
      ⟨decide_eq_true distinct, membersMerged_iff.2 fun m field => (values m field).2⟩
  · intro n member
    obtain ⟨m, field, inside⟩ := mem_memberNumbers.1 member
    exact (values m field).1.proper n inside
  · have members : memberDepth r.extra ≤ maxRoom - 1 := memberDepth_le.2 fun m field => (values m field).1.shallow
    rw [depth_toJson]
    exact Nat.add_le_of_le_sub (by decide) members

/-- A record without floating-point numbers that nests no deeper than a reader goes is read back from its text if and
only if no extra field has the name of a fixed one. So every such record that was read from some text is read back from
its own, which is written again as it is. -/
theorem parse_compact_iff_extra_names :
    (∀ r : Record, r.WellFormed → r.isFloatless = true → r.toJson.depth ≤ maxRoom →
      (parse r.toJson.compact = .ok r ↔ ∀ m ∈ r.extra, m.1 ∉ fixedNames)) ∧
    ∀ text r, parse text = .ok r → r.isFloatless = true →
      parse r.toJson.compact = .ok r ∧
      (parse r.toJson.compact).map (fun again => again.toJson.compact) = .ok r.toJson.compact := by
  refine ⟨?_, ?_⟩
  · intro r formed floatless shallow
    constructor
    · exact fun read => (sound_of_parse read).1
    · exact parse_compact (isKept_of_isFloatless formed.proper floatless) formed.merged shallow
  · intro text r read floatless
    obtain ⟨formed, shallow⟩ := wellFormed_of_parse read
    have kept := isKept_of_isFloatless formed.proper floatless
    have back := parse_compact kept formed.merged shallow (sound_of_parse read).1
    exact ⟨back, by rw [back, Except.map]⟩

/-- Escapes, nested values and signs come back; a field that hides behind the title does not. -/
theorem parse_compact_iff_extra_names_nested :
    let r : Record := ⟨"a \"title\"", "two\nlines", "http://x/ü", some "run", none, some "",
      [("tags", .array [.number (.integer (-5)), .object [("\x01", .null), ("é", .bool true)]]), ("_id", .string "")]⟩
    let hidden : Record := { r with extra := [("title", .null)] }
    parse r.toJson.compact = .ok r ∧
      (parse r.toJson.compact).map (fun again => again.toJson.compact) = .ok r.toJson.compact ∧
      parse hidden.toJson.compact ≠ .ok hidden := by
  intro r hidden
  have formed : r.WellFormed := ⟨by decide, by decide⟩
  have hidden_formed : hidden.WellFormed := ⟨by decide, by decide⟩
  have back := (parse_compact_iff_extra_names.1 r formed (by decide) (by decide)).2 (by decide)
  have again := (parse_compact_iff_extra_names.2 _ r back (by decide)).2
  refine ⟨back, again, ?_⟩
  intro read
  have names := (parse_compact_iff_extra_names.1 hidden hidden_formed (by decide) (by decide)).1 read
  exact names _ List.mem_cons_self (by decide)

end Record

end Harvest
