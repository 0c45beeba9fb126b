import Harvest.Proofs.Record.RoundTrip
import Mathlib.Data.List.Induction

/-!
The format of a record. Which objects are records, and of which record each is one: the required texts are given once,
the optional ones at most once, and all other members are gathered, each name at its first place with its last value.
-/

namespace Harvest

namespace Json

/-- The values that are given under a name, in their order. -/
def given (name : String) (ms : List (String × Json)) : List Json := (ms.filter (·.1 = name)).map (·.2)

theorem given_concat (name key : String) (v : Json) (ms : List (String × Json)) :
    given name (ms ++ [(key, v)]) = if key = name then given name ms ++ [v] else given name ms := by
  by_cases same : key = name <;> simp [given, same]

theorem given_eq_nil {name : String} {ms : List (String × Json)} : given name ms = [] ↔ name ∉ keys ms := by
  simp only [given, keys, List.map_eq_nil_iff, List.filter_eq_nil_iff, decide_eq_true_eq, List.mem_map, not_exists,
    not_and]

theorem keys_concat (ms : List (String × Json)) (m : String × Json) : keys (ms ++ [m]) = keys ms ++ [m.1] :=
  List.map_append

theorem get?_eq_none {name : String} {ms : List (String × Json)} : get? name ms = none ↔ name ∉ keys ms := by
  induction ms with
  | nil => simp [get?, keys]
  | cons m ms ih =>
    rw [get?, keys, List.map_cons, List.mem_cons, not_or, ← keys, ← ih]
    split
    · rename_i same
      simp [same]
    · rename_i other
      simp [Ne.symm other]

/-- Members with distinct names are known by their names, in order, and by the value of each. -/
theorem eq_of_get?_eq {ms more : List (String × Json)} (names : keys ms = keys more) (distinct : (keys ms).Nodup)
    (values : ∀ name, get? name ms = get? name more) : ms = more := by
  induction ms generalizing more with
  | nil => exact (List.map_eq_nil_iff.1 names.symm).symm
  | cons m ms ih =>
    cases more with
    | nil => cases names
    | cons m' more =>
      obtain ⟨name, rest⟩ := List.cons_eq_cons.1 names
      obtain ⟨new, distinct⟩ := List.nodup_cons.1 distinct
      have here := values m.1
      rw [get?, get?, if_pos rfl, if_pos name.symm, Option.some_inj] at here
      rw [Prod.ext name here, ih rest distinct]
      intro k
      have there := values k
      rw [get?, get?, ← name] at there
      by_cases same : m.1 = k
      · subst same
        rw [get?_eq_none.2 new, get?_eq_none.2 (show m.1 ∉ more.map Prod.fst from rest ▸ new)]
      · rwa [if_neg same, if_neg same] at there

/-- What members come to, those of some names left out: each name stands at its first place, with its last value. -/
structure Gathered (out : List String) (ms extra : List (String × Json)) : Prop where
  values : ∀ name, get? name extra = if name ∈ out then none else (given name ms).getLast?.map merged
  order : (keys extra).Pairwise fun first later => (keys ms).idxOf first < (keys ms).idxOf later

namespace Gathered

variable {out : List String} {ms extra others : List (String × Json)} {name : String} {v : Json}

theorem nil : Gathered out [] [] := ⟨fun name => by simp [get?, given], .nil⟩

theorem mem_keys (gathered : Gathered out ms extra) : name ∈ keys extra ↔ name ∉ out ∧ name ∈ keys ms := by
  rw [← not_iff_not, ← get?_eq_none, gathered.values]
  by_cases left_out : name ∈ out
  · simp [left_out]
  · simp [left_out, given_eq_nil]

/-- The places of what has been gathered are not changed by a member at the end. -/
theorem order_concat (gathered : Gathered out ms extra) (name : String) (v : Json) :
    (keys extra).Pairwise fun first later =>
      (keys (ms ++ [(name, v)])).idxOf first < (keys (ms ++ [(name, v)])).idxOf later := by
  refine gathered.order.imp_of_mem ?_
  intro first later member member' before
  rw [keys_concat, List.idxOf_append_of_mem (gathered.mem_keys.1 member).2,
    List.idxOf_append_of_mem (gathered.mem_keys.1 member').2]
  exact before

theorem skip (gathered : Gathered out ms extra) (left_out : name ∈ out) (v : Json) :
    Gathered out (ms ++ [(name, v)]) extra := by
  refine ⟨?_, gathered.order_concat name v⟩
  intro k
  rw [gathered.values, given_concat]
  split
  · rfl
  · rename_i other
    rw [if_neg]
    rintro rfl
    exact other left_out

theorem insert (gathered : Gathered out ms extra) (other : name ∉ out) (v : Json) :
    Gathered out (ms ++ [(name, v)]) (Json.insert name v.merged extra) := by
  refine ⟨?_, ?_⟩
  · intro k
    rw [get?_insert, gathered.values, given_concat]
    by_cases same : name = k
    · subst same
      simp [other]
    · simp only [same, if_false]
  · have order := gathered.order_concat name v
    rw [show keys (Json.insert name v.merged extra) = _ from keys_insert name v.merged extra]
    split
    · exact order
    · rename_i new
      have last : name ∉ keys ms := fun old => new (gathered.mem_keys.2 ⟨other, old⟩)
      refine List.pairwise_append.2 ⟨order, List.pairwise_singleton _ _, ?_⟩
      intro first member later single
      obtain rfl := List.mem_singleton.1 single
      have old := (gathered.mem_keys.1 member).2
      rw [keys_concat, List.idxOf_append_of_mem old, List.idxOf_append_of_notMem last]
      exact Nat.lt_add_right _ (List.idxOf_lt_length_iff.2 old)

theorem nodup (gathered : Gathered out ms extra) : (keys extra).Nodup := by
  refine gathered.order.imp ?_
  rintro first later before rfl
  exact Nat.lt_irrefl _ before

theorem unique (gathered : Gathered out ms extra) (gathered' : Gathered out ms others) : extra = others := by
  have names : (keys extra).Perm (keys others) := by
    rw [List.perm_ext_iff_of_nodup gathered.nodup gathered'.nodup]
    intro name
    rw [gathered.mem_keys, gathered'.mem_keys]
  have same := names.eq_of_pairwise (fun _ _ _ _ before after => absurd before (Nat.lt_asymm after))
    gathered.order gathered'.order
  refine eq_of_get?_eq same gathered.nodup ?_
  intro name
  rw [gathered.values, gathered'.values]

end Gathered

theorem mergedMembers_concat {ms : List (String × Json)} : ∀ {before : List (String × Json)} {m : String × Json},
    mergedMembers before (ms ++ [m]) = Json.insert m.1 m.2.merged (mergedMembers before ms) := by
  induction ms with
  | nil => exact rfl
  | cons _ ms ih => exact ih

/-- In an object within a value nothing is left out. -/
theorem gathered_mergedMembers (ms : List (String × Json)) : Gathered [] ms (mergedMembers [] ms) := by
  induction ms using List.reverseRecOn with
  | nil => exact .nil
  | append_singleton ms m ih =>
    rw [mergedMembers_concat]
    exact ih.insert List.not_mem_nil m.2

end Json

namespace Record

open Json

/-- What the values under the name of an optional text come to. -/
inductive OptionalText : List Json → Option String → Prop
  | missing : OptionalText [] none
  | null : OptionalText [.null] none
  | text (s : String) : OptionalText [.string s] (some s)

/-- Whether the members of an object are those of a record. -/
structure Format (ms : List (String × Json)) (r : Record) : Prop where
  title : given "title" ms = [.string r.title]
  content : given "content" ms = [.string r.content]
  url : given "url" ms = [.string r.url]
  taskId : OptionalText (given "task_id" ms) r.taskId
  titleZh : OptionalText (given "title_zh" ms) r.titleZh
  contentZh : OptionalText (given "content_zh" ms) r.contentZh
  extra : Gathered fixedNames ms r.extra

/-- Whether the fixed fields are given as those of some record, whatever else is given. -/
structure HasFixedFields (ms : List (String × Json)) : Prop where
  required : ∀ name ∈ ["title", "content", "url"], ∃ s, given name ms = [.string s]
  optional : ∀ name ∈ ["task_id", "title_zh", "content_zh"],
    given name ms = [] ∨ given name ms = [.null] ∨ ∃ s, given name ms = [.string s]


namespace Slot

def name : Slot → String
  | title => "title"
  | content => "content"
  | url => "url"
  | taskId => "task_id"
  | titleZh => "title_zh"
  | contentZh => "content_zh"

def isOptional : Slot → Bool
  | taskId | titleZh | contentZh => true
  | _ => false

/-- Whether a field can be given as a value. -/
def Fits (slot : Slot) (v : Json) : Prop := (∃ s, v = .string s) ∨ slot.isOptional = true ∧ v = .null

theorem name_inj {slot other : Slot} : slot.name = other.name ↔ slot = other := by
  cases slot <;> cases other <;> decide

theorem mem_fixedNames {name : String} : name ∈ fixedNames ↔ ∃ slot : Slot, slot.name = name := by
  constructor
  · intro fixed
    simp only [fixedNames, List.mem_cons, List.not_mem_nil, or_false] at fixed
    rcases fixed with rfl | rfl | rfl | rfl | rfl | rfl
    · exact ⟨.title, rfl⟩
    · exact ⟨.content, rfl⟩
    · exact ⟨.url, rfl⟩
    · exact ⟨.taskId, rfl⟩
    · exact ⟨.titleZh, rfl⟩
    · exact ⟨.contentZh, rfl⟩
  · rintro ⟨slot, rfl⟩
    cases slot <;> decide

end Slot

/-- An optional text as a value. -/
def optionalValue : Option String → Json
  | none => .null
  | some s => .string s

namespace Draft

variable {d d' : Draft} {slot : Slot} {v : Json}

/-- The value that a field was set from, if it is set. -/
def held (d : Draft) : Slot → List Json
  | .title => d.title.toList.map .string
  | .content => d.content.toList.map .string
  | .url => d.url.toList.map .string
  | .taskId => d.taskId.toList.map optionalValue
  | .titleZh => d.titleZh.toList.map optionalValue
  | .contentZh => d.contentZh.toList.map optionalValue

theorem once_eq_ok {α : Type} {name : String} {now : Option α} {read : Except Error α} {set : α → Draft} :
    once name now read set = .ok d ↔ now = none ∧ ∃ a, read = .ok a ∧ set a = d := by
  unfold once
  split
  · simp
  · rw [map_eq_ok]
    simp

theorem text_eq_ok {s : String} : v.reading.text = .ok s ↔ v = .string s := by
  cases v <;> simp [reading, Json.text]

theorem optionalText_eq_ok {s : Option String} : v.reading.optionalText = .ok s ↔ v = optionalValue s := by
  cases s <;> cases v <;> simp [reading, Json.optionalText, Json.text, optionalValue, Except.map]

theorem fits_optionalValue (optional : slot.isOptional = true) (s : Option String) : slot.Fits (optionalValue s) := by
  cases s with
  | none => exact .inr ⟨optional, rfl⟩
  | some s => exact .inl ⟨s, rfl⟩

/-- A fixed field is taken in once, as a value that fits, and nothing else is changed. -/
theorem held_of_add (added : d.add slot.name v.reading = .ok d') :
    d.held slot = [] ∧ slot.Fits v ∧ (∀ other, d'.held other = if slot = other then [v] else d.held other) ∧
      d'.extra = d.extra := by
  cases slot with
  | title | content | url =>
    obtain ⟨unset, s, read, rfl⟩ := once_eq_ok.1 added
    obtain rfl := text_eq_ok.1 read
    refine ⟨by simp only [held, unset]; rfl, .inl ⟨s, rfl⟩, ?_, rfl⟩
    intro other
    cases other <;> rfl
  | taskId | titleZh | contentZh =>
    obtain ⟨unset, s, read, rfl⟩ := once_eq_ok.1 added
    obtain rfl := optionalText_eq_ok.1 read
    refine ⟨by simp only [held, unset]; rfl, fits_optionalValue rfl s, ?_, rfl⟩
    intro other
    cases other <;> rfl

theorem exists_add (unset : d.held slot = []) (fits : slot.Fits v) : ∃ d', d.add slot.name v.reading = .ok d' := by
  have nothing {α : Type} {f : α → Json} {o : Option α} (none_held : o.toList.map f = []) : o = none := by
    simpa using none_held
  cases slot with
  | title | content | url =>
    obtain ⟨s, rfl⟩ | ⟨optional, _⟩ := fits
    · exact ⟨_, once_eq_ok.2 ⟨nothing unset, s, rfl, rfl⟩⟩
    · cases optional
  | taskId | titleZh | contentZh =>
    obtain ⟨s, rfl⟩ | ⟨_, rfl⟩ := fits
    · exact ⟨_, once_eq_ok.2 ⟨nothing unset, some s, rfl, rfl⟩⟩
    · exact ⟨_, once_eq_ok.2 ⟨nothing unset, none, rfl, rfl⟩⟩

theorem finish_eq_ok {r : Record} :
    d.finish = .ok r ↔ d.title = some r.title ∧ d.content = some r.content ∧ d.url = some r.url ∧
      d.taskId.getD none = r.taskId ∧ d.titleZh.getD none = r.titleZh ∧ d.contentZh.getD none = r.contentZh ∧
      d.extra = r.extra := by
  have given {α : Type} {name : String} {o : Option α} {a : α} : required name o = .ok a ↔ o = some a := by
    cases o <;> simp [required]
  constructor
  · intro finished
    obtain ⟨title, has_title, finished⟩ := bind_eq_ok.1 finished
    obtain ⟨content, has_content, finished⟩ := bind_eq_ok.1 finished
    obtain ⟨url, has_url, finished⟩ := bind_eq_ok.1 finished
    cases finished
    exact ⟨given.1 has_title, given.1 has_content, given.1 has_url, rfl, rfl, rfl, rfl⟩
  · rintro ⟨title, content, url, taskId, titleZh, contentZh, extra⟩
    refine bind_eq_ok.2 ⟨_, given.2 title, bind_eq_ok.2 ⟨_, given.2 content, bind_eq_ok.2 ⟨_, given.2 url, ?_⟩⟩⟩
    rw [taskId, titleZh, contentZh, extra]
    rfl

end Draft

/-- Takes in the members of an object. -/
def addAll (ms : List (String × Json)) : Except Error Draft :=
  ms.foldlM (fun (d : Draft) m => d.add m.1 m.2.reading) {}

theorem addAll_concat {ms : List (String × Json)} {m : String × Json} {d : Draft} :
    addAll (ms ++ [m]) = .ok d ↔ ∃ before, addAll ms = .ok before ∧ before.add m.1 m.2.reading = .ok d := by
  rw [addAll, List.foldlM_append, bind_eq_ok]
  simp only [List.foldlM_cons, List.foldlM_nil, bind_pure]
  rfl

/-- What is known of a record in the making by the members that have been taken in. -/
theorem held_of_addAll {ms : List (String × Json)} {d : Draft} (added : addAll ms = .ok d) :
    (∀ slot, d.held slot = given slot.name ms) ∧ Gathered fixedNames ms d.extra := by
  induction ms using List.reverseRecOn generalizing d with
  | nil =>
    cases added
    exact ⟨fun slot => by cases slot <;> rfl, .nil⟩
  | append_singleton ms m ih =>
    obtain ⟨name, v⟩ := m
    obtain ⟨before, added, last⟩ := addAll_concat.1 added
    obtain ⟨held, gathered⟩ := ih added
    by_cases fixed : name ∈ fixedNames
    · obtain ⟨slot, rfl⟩ := Slot.mem_fixedNames.1 fixed
      obtain ⟨unset, _, now, same⟩ := Draft.held_of_add last
      refine ⟨?_, same ▸ gathered.skip fixed v⟩
      intro other
      rw [now, given_concat, ← held]
      simp only [Slot.name_inj]
      split
      · rename_i here
        rw [← here, unset, List.nil_append]
      · rfl
    · rw [add_extra fixed] at last
      cases last
      refine ⟨?_, gathered.insert fixed v⟩
      intro other
      have apart : name ≠ other.name := fun same => fixed (Slot.mem_fixedNames.2 ⟨other, same.symm⟩)
      rw [given_concat, if_neg apart, ← held]
      cases other <;> rfl

/-- Members with fixed fields that fit, each at most once, can all be taken in. -/
theorem exists_addAll {ms : List (String × Json)}
    (fit : ∀ slot : Slot, given slot.name ms = [] ∨ ∃ v, given slot.name ms = [v] ∧ slot.Fits v) :
    ∃ d, addAll ms = .ok d := by
  induction ms using List.reverseRecOn with
  | nil => exact ⟨{}, rfl⟩
  | append_singleton ms m ih =>
    obtain ⟨name, v⟩ := m
    have fresh (slot : Slot) (same : name = slot.name) : given slot.name ms = [] ∧ slot.Fits v := by
      have both := fit slot
      rw [given_concat, if_pos same] at both
      rcases both with none | ⟨w, single, fits⟩
      · simp at none
      · obtain ⟨nothing, last⟩ := List.append_eq_singleton_iff.1 single |>.resolve_right (by simp)
        cases last
        exact ⟨nothing, fits⟩
    obtain ⟨before, added⟩ := ih fun slot => by
      by_cases same : name = slot.name
      · exact .inl (fresh slot same).1
      · have both := fit slot
        rwa [given_concat, if_neg same] at both
    have held := (held_of_addAll added).1
    by_cases fixed : name ∈ fixedNames
    · obtain ⟨slot, same⟩ := Slot.mem_fixedNames.1 fixed
      obtain ⟨nothing, fits⟩ := fresh slot same.symm
      obtain ⟨d, last⟩ := Draft.exists_add ((held slot).trans nothing) fits
      exact ⟨d, addAll_concat.2 ⟨before, added, same ▸ last⟩⟩
    · exact ⟨_, addAll_concat.2 ⟨before, added, add_extra fixed before v.reading⟩⟩

theorem optionalText_iff {o : Option (Option String)} {s : Option String} :
    OptionalText (o.toList.map optionalValue) s ↔ o.getD none = s := by
  constructor
  · intro given
    rcases o with _ | _ | t <;> cases given <;> rfl
  · rintro rfl
    rcases o with _ | _ | t
    · exact .missing
    · exact .null
    · exact .text t

theorem string_iff {o : Option String} {s : String} : o.toList.map Json.string = [.string s] ↔ o = some s := by
  cases o <;> simp

theorem finish_iff_format {ms : List (String × Json)} {d : Draft} {r : Record} (added : addAll ms = .ok d) :
    d.finish = .ok r ↔ Format ms r := by
  obtain ⟨held, gathered⟩ := held_of_addAll added
  have text (slot : Slot) {o : Option String} {s : String} (here : d.held slot = o.toList.map .string) :
      o = some s ↔ given slot.name ms = [.string s] := by
    rw [← held, here, string_iff]
  have optional (slot : Slot) {o : Option (Option String)} {s : Option String}
      (here : d.held slot = o.toList.map optionalValue) : o.getD none = s ↔ OptionalText (given slot.name ms) s := by
    rw [← held, here, optionalText_iff]
  rw [Draft.finish_eq_ok, text .title rfl, text .content rfl, text .url rfl,
    optional .taskId rfl, optional .titleZh rfl, optional .contentZh rfl]
  constructor
  · rintro ⟨title, content, url, taskId, titleZh, contentZh, extra⟩
    exact ⟨title, content, url, taskId, titleZh, contentZh, extra ▸ gathered⟩
  · rintro ⟨title, content, url, taskId, titleZh, contentZh, extra⟩
    exact ⟨title, content, url, taskId, titleZh, contentZh, gathered.unique extra⟩

theorem Format.hasFixedFields {ms : List (String × Json)} {r : Record} (format : Format ms r) : HasFixedFields ms := by
  have optional {vs : List Json} {s : Option String} (text : OptionalText vs s) :
      vs = [] ∨ vs = [.null] ∨ ∃ s, vs = [.string s] := by
    cases text with
    | missing => exact .inl rfl
    | null => exact .inr (.inl rfl)
    | text s => exact .inr (.inr ⟨s, rfl⟩)
  refine ⟨?_, ?_⟩
  · simp only [List.forall_mem_cons, List.not_mem_nil, false_implies, implies_true, and_true]
    exact ⟨⟨_, format.title⟩, ⟨_, format.content⟩, ⟨_, format.url⟩⟩
  · simp only [List.forall_mem_cons, List.not_mem_nil, false_implies, implies_true, and_true]
    exact ⟨optional format.taskId, optional format.titleZh, optional format.contentZh⟩

theorem HasFixedFields.fits {ms : List (String × Json)} (fields : HasFixedFields ms) (slot : Slot) :
    given slot.name ms = [] ∨ ∃ v, given slot.name ms = [v] ∧ slot.Fits v := by
  have required {vs : List Json} (text : ∃ s, vs = [.string s]) : vs = [] ∨ ∃ v, vs = [v] ∧ slot.Fits v := by
    obtain ⟨s, rfl⟩ := text
    exact .inr ⟨_, rfl, .inl ⟨s, rfl⟩⟩
  have optional {vs : List Json} (fixed : slot.isOptional = true)
      (text : vs = [] ∨ vs = [.null] ∨ ∃ s, vs = [.string s]) : vs = [] ∨ ∃ v, vs = [v] ∧ slot.Fits v := by
    rcases text with rfl | rfl | text
    · exact .inl rfl
    · exact .inr ⟨_, rfl, .inr ⟨fixed, rfl⟩⟩
    · exact required text
  cases slot with
  | title => exact required (fields.required "title" (by decide))
  | content => exact required (fields.required "content" (by decide))
  | url => exact required (fields.required "url" (by decide))
  | taskId => exact optional rfl (fields.optional "task_id" (by decide))
  | titleZh => exact optional rfl (fields.optional "title_zh" (by decide))
  | contentZh => exact optional rfl (fields.optional "content_zh" (by decide))

/-- The members of an object are taken for a record if and only if they have the format of that record. -/
theorem ofMembers_eq_ok {ms : List (String × Json)} {r : Record} : ofMembers ms = .ok r ↔ Format ms r := by
  rw [ofMembers, ← addAll, bind_eq_ok]
  constructor
  · rintro ⟨d, added, finished⟩
    exact (finish_iff_format added).1 finished
  · intro format
    obtain ⟨d, added⟩ := exists_addAll format.hasFixedFields.fits
    exact ⟨d, added, (finish_iff_format added).2 format⟩

theorem content_of_add {d d' : Draft} {name : String} {v : Doc} {room : Nat}
    (added : d.add name (v.reading room) = .ok d') : ∃ value, v.content room = .ok value := by
  by_cases fixed : name ∈ fixedNames
  · obtain ⟨slot, rfl⟩ := Slot.mem_fixedNames.1 fixed
    cases slot with
    | title | content | url =>
      obtain ⟨_, s, text, _⟩ := Draft.once_eq_ok.1 added
      exact ⟨_, Doc.content_of_text text room⟩
    | taskId | titleZh | contentZh =>
      obtain ⟨_, s, text, _⟩ := Draft.once_eq_ok.1 added
      exact Doc.exists_content_of_optional text room
  · rw [add_extra fixed] at added
    obtain ⟨value, read, _⟩ := map_eq_ok.1 added
    obtain ⟨content, inside, _⟩ := map_eq_ok.1 read
    exact ⟨content, inside⟩

theorem content_of_readMembers {room : Nat} {close : Close} : ∀ (ds : List (Scan String × Doc)) {d d' : Draft},
    readMembers room d ds close = .ok d' → ∃ ms, Doc.contentMembers room ds close = .ok ms
  | [], d, d', read => by
    obtain ⟨unflawed, _⟩ := orDone_eq_ok.1 read
    exact ⟨[], orDone_eq_ok.2 ⟨unflawed, rfl⟩⟩
  | (key, v) :: ds, d, d', read => by
    obtain ⟨name, named, read⟩ := bind_eq_ok.1 read
    obtain ⟨next, added, read⟩ := bind_eq_ok.1 read
    obtain ⟨value, here⟩ := content_of_add added
    obtain ⟨ms, later⟩ := content_of_readMembers ds read
    exact ⟨(name, value) :: ms, bind_eq_ok.2 ⟨name, named, bind_eq_ok.2 ⟨value, here, bind_eq_ok.2 ⟨ms, later, rfl⟩⟩⟩⟩

/-- A document is read as a record just as its value is, which has to be an object. -/
theorem ofDoc_eq_ok {room : Nat} {d : Doc} {r : Record} :
    ofDoc room d = .ok r ↔ ∃ ms, d.content room = .ok (.object ms) ∧ ofMembers ms = .ok r := by
  constructor
  · intro read
    unfold ofDoc at read
    split at read
    · rename_i ds close
      split at read
      · cases read
      · rename_i space
        obtain ⟨d, members, finished⟩ := bind_eq_ok.1 read
        obtain ⟨ms, content⟩ := content_of_readMembers ds members
        refine ⟨ms, ?_, ?_⟩
        · rw [Doc.content, if_neg space, content]
          rfl
        · rw [readMembers_of_content ds {} content] at members
          exact bind_eq_ok.2 ⟨d, members, finished⟩
    · exact absurd read (Doc.mismatch_ne_ok _ _ _)
  · rintro ⟨ms, content, members⟩
    cases Doc.reads_of_content content with
    | object space inside =>
      rw [ofDoc, if_neg space, readMembers_of_content _ {} inside]
      exact members

theorem ofDoc_of_other {room : Nat} {d : Doc} {v : Json} (content : d.content room = .ok v)
    (other : ∀ ms, v ≠ .object ms) : ofDoc room d = .error (.wrongType v.kind "struct Record") := by
  have reads := Doc.reads_of_content content
  have mismatch : d.mismatch "struct Record" = (.error (.wrongType v.kind "struct Record") : Except Error Record) := by
    rw [Doc.mismatch, reads.kind]
  cases reads with
  | object _ _ => exact absurd rfl (other _)
  | _ => exact mismatch

/-- Whatever the other members are, an object with the fixed fields of a record is one. -/
theorem exists_ofMembers_iff {ms : List (String × Json)} : (∃ r, ofMembers ms = .ok r) ↔ HasFixedFields ms := by
  constructor
  · rintro ⟨r, read⟩
    exact (ofMembers_eq_ok.1 read).hasFixedFields
  · intro fields
    obtain ⟨d, added⟩ := exists_addAll fields.fits
    have held := (held_of_addAll added).1
    obtain ⟨title, one_title⟩ := fields.required "title" (by decide)
    obtain ⟨content, one_content⟩ := fields.required "content" (by decide)
    obtain ⟨url, one_url⟩ := fields.required "url" (by decide)
    let r : Record := ⟨title, content, url, d.taskId.getD none, d.titleZh.getD none, d.contentZh.getD none, d.extra⟩
    have finished : d.finish = .ok r := Draft.finish_eq_ok.2
      ⟨string_iff.1 ((held .title).trans one_title), string_iff.1 ((held .content).trans one_content),
        string_iff.1 ((held .url).trans one_url), rfl, rfl, rfl, rfl⟩
    exact ⟨r, bind_eq_ok.2 ⟨d, added, finished⟩⟩

/-- An object is decoded if and only if its fixed fields are given as those of a record, and then into the record whose
format it has, so that where no value repeats a key within, an extra field holds the last value given for it. A text is
decoded just as the object that it spells, and one that spells another value is turned away for what that value is. -/
theorem decoded_iff_format :
    (∀ ms, (∃ r, ofMembers ms = .ok r) ↔ HasFixedFields ms) ∧ (∀ ms r, ofMembers ms = .ok r ↔ Format ms r) ∧
    (∀ ms r, ofMembers ms = .ok r → membersMerged ms = true →
      ∀ name ∉ fixedNames, get? name r.extra = (given name ms).getLast?) ∧
    (∀ ms, (object ms).merged = object (mergedMembers [] ms) ∧ Gathered [] ms (mergedMembers [] ms)) ∧
    (∀ text r, parse text = .ok r ↔ ∃ ms, decode Doc.content text = .ok (object ms) ∧ Format ms r) ∧
    ∀ text v, decode Doc.content text = .ok v → (∀ ms, v ≠ object ms) →
      parse text = .error (.wrongType v.kind "struct Record") := by
  refine ⟨fun ms => exists_ofMembers_iff, fun ms r => ofMembers_eq_ok, ?_, ?_, ?_, ?_⟩
  · intro ms r read whole name extra
    rw [(ofMembers_eq_ok.1 read).extra.values, if_neg extra]
    cases last : (given name ms).getLast? with
    | none => rfl
    | some v =>
      obtain ⟨m, member, rfl⟩ := List.mem_map.1 (List.mem_of_getLast? last)
      rw [Option.map_some, merged_of_isMerged (membersMerged_iff.1 whole m (List.mem_of_mem_filter member))]
  · exact fun ms => ⟨rfl, gathered_mergedMembers ms⟩
  · intro text r
    simp only [parse, decode_eq_ok, ofDoc_eq_ok, ofMembers_eq_ok]
    constructor
    · rintro ⟨⟨ms, content, format⟩, ended⟩
      exact ⟨ms, ⟨content, ended⟩, format⟩
    · rintro ⟨ms, ⟨content, ended⟩, format⟩
      exact ⟨⟨ms, content, format⟩, ended⟩
  · intro text v read other
    obtain ⟨content, ended⟩ := decode_eq_ok.1 read
    rw [parse, decode, Document.read, ofDoc_of_other content other]
    rfl

/-- A tag that was given twice stays at its first place, a null is a missing text, and a second title is refused. -/
theorem decoded_iff_format_twice_tagged :
    let ms : List (String × Json) := [("tag", .bool false), ("url", .string "u"), ("title_zh", .null), ("n", .null),
      ("tag", .string "new"), ("content", .string ""), ("title", .string "t")]
    let r : Record := ⟨"t", "", "u", none, none, none, [("tag", .string "new"), ("n", .null)]⟩
    Format ms r ∧ get? "tag" r.extra = some (.string "new") ∧ (∀ r, ofMembers (("title", .string "t") :: ms) ≠ .ok r) ∧
      parse "[]" = .error (.wrongType .sequence "struct Record") := by
  intro ms r
  have read : ofMembers ms = .ok r := rfl
  refine ⟨(decoded_iff_format.2.1 ms r).1 read, ?_, ?_, ?_⟩
  · rw [decoded_iff_format.2.2.1 ms r read (by decide) "tag" (by decide)]
    rfl
  · intro again twice
    obtain ⟨title, single⟩ := ((decoded_iff_format.1 _).1 ⟨again, twice⟩).required "title" (by decide)
    simp [given, ms] at single
  · exact decoded_iff_format.2.2.2.2.2 "[]" (.array []) (by rfl) (by simp)

end Record

end Harvest
