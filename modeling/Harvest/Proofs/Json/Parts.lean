import Harvest.Proofs.Json.Members
import Harvest.Proofs.Results

/-!
Parts of structures. Where a structure is read from a document, a field of it comes from the part of the document that
is the field's, a member with its name or the item at its place, and from no other part; without one the field is as it
was before.
-/

namespace Harvest.Json

/-- The first value that members have for a name. -/
def memberNamed (name : String) (ms : List (Scan String × Doc)) : Option Doc :=
  (ms.find? fun m => m.1.value.toOption = some name).map Prod.snd

/-- What a document has for one of the fields of a structure with these names. -/
def Doc.part? (names : List String) (name : String) : Doc → Option Doc
  | object ms _ => memberNamed name ms
  | array ds _ => ds[names.idxOf name]?
  | _ => none

/-- The value that is read from a part, if it is there and can be read. -/
def readPart {α : Type} (read : Doc → Except Error α) (part : Option Doc) : Option α :=
  part.bind fun d => (read d).toOption

/-- What becomes of a value, if a part is there and if not. -/
def Comes {α : Type} (read : Doc → Except Error α) (before now : α) : Option Doc → Prop
  | none => now = before
  | some d => read d = .ok now

theorem Comes.eq {α : Type} {read : Doc → Except Error α} {before now : α} {part : Option Doc}
    (comes : Comes read before now part) : now = (readPart read part).getD before := by
  cases part with
  | none => exact comes
  | some d =>
    have done : read d = .ok now := comes
    rw [readPart, Option.bind_some, done]
    rfl

theorem memberNamed_cons {name k : String} {key : Scan String} (named : key.value = .ok k) (d : Doc)
    (ms : List (Scan String × Doc)) :
    memberNamed name ((key, d) :: ms) = if k = name then some d else memberNamed name ms := by
  rw [memberNamed, List.find?_cons, named]
  by_cases same : k = name
  · simp [same, Except.toOption]
  · simp [same, Except.toOption, memberNamed]

namespace Member

variable {σ α : Type} {fields : List (Member σ)} {name : String} {get : σ → α} {read : Nat → Doc → Except Error α}
  {room : Nat} {s s' : σ} {close : Close}

/-- Whether a member is put at `get` if it is called `name`, and leaves what is there alone if it is not. -/
structure Sets (name : String) (get : σ → α) (read : Nat → Doc → Except Error α) (m : Member σ) : Prop where
  own : m.name = name → ∀ {room d s s'}, m.read room d s = .ok s' → read room d = .ok (get s')
  other : m.name ≠ name → ∀ {room d s s'}, m.read room d s = .ok s' → get s' = get s

theorem sets_own {β : Type} {taking : Nat → Doc → Except Error β} {value : β → α} {set : β → σ → σ}
    (puts : ∀ b s, get (set b s) = value b) (reads : ∀ room d, read room d = (taking room d).map value) :
    Sets name get read ⟨name, fun room d s => (taking room d).map fun b => set b s⟩ where
  own _ room d s s' done := by
    obtain ⟨b, taken, rfl⟩ := map_eq_ok.1 done
    rw [reads, puts, taken, Except.map]
  other apart := absurd rfl apart

theorem sets_other {β : Type} {own : String} {taking : Nat → Doc → Except Error β} {set : β → σ → σ}
    (apart : own ≠ name) (keeps : ∀ b s, get (set b s) = get s) :
    Sets name get read ⟨own, fun room d s => (taking room d).map fun b => set b s⟩ where
  own same := absurd same apart
  other _ room d s s' done := by
    obtain ⟨b, _, rfl⟩ := map_eq_ok.1 done
    rw [keeps]

variable (sets : ∀ m ∈ fields, m.Sets name get read)

include sets

theorem get_of_readMembers_seen {ms : List (Scan String × Doc)} {seen : List String} (known : name ∈ seen)
    (done : readMembers fields room seen s ms close = .ok s') : get s' = get s := by
  induction ms generalizing s seen with
  | nil =>
    obtain ⟨_, rfl⟩ := orDone_eq_ok.1 done
    rfl
  | cons m ms ih =>
    obtain ⟨key, d⟩ := m
    obtain ⟨k, named, done⟩ := bind_eq_ok.1 done
    split at done
    · obtain ⟨_, _, done⟩ := bind_eq_ok.1 done
      exact ih known done
    · rename_i field found
      split at done
      · cases done
      · rename_i new
        obtain ⟨next, taken, done⟩ := bind_eq_ok.1 done
        have own : field.name = k := by simpa using List.find?_some found
        have other : field.name ≠ name := fun same => new (own ▸ same ▸ known)
        rw [ih (List.mem_cons_of_mem k known) done, (sets field (List.mem_of_find?_eq_some found)).other other taken]

theorem get_of_readMembers (known : name ∈ names fields) {ms : List (Scan String × Doc)} {seen : List String}
    (done : readMembers fields room seen s ms close = .ok s') :
    Comes (read room) (get s) (get s') (memberNamed name ms) := by
  induction ms generalizing s seen with
  | nil =>
    obtain ⟨_, rfl⟩ := orDone_eq_ok.1 done
    rfl
  | cons m ms ih =>
    obtain ⟨key, d⟩ := m
    obtain ⟨k, named, done⟩ := bind_eq_ok.1 done
    rw [memberNamed_cons (orFlaw_eq_ok.1 named)]
    split at done
    · rename_i unknown
      obtain ⟨_, _, done⟩ := bind_eq_ok.1 done
      have other : k ≠ name := fun same => find?_eq_none.1 unknown (same ▸ known)
      rw [if_neg other]
      exact ih done
    · rename_i field found
      split at done
      · cases done
      · obtain ⟨next, taken, done⟩ := bind_eq_ok.1 done
        have own : field.name = k := by simpa using List.find?_some found
        -- After its first member the name has been seen, and no later one is let in.
        have set := sets field (List.mem_of_find?_eq_some found)
        by_cases same : k = name
        · rw [if_pos same, get_of_readMembers_seen sets (same ▸ List.mem_cons_self) done]
          exact set.own (own.trans same) taken
        · rw [if_neg same, ← set.other (own ▸ same) taken]
          exact ih done

theorem get_of_readItems_other (other : name ∉ names fields) {ds : List Doc}
    (done : readItems room s fields ds close = .ok s') : get s' = get s := by
  induction fields generalizing s ds with
  | nil =>
    cases ds with
    | nil =>
      obtain ⟨_, rfl⟩ := orDone_eq_ok.1 done
      rfl
    | cons d ds => cases done
  | cons field fields ih =>
    cases ds with
    | nil =>
      obtain ⟨_, rfl⟩ := orDone_eq_ok.1 done
      rfl
    | cons d ds =>
      obtain ⟨next, taken, done⟩ := bind_eq_ok.1 done
      obtain ⟨here, later⟩ := List.forall_mem_cons.1 sets
      rw [names, List.map_cons, List.mem_cons, not_or] at other
      rw [ih later other.2 done, here.other (Ne.symm other.1) taken]

theorem get_of_readItems (known : name ∈ names fields) (distinct : (names fields).Nodup) {ds : List Doc}
    (done : readItems room s fields ds close = .ok s') :
    Comes (read room) (get s) (get s') ds[(names fields).idxOf name]? := by
  induction fields generalizing s ds with
  | nil => cases known
  | cons field fields ih =>
    obtain ⟨here, later⟩ := List.forall_mem_cons.1 sets
    obtain ⟨new, distinct⟩ := List.nodup_cons.1 distinct
    cases ds with
    | nil =>
      obtain ⟨_, rfl⟩ := orDone_eq_ok.1 done
      rfl
    | cons d ds =>
      obtain ⟨next, taken, done⟩ := bind_eq_ok.1 done
      rw [names, List.map_cons, List.idxOf_cons]
      by_cases same : field.name = name
      · rw [beq_iff_eq.2 same, cond_true, List.getElem?_cons_zero, get_of_readItems_other later (same ▸ new) done]
        exact here.own same taken
      · have apart : (field.name == name) = false := beq_eq_false_iff_ne.2 same
        rw [apart, cond_false, List.getElem?_cons_succ, ← here.other same taken]
        exact ih later ((List.mem_cons.1 known).resolve_left (Ne.symm same)) distinct done

/-- A field of a structure is what its part of the document says, and as before if it has none. -/
theorem get_of_readStruct (known : name ∈ names fields) (distinct : (names fields).Nodup) {expected : String} {d : Doc}
    (done : readStruct expected fields room s d = .ok s') :
    Comes (read (room - 1)) (get s) (get s') (d.part? (names fields) name) := by
  unfold readStruct at done
  split at done
  · split at done
    · cases done
    · exact get_of_readMembers sets known done
  · split at done
    · cases done
    · exact get_of_readItems sets known distinct done
  · exact absurd done (Doc.mismatch_ne_ok _ _ _)

end Member

end Harvest.Json
