import Harvest.Json.Decode
import Harvest.Proofs.Json.Documents

/-!
Structures that are read from objects. What is read does not depend on the order of an object's members or on members
with names that are not known, and a member that is left out keeps what was there before.
-/

namespace Harvest.Json

mutual
theorem skim_toDoc : ∀ v : Json, (toDoc v).skim = .ok ()
  | null | bool _ | number _ | string _ => rfl
  | array vs => skimItems_itemDocs vs
  | object ms => skimMembers_memberDocs ms

theorem skimItems_itemDocs : ∀ vs : List Json, Doc.skimItems (itemDocs vs) .closed = .ok ()
  | [] => rfl
  | v :: vs => by
    rw [itemDocs, Doc.skimItems, skim_toDoc v]
    exact skimItems_itemDocs vs

theorem skimMembers_memberDocs : ∀ ms : List (String × Json), Doc.skimMembers (memberDocs ms) .closed = .ok ()
  | [] => rfl
  | (k, v) :: ms => by
    rw [memberDocs, Doc.skimMembers, skim_toDoc v]
    exact skimMembers_memberDocs ms
end

/-- The document of an object with these members. -/
def Doc.ofMembers (ms : List (String × Doc)) : Doc := .object (ms.map fun m => (.plain m.1, m.2)) .closed

/-- The members of an object, with their documents. -/
def namedDocs : Json → List (String × Doc)
  | object ms => ms.map fun m => (m.1, toDoc m.2)
  | _ => []

theorem ofMembers_namedDocs (ms : List (String × Json)) :
    Doc.ofMembers (namedDocs (object ms)) = toDoc (object ms) := by
  have each : ∀ ms : List (String × Json), ms.map (fun m => (Scan.plain m.1, toDoc m.2)) = memberDocs ms := by
    intro ms
    induction ms with
    | nil => rfl
    | cons m ms ih => rw [List.map_cons, ih, memberDocs]
  rw [Doc.ofMembers, namedDocs, List.map_map, toDoc, ← each ms]
  rfl

/-- Members of which some are left out, and among which others with unknown names are put in, in any order. -/
def IsEdit (known : List String) (ms ms' : List (String × Doc)) : Prop :=
  ∃ kept added, kept.Sublist ms ∧ (∀ m ∈ added, m.1 ∉ known ∧ m.2.skim = .ok ()) ∧ ms'.Perm (kept ++ added)

theorem IsEdit.refl (known : List String) (ms : List (String × Doc)) : IsEdit known ms ms :=
  ⟨ms, [], List.Sublist.refl ms, by simp, by simp⟩

namespace Member

variable {σ : Type}

def names (fields : List (Member σ)) : List String := fields.map Member.name

/-- Whether the members `docs` are read one by one, in any order, as what `keep` has for their names. -/
structure Restores (fields : List (Member σ)) (room : Nat) (docs : List (String × Doc)) (keep : List String → σ) :
    Prop where
  reads : ∀ m ∈ docs, ∃ field, fields.find? (·.name = m.1) = some field ∧
    ∀ seen, field.read room m.2 (keep seen) = .ok (keep (m.1 :: seen))
  depends : ∀ seen seen', (∀ name ∈ names fields, name ∈ seen ↔ name ∈ seen') → keep seen = keep seen'
  distinct : (docs.map Prod.fst).Nodup

/-- Whether an object's members are known ones that come once, or may be passed over. -/
structure Admitted (fields : List (Member σ)) (docs ms : List (String × Doc)) : Prop where
  known : ∀ m ∈ ms, m.1 ∈ names fields → m ∈ docs
  unknown : ∀ m ∈ ms, m.1 ∉ names fields → m.2.skim = .ok ()
  once : ((ms.map Prod.fst).filter (· ∈ names fields)).Nodup

variable {fields : List (Member σ)} {room : Nat} {docs ms : List (String × Doc)} {keep : List String → σ}

theorem find?_eq_none {name : String} : fields.find? (·.name = name) = none ↔ name ∉ names fields := by
  simp [List.find?_eq_none, names]

theorem Admitted.tail {m : String × Doc} (admitted : Admitted fields docs (m :: ms)) : Admitted fields docs ms := by
  refine ⟨fun n member => admitted.known n (List.mem_cons_of_mem _ member),
    fun n member => admitted.unknown n (List.mem_cons_of_mem _ member), ?_⟩
  have once := admitted.once
  rw [List.map_cons, List.filter_cons] at once
  split at once
  · exact (List.nodup_cons.1 once).2
  · exact once

theorem Admitted.not_mem_tail {m : String × Doc} (admitted : Admitted fields docs (m :: ms))
    (known : m.1 ∈ names fields) : m.1 ∉ ms.map Prod.fst := by
  have once := admitted.once
  rw [List.map_cons, List.filter_cons_of_pos (by simpa using known), List.nodup_cons, List.mem_filter] at once
  exact fun member => once.1 ⟨member, by simpa using known⟩

theorem admitted_of_isEdit (restores : Restores fields room docs keep) (edit : IsEdit (names fields) docs ms) :
    Admitted fields docs ms := by
  obtain ⟨kept, added, sublist, unknown, perm⟩ := edit
  have named : ∀ m ∈ docs, m.1 ∈ names fields := by
    intro m member
    obtain ⟨field, found, _⟩ := restores.reads m member
    by_contra missing
    rw [find?_eq_none.2 missing] at found
    cases found
  have cases_of_mem : ∀ m ∈ ms, m ∈ docs ∨ m ∈ added := fun m member =>
    (List.mem_append.1 (perm.mem_iff.1 member)).imp_left (sublist.subset ·)
  refine ⟨?_, ?_, ?_⟩
  · intro m member known
    exact (cases_of_mem m member).resolve_right fun other => (unknown m other).1 known
  · intro m member missing
    have other := (cases_of_mem m member).resolve_left fun known => missing (named m known)
    exact (unknown m other).2
  · have none_added : (added.map Prod.fst).filter (· ∈ names fields) = [] := by
      rw [List.filter_eq_nil_iff]
      intro name member
      obtain ⟨m, here, rfl⟩ := List.mem_map.1 member
      simpa using (unknown m here).1
    have names_perm := (perm.map Prod.fst).filter (· ∈ names fields)
    rw [List.map_append, List.filter_append, none_added, List.append_nil] at names_perm
    rw [names_perm.nodup_iff]
    exact (restores.distinct.sublist (sublist.map Prod.fst)).filter _

/-- Whether none of the known members that are left to read has been read before. -/
def Unread (fields : List (Member σ)) (seen : List String) (ms : List (String × Doc)) : Prop :=
  ∀ name ∈ names fields, name ∈ ms.map Prod.fst → name ∉ seen

theorem Unread.tail {seen : List String} {m : String × Doc} (new : Unread fields seen (m :: ms)) :
    Unread fields seen ms :=
  fun other fixed member => new other fixed (List.mem_cons_of_mem _ member)

theorem Unread.next {seen : List String} {m : String × Doc} (new : Unread fields seen (m :: ms))
    (admitted : Admitted fields docs (m :: ms)) (known : m.1 ∈ names fields) : Unread fields (m.1 :: seen) ms := by
  intro other fixed member
  rw [List.mem_cons, not_or]
  exact ⟨fun same => admitted.not_mem_tail known (same ▸ member), new.tail other fixed member⟩

section Steps

variable {key : Scan String} {name : String} {d : Doc} {ds : List (Scan String × Doc)} {close : Close}
  {seen : List String} {s next : σ} {field : Member σ}

theorem readMembers_known (named : key.value = .ok name) (found : fields.find? (·.name = name) = some field)
    (unseen : name ∉ seen) (read : field.read room d s = .ok next) :
    readMembers fields room seen s ((key, d) :: ds) close = readMembers fields room (name :: seen) next ds close := by
  simp only [readMembers, named, orFlaw, bind, Except.bind, found, if_neg unseen, read]

theorem readMembers_unknown (named : key.value = .ok name) (unknown : name ∉ names fields)
    (skimmed : d.skim = .ok ()) :
    readMembers fields room seen s ((key, d) :: ds) close = readMembers fields room seen s ds close := by
  simp only [readMembers, named, orFlaw, bind, Except.bind, find?_eq_none.2 unknown, skimmed]

end Steps

theorem readMembers_of_admitted (restores : Restores fields room docs keep) :
    ∀ (ms : List (String × Doc)) (seen : List String), Admitted fields docs ms → Unread fields seen ms →
      readMembers fields room seen (keep seen) (ms.map fun m => (.plain m.1, m.2)) .closed =
        .ok (keep (ms.map Prod.fst ++ seen))
  | [], seen, _, _ => rfl
  | (name, d) :: ms, seen, admitted, new => by
    have later := readMembers_of_admitted restores ms
    rw [List.map_cons, List.map_cons, List.cons_append]
    by_cases known : name ∈ names fields
    · obtain ⟨field, found, reads⟩ := restores.reads (name, d) (admitted.known _ List.mem_cons_self known)
      have unseen := new name known List.mem_cons_self
      have same : keep (ms.map Prod.fst ++ name :: seen) = keep (name :: (ms.map Prod.fst ++ seen)) :=
        restores.depends _ _ fun other _ => List.perm_middle.mem_iff
      rw [readMembers_known rfl found unseen (reads seen), later _ admitted.tail (new.next admitted known), same]
    · have skimmed := admitted.unknown _ List.mem_cons_self known
      have same : keep (ms.map Prod.fst ++ seen) = keep (name :: (ms.map Prod.fst ++ seen)) :=
        restores.depends _ _ fun other fixed => by
          have apart : other ≠ name := fun same => known (same ▸ fixed)
          simp [apart]
      rw [readMembers_unknown rfl known skimmed, later seen admitted.tail new.tail, same]

/-- A structure is read from edited members as what its members that are left amount to. -/
theorem readStruct_of_isEdit (restores : Restores fields room docs keep) (edit : IsEdit (names fields) docs ms)
    (expected : String) :
    readStruct expected fields (room + 1) (keep []) (Doc.ofMembers ms) = .ok (keep (ms.map Prod.fst)) := by
  have read := readMembers_of_admitted restores ms [] (admitted_of_isEdit restores edit) fun _ _ _ => List.not_mem_nil
  rw [List.append_nil] at read
  exact read

end Member

end Harvest.Json
