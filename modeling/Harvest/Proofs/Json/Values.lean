import Harvest.Json.Decode
import Mathlib.Data.List.Nodup

/-!
What a value is made of, and what it takes to read it: its numbers, its depth, and whether its objects repeat no key. A
document of a value is read as that value where there is room for its depth; merging leaves it as it is if it repeats
no key.
-/

namespace Harvest

/-- Whole numbers as they are read: those that do not fit are read as floating-point numbers. -/
def Number.isProper : Number → Bool
  | integer n => fits n
  | float _ => true

def Number.isWhole : Number → Bool
  | integer _ => true
  | float _ => false

namespace Json

def keys (ms : List (String × Json)) : List String := ms.map Prod.fst

mutual
/-- The numbers of a value, those inside its arrays and objects included. -/
def numbers : Json → List Number
  | null | bool _ | string _ => []
  | number n => [n]
  | array vs => itemNumbers vs
  | object ms => memberNumbers ms

def itemNumbers : List Json → List Number
  | [] => []
  | v :: vs => numbers v ++ itemNumbers vs

def memberNumbers : List (String × Json) → List Number
  | [] => []
  | (_, v) :: ms => numbers v ++ memberNumbers ms
end

mutual
/-- The levels that arrays and objects nest. -/
def depth : Json → Nat
  | null | bool _ | number _ | string _ => 0
  | array vs => itemDepth vs + 1
  | object ms => memberDepth ms + 1

def itemDepth : List Json → Nat
  | [] => 0
  | v :: vs => max (depth v) (itemDepth vs)

def memberDepth : List (String × Json) → Nat
  | [] => 0
  | (_, v) :: ms => max (depth v) (memberDepth ms)
end

mutual
/-- Whether no object repeats a key. -/
def isMerged : Json → Bool
  | null | bool _ | number _ | string _ => true
  | array vs => itemsMerged vs
  | object ms => decide (keys ms).Nodup && membersMerged ms

def itemsMerged : List Json → Bool
  | [] => true
  | v :: vs => isMerged v && itemsMerged vs

def membersMerged : List (String × Json) → Bool
  | [] => true
  | (_, v) :: ms => isMerged v && membersMerged ms
end

theorem mem_itemNumbers {n : Number} {vs : List Json} : n ∈ itemNumbers vs ↔ ∃ v ∈ vs, n ∈ v.numbers := by
  induction vs with
  | nil => simp [itemNumbers]
  | cons v vs ih => simp [itemNumbers, ih]

theorem mem_memberNumbers {n : Number} {ms : List (String × Json)} :
    n ∈ memberNumbers ms ↔ ∃ m ∈ ms, n ∈ m.2.numbers := by
  induction ms with
  | nil => simp [memberNumbers]
  | cons m ms ih => simp [memberNumbers, ih]

theorem itemDepth_le {d : Nat} {vs : List Json} : itemDepth vs ≤ d ↔ ∀ v ∈ vs, v.depth ≤ d := by
  induction vs with
  | nil => simp [itemDepth]
  | cons v vs ih => rw [itemDepth, Nat.max_le, ih, List.forall_mem_cons]

theorem memberDepth_le {d : Nat} {ms : List (String × Json)} : memberDepth ms ≤ d ↔ ∀ m ∈ ms, m.2.depth ≤ d := by
  induction ms with
  | nil => simp [memberDepth]
  | cons m ms ih => rw [memberDepth, Nat.max_le, ih, List.forall_mem_cons]

theorem memberNumbers_append (ms more : List (String × Json)) :
    memberNumbers (ms ++ more) = memberNumbers ms ++ memberNumbers more := by
  induction ms with
  | nil => rfl
  | cons m ms ih => rw [List.cons_append, memberNumbers, memberNumbers, ih, List.append_assoc]

theorem memberDepth_append (ms more : List (String × Json)) :
    memberDepth (ms ++ more) = max (memberDepth ms) (memberDepth more) := by
  induction ms with
  | nil => exact (Nat.zero_max _).symm
  | cons m ms ih => rw [List.cons_append, memberDepth, memberDepth, ih, Nat.max_assoc]

theorem itemsMerged_iff {vs : List Json} : itemsMerged vs = true ↔ ∀ v ∈ vs, v.isMerged = true := by
  induction vs with
  | nil => simp [itemsMerged]
  | cons v vs ih => simp [itemsMerged, ih]

theorem membersMerged_iff {ms : List (String × Json)} : membersMerged ms = true ↔ ∀ m ∈ ms, m.2.isMerged = true := by
  induction ms with
  | nil => simp [membersMerged]
  | cons m ms ih => simp [membersMerged, ih]

theorem insert_of_not_mem {key : String} (value : Json) {ms : List (String × Json)} (new : key ∉ keys ms) :
    insert key value ms = ms ++ [(key, value)] := by
  induction ms with
  | nil => rfl
  | cons m ms ih =>
    rw [keys, List.map_cons, List.mem_cons, not_or] at new
    rw [insert, if_neg (Ne.symm new.1), ih new.2, List.cons_append]

theorem mem_insert {key : String} {value : Json} {m : String × Json} {ms : List (String × Json)}
    (member : m ∈ insert key value ms) : m = (key, value) ∨ m ∈ ms := by
  induction ms with
  | nil => exact .inl (List.mem_singleton.1 member)
  | cons first ms ih =>
    rw [insert] at member
    split at member
    · rcases List.mem_cons.1 member with rfl | later
      · exact .inl rfl
      · exact .inr (List.mem_cons_of_mem first later)
    · rcases List.mem_cons.1 member with rfl | later
      · exact .inr List.mem_cons_self
      · exact (ih later).imp_right (List.mem_cons_of_mem first)

theorem nodup_keys_insert {key : String} {value : Json} {ms : List (String × Json)} (distinct : (keys ms).Nodup) :
    (keys (insert key value ms)).Nodup := by
  rw [keys, keys_insert]
  split
  · exact distinct
  · rename_i new
    rw [List.nodup_append]
    refine ⟨distinct, List.nodup_singleton key, ?_⟩
    rintro k member _ single rfl
    exact new (List.mem_singleton.1 single ▸ member)

mutual
theorem merged_of_isMerged : ∀ {v : Json}, v.isMerged = true → v.merged = v
  | null, _ | bool _, _ | number _, _ | string _, _ => rfl
  | array vs, h => by rw [merged, mergedItems_of_itemsMerged h]
  | object ms, h => by
    obtain ⟨distinct, each⟩ := Bool.and_eq_true_iff.1 h
    have whole := mergedMembers_of_membersMerged [] each (of_decide_eq_true distinct)
    rw [merged, whole, List.nil_append]

theorem mergedItems_of_itemsMerged : ∀ {vs : List Json}, itemsMerged vs = true → mergedItems vs = vs
  | [], _ => rfl
  | v :: vs, h => by
    obtain ⟨first, rest⟩ := Bool.and_eq_true_iff.1 h
    rw [mergedItems, merged_of_isMerged first, mergedItems_of_itemsMerged rest]

theorem mergedMembers_of_membersMerged : ∀ {ms : List (String × Json)} (before : List (String × Json)),
    membersMerged ms = true → (keys (before ++ ms)).Nodup → mergedMembers before ms = before ++ ms
  | [], before, _, _ => (List.append_nil before).symm
  | (k, v) :: ms, before, h, distinct => by
    obtain ⟨first, rest⟩ := Bool.and_eq_true_iff.1 h
    have new : k ∉ keys before := by
      rw [keys, List.map_append, List.nodup_append] at distinct
      exact fun old => distinct.2.2 k old k List.mem_cons_self rfl
    have moved : before ++ (k, v) :: ms = (before ++ [(k, v)]) ++ ms := by
      rw [List.append_assoc, List.singleton_append]
    rw [moved] at distinct ⊢
    rw [mergedMembers, merged_of_isMerged first, insert_of_not_mem v new,
      mergedMembers_of_membersMerged _ rest distinct]
end

/-- What is read where arrays and objects may nest `room` levels. -/
structure Readable (room : Nat) (v : Json) : Prop where
  shallow : v.depth ≤ room
  proper : ∀ n ∈ v.numbers, n.isProper = true

theorem readable_array {room : Nat} {vs : List Json} :
    Readable room (array vs) ↔ 0 < room ∧ ∀ v ∈ vs, Readable (room - 1) v := by
  constructor
  · rintro ⟨shallow, proper⟩
    rw [depth] at shallow
    have each := itemDepth_le.1 (show itemDepth vs ≤ room - 1 by omega)
    refine ⟨by omega, fun v member => ⟨each v member, ?_⟩⟩
    exact fun n inside => proper n (mem_itemNumbers.2 ⟨v, member, inside⟩)
  · rintro ⟨space, each⟩
    have items : itemDepth vs ≤ room - 1 := itemDepth_le.2 fun v member => (each v member).shallow
    refine ⟨by rw [depth]; omega, ?_⟩
    intro n inside
    obtain ⟨v, member, inside⟩ := mem_itemNumbers.1 inside
    exact (each v member).proper n inside

theorem readable_object {room : Nat} {ms : List (String × Json)} :
    Readable room (object ms) ↔ 0 < room ∧ ∀ m ∈ ms, Readable (room - 1) m.2 := by
  constructor
  · rintro ⟨shallow, proper⟩
    rw [depth] at shallow
    have each := memberDepth_le.1 (show memberDepth ms ≤ room - 1 by omega)
    refine ⟨by omega, fun m member => ⟨each m member, ?_⟩⟩
    exact fun n inside => proper n (mem_memberNumbers.2 ⟨m, member, inside⟩)
  · rintro ⟨space, each⟩
    have members : memberDepth ms ≤ room - 1 := memberDepth_le.2 fun m member => (each m member).shallow
    refine ⟨by rw [depth]; omega, ?_⟩
    intro n inside
    obtain ⟨m, member, inside⟩ := mem_memberNumbers.1 inside
    exact (each m member).proper n inside

mutual
theorem Readable.merged : ∀ {v : Json} {room : Nat}, Readable room v →
    Readable room v.merged ∧ v.merged.isMerged = true
  | null, _, h | bool _, _, h | number _, _, h | string _, _, h => ⟨h, rfl⟩
  | array vs, room, h => by
    obtain ⟨space, each⟩ := readable_array.1 h
    have items := readable_mergedItems each
    rw [Json.merged]
    exact ⟨readable_array.2 ⟨space, fun v member => (items v member).1⟩,
      itemsMerged_iff.2 fun v member => (items v member).2⟩
  | object ms, room, h => by
    obtain ⟨space, each⟩ := readable_object.1 h
    obtain ⟨members, distinct⟩ := readable_mergedMembers (List.forall_mem_nil _) List.nodup_nil each
    rw [Json.merged]
    refine ⟨readable_object.2 ⟨space, fun m member => (members m member).1⟩, ?_⟩
    exact Bool.and_eq_true_iff.2 ⟨decide_eq_true distinct, membersMerged_iff.2 fun m member => (members m member).2⟩

theorem readable_mergedItems : ∀ {vs : List Json} {room : Nat}, (∀ v ∈ vs, Readable room v) →
    ∀ v ∈ mergedItems vs, Readable room v ∧ v.isMerged = true
  | [], _, _ => by simp [mergedItems]
  | v :: vs, room, h => by
    rw [List.forall_mem_cons] at h
    rw [mergedItems, List.forall_mem_cons]
    exact ⟨h.1.merged, readable_mergedItems h.2⟩

theorem readable_mergedMembers : ∀ {ms before : List (String × Json)} {room : Nat},
    (∀ m ∈ before, Readable room m.2 ∧ m.2.isMerged = true) → (keys before).Nodup →
    (∀ m ∈ ms, Readable room m.2) →
    (∀ m ∈ mergedMembers before ms, Readable room m.2 ∧ m.2.isMerged = true) ∧
      (keys (mergedMembers before ms)).Nodup
  | [], _, _, old, distinct, _ => ⟨old, distinct⟩
  | (k, v) :: ms, before, room, old, distinct, h => by
    rw [List.forall_mem_cons] at h
    rw [mergedMembers]
    refine readable_mergedMembers ?_ (nodup_keys_insert distinct) h.2
    intro m member
    rcases mem_insert member with rfl | earlier
    · exact h.1.merged
    · exact old m earlier
end

end Json

end Harvest
