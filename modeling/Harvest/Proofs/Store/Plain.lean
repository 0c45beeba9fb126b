import Harvest.Proofs.Store.Lawful

/-!
Records without their translations. Stores that are indifferent to translations answer alike as long as they hold the
same records but for these.
-/

namespace Harvest

/-- The record without the fields that translations go to. -/
def Record.plain (r : Record) : Record := { r with titleZh := none, contentZh := none }

def StoredRecord.plain (s : StoredRecord) : StoredRecord := { s with record := s.record.plain }

theorem Record.url_eq_of_plain {r x : Record} (same : r.plain = x.plain) : r.url = x.url := by
  have urls : r.plain.url = x.plain.url := congrArg Record.url same
  exact urls

namespace RecordStore

variable {σ : Type}

/-- States that are `same` keep being so and answer alike, where the rows that are appended differ in their translations
at most. -/
structure Indifferent (store : RecordStore σ) (same : σ → σ → Prop) : Prop where
  append : ∀ {row row' s t}, row.plain = row'.plain → same s t →
    (store.append row s).1 = (store.append row' t).1 ∧ same (store.append row s).2 (store.append row' t).2
  find : ∀ url {s t}, same s t →
    (store.find url s).1.map (Option.map StoredRecord.plain) =
      (store.find url t).1.map (Option.map StoredRecord.plain) ∧
    same (store.find url s).2 (store.find url t).2

end RecordStore

namespace Store

variable {σ : Type} {store : RecordStore σ} {contents : σ → List StoredRecord} {sound : σ → Prop}

theorem findByUrl_plain (url : String) (rows : List StoredRecord) :
    (Memory.findByUrl url rows).map StoredRecord.plain = Memory.findByUrl url (rows.map StoredRecord.plain) := by
  rw [Memory.findByUrl, Memory.findByUrl, List.find?_map]
  rfl

structure SamePlain (contents : σ → List StoredRecord) (sound : σ → Prop) (s t : σ) : Prop where
  left : sound s
  right : sound t
  rows : (contents s).map StoredRecord.plain = (contents t).map StoredRecord.plain

theorem indifferent_of_reliable (law : store.Lawful contents) (reliable : store.Reliable sound) :
    store.Indifferent (SamePlain contents sound) where
  append {row row' s t} alike same := by
    obtain ⟨left, right, rows⟩ := same
    have first := reliable.append_ok row left
    have second := reliable.append_ok row' right
    refine ⟨first.trans second.symm, reliable.append_sound row left, reliable.append_sound row' right, ?_⟩
    rw [law.append_ok first, law.append_ok second, List.map_append, List.map_append, rows]
    simp only [List.map_singleton, alike]
  find url s t same := by
    obtain ⟨left, right, rows⟩ := same
    obtain ⟨found, first⟩ := reliable.find_ok url left
    obtain ⟨found', second⟩ := reliable.find_ok url right
    refine ⟨?_, reliable.find_sound url left, reliable.find_sound url right, ?_⟩
    · rw [first, second, law.find_ok first, law.find_ok second, Except.map, Except.map, findByUrl_plain,
        findByUrl_plain, rows]
    · rw [law.find_keeps, law.find_keeps, rows]

/-- States in which as many calls were made to fail or let through, before states that are `same`. -/
structure Faulty.Same (same : σ → σ → Prop) (s t : Faulty σ) : Prop where
  appends : s.appends = t.appends
  finds : s.finds = t.finds
  inner : same s.inner t.inner

/-- Which calls fail depends on their number, not on what they ask. -/
theorem Faults.indifferent (faults : Faults) {same : σ → σ → Prop} (inner : store.Indifferent same) :
    (faults.store store).Indifferent (Faulty.Same same) where
  append {row row' s t} alike both := by
    obtain ⟨appends, finds, states⟩ := both
    obtain ⟨answer, states'⟩ := inner.append alike states
    simp only [Faults.store, appends]
    split
    · exact ⟨rfl, rfl, finds, states⟩
    · exact ⟨answer, rfl, finds, states'⟩
  find url s t both := by
    obtain ⟨appends, finds, states⟩ := both
    obtain ⟨answer, states'⟩ := inner.find url states
    simp only [Faults.store, finds]
    split
    · exact ⟨rfl, appends, rfl, states⟩
    · exact ⟨answer, appends, rfl, states'⟩

end Store

end Harvest
