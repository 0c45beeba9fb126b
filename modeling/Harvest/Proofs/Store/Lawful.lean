import Harvest.Store.Faults
import Harvest.Store.Memory

/-!
Laws of stores. Behind its states a store has contents, the stored records in the order in which they were
appended. A call that fails leaves them as they were.
-/

namespace Harvest

def Store.urls (rows : List StoredRecord) : List String := rows.map StoredRecord.url

namespace RecordStore

variable {σ : Type}

structure Lawful (store : RecordStore σ) (contents : σ → List StoredRecord) : Prop where
  append_ok : ∀ {r s}, (store.append r s).1 = .ok () → contents (store.append r s).2 = contents s ++ [r]
  append_error : ∀ {r s f}, (store.append r s).1 = .error f → contents (store.append r s).2 = contents s
  find_keeps : ∀ url s, contents (store.find url s).2 = contents s
  find_ok : ∀ {url s found}, (store.find url s).1 = .ok found → found = Store.Memory.findByUrl url (contents s)

/-- A store of which no append and no look-up fails in a sound state; its states stay sound. -/
structure Reliable (store : RecordStore σ) (sound : σ → Prop) : Prop where
  append_ok : ∀ r {s}, sound s → (store.append r s).1 = .ok ()
  append_sound : ∀ r {s}, sound s → sound (store.append r s).2
  find_ok : ∀ url {s}, sound s → ∃ found, (store.find url s).1 = .ok found
  find_sound : ∀ url {s}, sound s → sound (store.find url s).2

end RecordStore

namespace Store

@[simp] theorem urls_append (rows more : List StoredRecord) : urls (rows ++ more) = urls rows ++ urls more :=
  List.map_append

theorem findByUrl_isSome (rows : List StoredRecord) (url : String) :
    (Memory.findByUrl url rows).isSome ↔ url ∈ urls rows := by
  simp [Memory.findByUrl, urls, StoredRecord.url]

theorem Memory.lawful : store.Lawful id where
  append_ok _ := rfl
  append_error h := by cases h
  find_keeps _ _ := rfl
  find_ok h := by cases h; rfl

theorem Memory.reliable : store.Reliable fun _ => True where
  append_ok _ _ _ := rfl
  append_sound _ _ _ := True.intro
  find_ok url s _ := ⟨Memory.findByUrl url s, rfl⟩
  find_sound _ _ _ := True.intro

/-- Calls that are made to fail do not reach the store behind, so its laws stay. -/
theorem Faults.lawful {σ : Type} (faults : Faults) {inner : RecordStore σ}
    {contents : σ → List StoredRecord} (law : inner.Lawful contents) :
    (faults.store inner).Lawful fun s => contents s.inner where
  append_ok {r s} h := by
    simp only [Faults.store] at h ⊢
    split at h
    · cases h
    · rename_i passed
      simpa only [passed, ↓reduceIte] using law.append_ok h
  append_error {r s f} h := by
    simp only [Faults.store] at h ⊢
    split at h
    · rename_i stopped
      simp only [stopped, ↓reduceIte]
    · rename_i passed
      simpa only [passed, ↓reduceIte] using law.append_error h
  find_keeps url s := by
    simp only [Faults.store]
    split
    · rfl
    · exact law.find_keeps url s.inner
  find_ok {url s found} h := by
    simp only [Faults.store] at h
    split at h
    · cases h
    · exact law.find_ok h

theorem Faults.reliable {σ : Type} {inner : RecordStore σ} {sound : σ → Prop} (reliable : inner.Reliable sound) :
    (Faults.store ⟨[], []⟩ inner).Reliable fun s => sound s.inner where
  append_ok r _ holds := reliable.append_ok r holds
  append_sound r _ holds := reliable.append_sound r holds
  find_ok url _ holds := reliable.find_ok url holds
  find_sound url _ holds := reliable.find_sound url holds

end Store

end Harvest
