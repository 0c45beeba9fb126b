import Harvest.Proofs.Store.Lawful
import Mathlib.Data.List.Nodup

/-!
Extensions. A store that drops duplicates only ever adds records with new URLs, each of them once: the first record of
a URL stays the first one.
-/

namespace Harvest.Store

/-- After `rows`, `more` holds records with URLs of their own. -/
def Extends (rows more : List StoredRecord) : Prop :=
  ∃ added, more = rows ++ added ∧ (urls added).Nodup ∧ ∀ url ∈ urls added, url ∉ urls rows

namespace Extends

variable {rows more most : List StoredRecord} {url : String}

theorem trans (first : Extends rows more) (second : Extends more most) : Extends rows most := by
  obtain ⟨added, rfl, nodup, apart⟩ := first
  obtain ⟨added', rfl, nodup', apart'⟩ := second
  refine ⟨added ++ added', List.append_assoc rows added added', ?_, ?_⟩
  · rw [urls_append, List.nodup_append]
    refine ⟨nodup, nodup', ?_⟩
    rintro url member _ again rfl
    exact apart' url again (by rw [urls_append]; exact List.mem_append_right _ member)
  · intro url member
    rw [urls_append, List.mem_append] at member
    rcases member with member | again
    · exact apart url member
    · exact fun stored => apart' url again (by rw [urls_append]; exact List.mem_append_left _ stored)

theorem mem_urls (e : Extends rows more) (stored : url ∈ urls rows) : url ∈ urls more := by
  obtain ⟨added, rfl, _, _⟩ := e
  rw [urls_append]
  exact List.mem_append_left _ stored

theorem findByUrl (e : Extends rows more) (stored : url ∈ urls rows) :
    Memory.findByUrl url more = Memory.findByUrl url rows := by
  obtain ⟨added, rfl, _, _⟩ := e
  obtain ⟨row, found⟩ := Option.isSome_iff_exists.1 ((findByUrl_isSome rows url).2 stored)
  rw [found]
  rw [Memory.findByUrl] at found ⊢
  rw [List.find?_append, found, Option.some_or]

theorem count_eq_one (e : Extends rows more) (new : url ∉ urls rows) (stored : url ∈ urls more) :
    (urls more).count url = 1 := by
  obtain ⟨added, rfl, nodup, _⟩ := e
  rw [urls_append, List.mem_append] at stored
  rw [urls_append, List.count_append, List.count_eq_zero.2 new, Nat.zero_add]
  exact List.count_eq_one_of_mem nodup (stored.resolve_left new)

end Extends

end Harvest.Store
