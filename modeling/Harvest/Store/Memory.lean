import Harvest.Store.Basic

/-!
The store that is a list of records, in the order in which they were appended. It never fails.
-/

namespace Harvest.Store

abbrev Memory := List StoredRecord

namespace Memory

/-- The first record with this URL. -/
def findByUrl (url : String) (m : Memory) : Option StoredRecord := m.find? fun s => s.record.url = url

def store : RecordStore Memory where
  append s m := (.ok (), m ++ [s])
  find url m := (.ok (m.findByUrl url), m)
  count m := (.ok m.length, m)
  notes _ := []
  yields := false

end Memory

end Harvest.Store
