import Harvest.Store.Basic
import Harvest.Store.Database

/-!
The store that is one collection of a database. A call that is cut off in the middle leaves the connection
unusable.
-/

namespace Harvest.Store

/-- A connection to a database, for one of its collections. -/
structure Collection where
  database : Database
  name : String
  broken : Bool := false
  readOnly : Bool := false
deriving DecidableEq, Repr

namespace Collection

def brokenFailure : Failure :=
  ⟨"Failed to acquire database lock: poisoned lock: another task failed inside", []⟩

/-- A call, unless the connection is broken. -/
def call {α : Type} (f : Database → Except Failure α × Database) (c : Collection) :
    Except Failure α × Collection :=
  if c.broken then (.error brokenFailure, c)
  else
    let (answer, database) := f c.database
    (answer, { c with database := database })

/-- A call that is cut off. -/
def cutOff (c : Collection) : Failure × Collection :=
  if c.broken then (brokenFailure, c) else (⟨"Database task panicked", []⟩, { c with broken := true })

def insert (s : StoredRecord) (c : Collection) : Except Failure Unit × Collection :=
  c.call fun db => if c.readOnly then (.error engineFailure, db) else db.insert c.name (.ofStored s)

def find (url : String) (c : Collection) : Except Failure (Option StoredRecord) × Collection :=
  c.call fun db => (db.find c.name url, db)

def count (c : Collection) : Except Failure Nat × Collection :=
  c.call fun db => (db.count c.name, db)

def store : RecordStore Collection where
  append := insert
  find := find
  count := count
  notes s := [Log.debug s!"Saved record {s.id} ({s.record.url})"]
  yields := true

def create (name : String) : Except Failure Collection × List Log.Entry :=
  match ({} : Database).setUp name with
  | (.ok (), database, notes) => (.ok { database := database, name := name }, notes)
  | (.error f, _, notes) => (.error f, notes)

end Collection

end Harvest.Store
