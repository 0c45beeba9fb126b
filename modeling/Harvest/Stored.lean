import Harvest.Record.Decode

/-!
Stored records: a record with the identifier of its row and the time of its insertion.
-/

namespace Harvest

structure StoredRecord where
  id : String
  record : Record
  createdAt : String
deriving Inhabited, Repr

namespace StoredRecord

open Json

def url (s : StoredRecord) : String := s.record.url

/-- The fields in the order in which they are written, those of the record in the middle. -/
def members (s : StoredRecord) : List (String × Json) :=
  ("_id", .string s.id) :: (s.record.members ++ [("created_at", .string s.createdAt)])

def toJson (s : StoredRecord) : Json := .object s.members

/-- A stored record in the making: the two texts of its own and the other members as they come. -/
structure Draft where
  id : Option String := none
  createdAt : Option String := none
  rest : List (String × Json) := []

def Draft.add (d : Draft) (name : String) (room : Nat) (v : Doc) : Except Error Draft :=
  if name = "_id" then
    if d.id.isSome then .error (.duplicateField name)
    else (v.text "a string").map fun s => { d with id := some s }
  else if name = "created_at" then
    if d.createdAt.isSome then .error (.duplicateField name)
    else (v.text "a string").map fun s => { d with createdAt := some s }
  else (v.content room).map fun value => { d with rest := d.rest ++ [(name, value)] }

/-- The finished stored record; the record's own fields are looked at only now. -/
def Draft.finish (d : Draft) : Except Error StoredRecord := do
  let id ← Record.Draft.required "_id" d.id
  let createdAt ← Record.Draft.required "created_at" d.createdAt
  pure ⟨id, ← Record.ofMembers d.rest, createdAt⟩

/-- Takes in the members of an object as they are read. -/
def readMembers (room : Nat) (d : Draft) : List (Scan String × Doc) → Close → Except Error Draft
  | [], close => orDone d close.objectFlaw?
  | (key, v) :: ms, close => do
    let name ← orFlaw key.value
    let d ← d.add name room v
    readMembers room d ms close

def ofDoc (room : Nat) : Doc → Except Error StoredRecord
  | .object ms close =>
    if room = 0 then failFlaw .tooDeep else do (← readMembers (room - 1) {} ms close).finish
  | d => d.mismatch "struct StoredRecord"

def parse (text : String) : Except Error StoredRecord := decode ofDoc text

end StoredRecord

end Harvest
