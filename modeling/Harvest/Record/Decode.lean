import Harvest.Json.Reading
import Harvest.Record

/-!
Records from JSON. The three texts are required, each fixed field may be given once, and null stands for
an optional text that is absent; all other members become extra fields.
-/

namespace Harvest.Record

open Json

inductive Slot
  | title | content | url | taskId | titleZh | contentZh
deriving DecidableEq

def Slot.all : List (String × Slot) :=
  [("title", .title), ("content", .content), ("url", .url), ("task_id", .taskId),
    ("title_zh", .titleZh), ("content_zh", .contentZh)]

/-- A record in the making. An optional text that was given as null is known to be absent. -/
structure Draft where
  title : Option String := none
  content : Option String := none
  url : Option String := none
  taskId : Option (Option String) := none
  titleZh : Option (Option String) := none
  contentZh : Option (Option String) := none
  extra : List (String × Json) := []

namespace Draft

/-- Sets a field that must not be set yet. -/
def once {α : Type} (name : String) (now : Option α) (read : Except Error α)
    (set : α → Draft) : Except Error Draft :=
  match now with
  | some _ => .error (.duplicateField name)
  | none => read.map set

/-- Takes in one member. -/
def add (d : Draft) (name : String) (v : Reading) : Except Error Draft :=
  match Slot.all.lookup name with
  | some .title => once name d.title v.text fun s => { d with title := some s }
  | some .content => once name d.content v.text fun s => { d with content := some s }
  | some .url => once name d.url v.text fun s => { d with url := some s }
  | some .taskId => once name d.taskId v.optionalText fun s => { d with taskId := some s }
  | some .titleZh => once name d.titleZh v.optionalText fun s => { d with titleZh := some s }
  | some .contentZh => once name d.contentZh v.optionalText fun s => { d with contentZh := some s }
  | none => v.value.map fun value => { d with extra := insert name value d.extra }

def required {α : Type} (name : String) : Option α → Except Error α
  | some a => .ok a
  | none => .error (.missingField name)

def finish (d : Draft) : Except Error Record := do
  let title ← required "title" d.title
  let content ← required "content" d.content
  let url ← required "url" d.url
  pure ⟨title, content, url, d.taskId.getD none, d.titleZh.getD none, d.contentZh.getD none, d.extra⟩

end Draft

/-- A record from the members of an object that has been read before. -/
def ofMembers (ms : List (String × Json)) : Except Error Record := do
  let d ← ms.foldlM (fun (d : Draft) m => d.add m.1 m.2.reading) {}
  d.finish

/-- Takes in the members of an object as they are read. -/
def readMembers (room : Nat) (d : Draft) : List (Scan String × Doc) → Close → Except Error Draft
  | [], close => orDone d close.objectFlaw?
  | (key, v) :: ms, close => do
    let name ← orFlaw key.value
    let d ← d.add name (v.reading room)
    readMembers room d ms close

def ofDoc (room : Nat) : Doc → Except Error Record
  | .object ms close =>
    if room = 0 then failFlaw .tooDeep else do (← readMembers (room - 1) {} ms close).finish
  | d => d.mismatch "struct Record"

def parse (text : String) : Except Error Record := decode ofDoc text

end Harvest.Record
