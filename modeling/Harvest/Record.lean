import Harvest.Json.Basic
import Harvest.Text.Blank

/-!
Records: what a crawler found on one page. Three texts are always there, three more are filled in on the
way, and every other field stays as it was found.
-/

namespace Harvest

structure Record where
  title : String
  content : String
  /-- The page; records with equal URLs are duplicates. -/
  url : String
  /-- The run that processed the record. -/
  taskId : Option String := none
  titleZh : Option String := none
  contentZh : Option String := none
  /-- The other fields in the order in which they were found. -/
  extra : List (String × Json) := []
deriving Inhabited, Repr

namespace Record

/-- The names of the fields that are not extra. -/
def fixedNames : List String := ["title", "content", "url", "task_id", "title_zh", "content_zh"]

def withField (r : Record) (name : String) (value : Json) : Record :=
  { r with extra := Json.insert name value r.extra }

def stamp (r : Record) (taskId : String) : Record := { r with taskId := some taskId }

def isTranslated (r : Record) : Bool := r.titleZh.isSome && r.contentZh.isSome

/-- Whether the record has no URL to speak of. -/
def hasBlankUrl (r : Record) : Bool := Text.isBlankText r.url

def textMember (name : String) : Option String → List (String × Json)
  | none => []
  | some s => [(name, .string s)]

/-- The fields in the order in which they are written. -/
def members (r : Record) : List (String × Json) :=
  ("title", .string r.title) :: ("content", .string r.content) :: ("url", .string r.url) ::
    (textMember "task_id" r.taskId ++ textMember "title_zh" r.titleZh ++
      textMember "content_zh" r.contentZh ++ r.extra)

def toJson (r : Record) : Json := .object r.members

@[simp] theorem stamp_url (r : Record) (taskId : String) : (r.stamp taskId).url = r.url := rfl
@[simp] theorem stamp_taskId (r : Record) (taskId : String) :
    (r.stamp taskId).taskId = some taskId := rfl

end Record

end Harvest
