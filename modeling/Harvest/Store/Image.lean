import Harvest.Store.Database

/-!
The text that a database is kept as between runs: a mark on the first line, and its tables as JSON.
-/

namespace Harvest.Store

namespace Row

def toJson (r : Row) : Json := .object [
  ("id", .string r.id), ("url", .string r.url), ("task_id", optional r.taskId),
  ("title", .string r.title), ("content", .string r.content), ("title_zh", optional r.titleZh),
  ("content_zh", optional r.contentZh), ("extra", .string r.extra), ("created_at", .string r.createdAt)]
where
  optional : Option String → Json
    | some s => .string s
    | none => .null

def ofJson? : Json → Option Row
  | .object ms => do
    let text (name : String) : Option String := match Json.get? name ms with
      | some (.string s) => some s
      | _ => none
    let optional (name : String) : Option (Option String) := match Json.get? name ms with
      | some (.string s) => some (some s)
      | some .null => some none
      | _ => none
    some ⟨← text "id", ← text "url", ← optional "task_id", ← text "title", ← text "content",
      ← optional "title_zh", ← optional "content_zh", ← text "extra", ← text "created_at"⟩
  | _ => none

theorem ofJson?_toJson (r : Row) : ofJson? r.toJson = some r := by
  obtain ⟨id, url, taskId, title, content, titleZh, contentZh, extra, createdAt⟩ := r
  cases taskId <;> cases titleZh <;> cases contentZh <;> rfl

end Row

theorem mapM_some {α : Type} {f : α → Option α} (h : ∀ a, f a = some a) (items : List α) :
    items.mapM f = some items := by
  induction items with
  | nil => rfl
  | cons a items ih => simp [List.mapM_cons, h, ih]

namespace Table

def toJson (t : Table) : Json :=
  .object [("name", .string t.name), ("rows", .array (t.rows.map Row.toJson))]

def ofJson? : Json → Option Table
  | .object [("name", .string name), ("rows", .array rows)] => (rows.mapM Row.ofJson?).map (⟨name, ·⟩)
  | _ => none

theorem ofJson?_toJson (t : Table) : ofJson? t.toJson = some t := by
  have rows := mapM_some (f := Row.ofJson? ∘ Row.toJson) Row.ofJson?_toJson t.rows
  simp [ofJson?, toJson, rows]

end Table

namespace VersionTable

def toJson : VersionTable → Json
  | missing => .null
  | empty => .array []
  | holds v => .array [.number (.integer v)]

def ofJson? : Json → Option VersionTable
  | .null => some missing
  | .array [] => some empty
  | .array [.number (.integer v)] => some (holds v)
  | _ => none

theorem ofJson?_toJson (v : VersionTable) : ofJson? v.toJson = some v := by
  cases v <;> rfl

end VersionTable

namespace Database

def toJson (db : Database) : Json := .object [
  ("version", db.version.toJson), ("tables", .array (db.tables.map Table.toJson)),
  ("indexes", .array (db.indexes.map .string))]

def text? : Json → Option String
  | .string s => some s
  | _ => none

def ofJson? : Json → Option Database
  | .object [("version", version), ("tables", .array tables), ("indexes", .array indexes)] => do
    some ⟨← VersionTable.ofJson? version, ← tables.mapM Table.ofJson?, ← indexes.mapM text?⟩
  | _ => none

theorem ofJson?_toJson (db : Database) : ofJson? db.toJson = some db := by
  have tables := mapM_some (f := Table.ofJson? ∘ Table.toJson) Table.ofJson?_toJson db.tables
  have indexes := mapM_some (f := text? ∘ Json.string) (fun _ => rfl) db.indexes
  simp [ofJson?, toJson, VersionTable.ofJson?_toJson, tables, indexes]

/-- What the text of a database begins with. -/
def mark : String := "record database 1\n"

def toText (db : Database) : String := mark ++ db.toJson.compact

def ofText? (text : String) : Option Database := do
  guard (text.startsWith mark)
  match Json.parse (String.ofList (text.toList.drop mark.length)) with
  | .ok j => ofJson? j
  | .error _ => none

end Database

end Harvest.Store
