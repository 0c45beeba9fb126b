import Harvest.Failure
import Harvest.Json.Decode
import Harvest.Json.Writer
import Harvest.Log
import Harvest.Stored

/-!
Databases: collections are tables with rows in the order of their insertion, each with two indexes, and a
table of its own holds the version of the schema. Tables and indexes share one space of names in which the
case of ASCII letters does not matter.
-/

namespace Harvest.Store

def engineFailure : Failure := ⟨"sqlite", []⟩

/-- Whether two names stand for the same object. -/
def sameName (a b : String) : Bool := a.map Char.toLower = b.map Char.toLower

/-- Takes pairs of quotes for one quote; a quote that stands alone ends the name too early. -/
def unquoteChars : List Char → Option (List Char)
  | [] => some []
  | '"' :: '"' :: cs => (unquoteChars cs).map ('"' :: ·)
  | c :: cs => if c = '"' ∨ c = '\x00' then none else (unquoteChars cs).map (c :: ·)

/-- The name that a text stands for between quotes. -/
def objectName? (text : String) : Option String := (unquoteChars text.toList).map String.ofList

/-- Names that the engine keeps for itself. -/
def isReserved (name : String) : Bool := sameName (String.ofList (name.toList.take 7)) "sqlite_"

/-- A row of a collection; the extra fields of its record are kept as JSON text. -/
structure Row where
  id : String
  url : String
  taskId : Option String
  title : String
  content : String
  titleZh : Option String
  contentZh : Option String
  extra : String
  createdAt : String
deriving DecidableEq, Repr

namespace Row

def ofStored (s : StoredRecord) : Row where
  id := s.id
  url := s.record.url
  taskId := s.record.taskId
  title := s.record.title
  content := s.record.content
  titleZh := s.record.titleZh
  contentZh := s.record.contentZh
  extra := (Json.object s.record.extra).compact
  createdAt := s.createdAt

/-- The extra fields that a text holds: none, if it is the text of something other than an object. -/
def extraOfText (text : String) : Except Failure (List (String × Json)) :=
  match Json.parse text with
  | .ok (.object members) => .ok members
  | .ok _ => .ok []
  | .error e => .error ⟨e.message, []⟩

def toStored (r : Row) : Except Failure StoredRecord :=
  (extraOfText r.extra).map fun extra =>
    ⟨r.id, ⟨r.title, r.content, r.url, r.taskId, r.titleZh, r.contentZh, extra⟩, r.createdAt⟩

end Row

structure Table where
  name : String
  rows : List Row := []
deriving DecidableEq, Repr

/-- The table that holds the schema's version. -/
inductive VersionTable
  | missing
  | empty
  | holds (version : Int)
deriving DecidableEq, Repr

def VersionTable.name : String := "schema_version"

/-- The version as it is read back: what does not fit into 32 bits counts as 0. -/
def VersionTable.ofVersion : Option Int → VersionTable
  | none => .empty
  | some v => .holds (if -2147483648 ≤ v ∧ v < 2147483648 then v else 0)

def schemaVersion : Int := 1

structure Database where
  version : VersionTable := .missing
  tables : List Table := []
  indexes : List String := []
deriving DecidableEq, Repr

namespace Database

def isVersionTable (db : Database) (name : String) : Bool :=
  db.version ≠ .missing && sameName name VersionTable.name

def table? (db : Database) (name : String) : Option Table := db.tables.find? fun t => sameName t.name name

def hasTable (db : Database) (name : String) : Bool := db.isVersionTable name || (db.table? name).isSome

def hasIndex (db : Database) (name : String) : Bool := db.indexes.any (sameName · name)

/-- Creates a table unless there is one of that name; no index may have the name. -/
def createTable (db : Database) (name : String) : Option Database :=
  if isReserved name then none
  else if db.hasTable name then some db
  else if db.hasIndex name then none
  else some { db with tables := db.tables ++ [⟨name, []⟩] }

/-- Creates an index of a collection unless there is one of that name; no table may have the name. -/
def createIndex (db : Database) (index table : String) : Option Database :=
  if db.isVersionTable table then none
  else if db.hasTable index then none
  else if db.hasIndex index then some db
  else some { db with indexes := db.indexes ++ [index] }

def indexNames (table : String) : List String := [s!"idx_{table}_url", s!"idx_{table}_task"]

/-- Does steps one after the other; what was done before a step failed stays done. -/
def attempt (db : Database) : List (Database → Option Database) → Bool × Database
  | [] => (true, db)
  | step :: steps =>
    match step db with
    | some db => db.attempt steps
    | none => (false, db)

def collectionFailure (collection : String) : Failure :=
  engineFailure.wrap s!"Failed to create collection table '{collection}'"

/-- Makes sure that a collection's table and its indexes exist. -/
def createCollection (db : Database) (collection : String) : Except Failure Unit × Database :=
  let (done, db) := match objectName? collection with
    | none => (false, db)
    | some name => db.attempt ((createTable · name) :: (indexNames name).map fun i => (createIndex · i name))
  (if done then .ok () else .error (collectionFailure collection), db)

/-- The version that counts: 0 where none is held. -/
def currentVersion (db : Database) : Int :=
  match db.version with
  | .holds v => v
  | _ => 0

/-- Sets up the schema where there is none, and the collection. -/
def setUp (db : Database) (collection : String) :
    Except Failure Unit × Database × List Log.Entry :=
  let (db, note) :=
    if db.currentVersion = 0 then
      ({ db with version := .holds schemaVersion }, Log.info s!"Initializing database schema v{schemaVersion}")
    else (db, Log.debug s!"Database schema is up to date (v{db.currentVersion})")
  match db.createCollection collection with
  | (.ok (), db) => (.ok (), db, [note, Log.debug s!"Collection table '{collection}' ready"])
  | (.error f, db) => (.error f, db, [note])

/-- Sets the schema up again, with another version in place of the stored one. -/
def reset (db : Database) (version : Option Int) (collection : String) :
    Except Failure Unit × Database :=
  let (answer, db, _) := { db with version := VersionTable.ofVersion version }.setUp collection
  (answer, db)

def rows? (db : Database) (collection : String) : Option (List Row) :=
  ((objectName? collection).bind db.table?).map (·.rows)

def mapRows (db : Database) (collection : String) (f : List Row → List Row) : Database :=
  match objectName? collection with
  | none => db
  | some name =>
    { db with
      tables := db.tables.map fun t => if sameName t.name name then { t with rows := f t.rows } else t }

def insert (db : Database) (collection : String) (row : Row) : Except Failure Unit × Database :=
  match db.rows? collection with
  | none => (.error engineFailure, db)
  | some _ => (.ok (), db.mapRows collection (· ++ [row]))

def find (db : Database) (collection url : String) : Except Failure (Option StoredRecord) :=
  match db.rows? collection with
  | none => .error engineFailure
  | some rows =>
    match rows.find? (·.url = url) with
    | none => .ok none
    | some row => row.toStored.map some

def count (db : Database) (collection : String) : Except Failure Nat :=
  match db.rows? collection with
  | none => .error engineFailure
  | some rows => .ok rows.length

/-- Overwrites the text of the extra fields in the rows with this URL, and counts them. -/
def setExtra (db : Database) (collection url text : String) : Except Failure Nat × Database :=
  match db.rows? collection with
  | none => (.error engineFailure, db)
  | some rows =>
    (.ok (rows.countP (·.url = url)),
      db.mapRows collection (·.map fun r => if r.url = url then { r with extra := text } else r))

/-- The tables and indexes, in the order of these texts. -/
def objects (db : Database) : List String :=
  let tables := (if db.version = .missing then [] else [VersionTable.name]) ++ db.tables.map (·.name)
  ((tables.map fun n => s!"table {n}") ++ db.indexes.map fun n => s!"index {n}").mergeSort

end Database

end Harvest.Store
