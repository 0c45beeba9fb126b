import Harvest.Files
import Harvest.Store.Address
import Harvest.Store.Collection
import Harvest.Text.Quoted

/-!
Opening a collection of a database file. The file and the directories above it are created if need be, and
what an opening that fails has created stays. The engine finds a file by the names of its path alone: `..`
takes away the name before it.
-/

namespace Harvest.Store

/-- A connection to a database, for one of its collections. -/
structure FileConnection where
  path : String
  /-- Where the file is, if there is one. -/
  location : Option (List String)
  collection : Collection

/-- The outcome of an opening: the connection, the files afterwards and what was logged. -/
structure Opening where
  answer : Except Failure FileConnection
  files : Files
  notes : List Log.Entry := []

/-- The database that a file holds; an empty file holds an empty one. -/
def databaseOf : Option FileEntry → Except Failure Database
  | none => .ok {}
  | some (.database db) => .ok db
  | some (.plain bytes) =>
    if bytes.isEmpty then .ok {}
    else .error (engineFailure.wrap "Failed to check schema_version table existence")
  | some .directory => .error engineFailure

/-- The length of a full path, slashes included. -/
def pathLength (names : List String) : Nat := names.foldr (fun n sum => 1 + n.utf8ByteSize + sum) 0

/-- The greatest length of a full path, with eight bytes to spare for the names of files beside it. -/
def maxPath : Nat := 512

/-- Goes on by a name of a path. Only a directory can hold what exists. -/
def follow? (fs : Files) (at_ : List String) (name : String) : Option (List String) :=
  if name = "." then some at_
  else if name = ".." then some at_.dropLast
  else if maxPath < pathLength at_ + name.utf8ByteSize + 1 then none
  else
    match fs.get? at_ with
    | none => some (at_ ++ [name])
    | some .directory => if 255 < name.utf8ByteSize then none else some (at_ ++ [name])
    | some _ => none

/-- Where the file of a path is, by its names alone. Its directory exists. -/
def locate? (fs : Files) (cwd : List String) (path : String) : Option (List String) := do
  let start ← if Files.isAbsolute path then pure [] else cwd.foldlM (follow? fs) []
  let at_ ← (Files.names path).foldlM (follow? fs) start
  match at_, fs.get? at_.dropLast with
  | _ :: _, some .directory => if maxPath < pathLength at_ + 8 then none else pure at_
  | _, _ => none

/-- What an address leads to: a database, where its file is, and whether nothing can be written into it. -/
structure Target where
  entry : Option FileEntry
  location : Option (List String)
  readOnly : Bool

def hasRoomForJournal (at_ : List String) : Bool := (at_.getLast?.getD "").utf8ByteSize + 8 ≤ 255

def target? (fs : Files) (cwd : List String) (a : Address) : Option Target :=
  if a.isTransient then some ⟨none, none, a.access = .readOnly⟩
  else do
    let at_ ← locate? fs cwd a.path
    let readOnly := a.access = .readOnly ∨ ¬hasRoomForJournal at_
    match fs.get? at_ with
    | some .directory => none
    | none => if a.access = .creating then some ⟨none, some at_, readOnly⟩ else none
    | some entry => some ⟨some entry, some at_, readOnly⟩

/-- The address of a path, which holds no zero byte. -/
def addressOf? (path : String) : Option Address :=
  if path.any (· = '\x00') then none else Address.ofText? path

/-- The files after an opening: a file that cannot be written is created empty. -/
def Target.leave (t : Target) (fs : Files) (db : Database) : Files :=
  match t.location, t.entry, t.readOnly with
  | none, _, _ => fs
  | some at_, _, false => fs.set at_ (.database db)
  | some at_, none, true => fs.set at_ (.plain .empty)
  | some _, some _, true => fs

/-- Sets up a database that cannot be written: all must be there already. -/
def setUpUnwritten (db : Database) (name : String) : Except Failure Unit × Database × List Log.Entry :=
  if db.currentVersion = 0 then (.error engineFailure, db, (db.setUp name).2.2.take 1)
  else
    match db.setUp name with
    | (.ok (), after, notes) =>
      if after = db then (.ok (), db, notes)
      else (.error (Database.collectionFailure name), db, notes.take 1)
    | (.error f, _, notes) => (.error f, db, notes)

/-- Opens a database whose directory exists. -/
def openFile (fs : Files) (cwd : List String) (path name : String) : Opening :=
  let notes := [Log.info s!"Opening database at: {Text.quoted path}"]
  match (addressOf? path).bind (target? fs cwd) with
  | none => ⟨.error (engineFailure.wrap s!"Failed to open database: {Text.quoted path}"), fs, notes⟩
  | some target =>
    match databaseOf target.entry with
    | .error f => ⟨.error f, fs, notes⟩
    | .ok db =>
      let (done, db, initNotes) := if target.readOnly then setUpUnwritten db name else db.setUp name
      ⟨done.map fun _ => ⟨path, target.location, { database := db, name, readOnly := target.readOnly }⟩,
        target.leave fs db, notes ++ initNotes⟩

/-- Opens a database file after creating the directories above it. -/
def openPath (fs : Files) (cwd : List String) (path name : String) : Opening :=
  let above := (Files.parent? path).getD ""
  let opening : Opening := match fs.createDirAll cwd above with
    | .error e =>
      ⟨.error (e.toFailure.wrap s!"Failed to create database directory: {Text.quoted above}"), fs, []⟩
    | .ok fs => openFile fs cwd path name
  match opening.answer with
  | .error f => { opening with answer := .error (f.wrap s!"Store unavailable at {Text.quoted path}") }
  | .ok _ =>
    { opening with
      notes := opening.notes ++ [Log.info s!"Storing into {Text.quoted path}, collection '{name}'"] }

end Harvest.Store
