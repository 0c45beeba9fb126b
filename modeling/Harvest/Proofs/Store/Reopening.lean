import Harvest.Proofs.Store.Interchange
import Harvest.Proofs.Store.Locations

/-!
Database files that are closed and opened again. Opening a file once more gives the same connection and leaves the files
as they are, as long as its path still leads to it.
-/

namespace Harvest.Store

open Files

variable {fs : Files} {cwd at_ : List String} {path name : String} {db : Database}

/-- A path that leads to a database file which is there and can be written. -/
structure LeadsTo (fs : Files) (cwd : List String) (path : String) (at_ : List String) : Prop where
  file : ∃ db, fs.get? at_ = some (.database db)
  address : ∃ a, addressOf? path = some a ∧ a.isTransient = false ∧ a.access ≠ .readOnly ∧
    locate? fs cwd a.path = some at_
  room : hasRoomForJournal at_ = true
  directory : above path = "" ∨ fs.isDirectory cwd (above path) = true

/-- What an opening for writing leaves and answers, by what comes of setting the collection up. -/
theorem openPath_eq {below : Files} {entry : Option FileEntry} {old : Database} {answer : Except Failure Unit}
    {notes : List Log.Entry} (made : fs.createDirAll cwd (above path) = .ok below)
    (reached : (addressOf? path).bind (target? below cwd) = some ⟨entry, some at_, false⟩)
    (held : databaseOf entry = .ok old) (done : old.setUp name = (answer, db, notes)) :
    (openPath fs cwd path name).files = below.set at_ (.database db) ∧
      ∀ connection, (openPath fs cwd path name).answer = .ok connection ↔
        answer = .ok () ∧ ⟨path, some at_, { database := db, name }⟩ = connection := by
  have opened : openFile below cwd path name = ⟨answer.map fun _ => ⟨path, some at_, { database := db, name }⟩,
      below.set at_ (.database db), [Log.info s!"Opening database at: {Text.quoted path}"] ++ notes⟩ := by
    rw [openFile, reached]
    simp only [held, done]
    rfl
  rw [above] at made
  rw [openPath]
  cases answer <;> simp [made, opened, Except.map]

section Reached

variable {entry : Option FileEntry} {old : Database} {notes : List Log.Entry}
  (directory : above path = "" ∨ fs.isDirectory cwd (above path) = true)

include directory

theorem openPath_of_target (reached : (addressOf? path).bind (target? fs cwd) = some ⟨entry, some at_, false⟩)
    (held : databaseOf entry = .ok old) (done : old.setUp name = (.ok (), db, notes)) :
    (openPath fs cwd path name).answer = .ok ⟨path, some at_, { database := db, name }⟩ ∧
      (openPath fs cwd path name).files = fs.set at_ (.database db) := by
  have directories : fs.createDirAll cwd (above path) = .ok fs := createDirAll_of_isDirectory directory
  obtain ⟨files, answer⟩ := openPath_eq directories reached held done
  exact ⟨(answer _).2 ⟨rfl, rfl⟩, files⟩

theorem openPath_of_none (missed : (addressOf? path).bind (target? fs cwd) = none) (name : String) :
    ∃ f, (openPath fs cwd path name).answer = .error f := by
  have directories : fs.createDirAll cwd (above path) = .ok fs := createDirAll_of_isDirectory directory
  rw [above] at directories
  simp only [openPath, openFile, directories, missed]
  exact ⟨_, rfl⟩

end Reached

namespace LeadsTo

theorem below (leads : LeadsTo fs cwd path at_) : at_ ≠ [] := by
  rintro rfl
  obtain ⟨db, here⟩ := leads.file
  cases here

/-- What the file holds makes no difference. -/
theorem set (leads : LeadsTo fs cwd path at_) (db : Database) : LeadsTo (fs.set at_ (.database db)) cwd path at_ := by
  obtain ⟨old, here⟩ := leads.file
  obtain ⟨a, addressed, lasting, writable, located⟩ := leads.address
  have alike : Alike (fs.set at_ (.database db)) fs := alike_set here
  refine ⟨⟨db, by rw [get?_set leads.below, if_pos rfl]⟩, ⟨a, addressed, lasting, writable, ?_⟩, leads.room, ?_⟩
  · rw [locate?_congr alike, located]
  · exact leads.directory.imp_right (isDirectory_of_keeps fun p => (alike.directory_iff p).2)

theorem target (leads : LeadsTo fs cwd path at_) (here : fs.get? at_ = some (.database db)) :
    (addressOf? path).bind (target? fs cwd) = some ⟨some (.database db), some at_, false⟩ := by
  obtain ⟨a, addressed, lasting, writable, located⟩ := leads.address
  rw [addressed, Option.bind_some, target?, lasting, located]
  simp [here, writable, leads.room]

/-- Opening a file that is set up gives what it holds and changes no file. -/
theorem openPath (leads : LeadsTo fs cwd path at_) (here : fs.get? at_ = some (.database db)) (ready : db.Ready name) :
    (Store.openPath fs cwd path name).answer = .ok ⟨path, some at_, { database := db, name }⟩ ∧
      (Store.openPath fs cwd path name).files = fs.set at_ (.database db) := by
  obtain ⟨notes, done⟩ := Database.setUp_of_ready ready
  exact openPath_of_target leads.directory (leads.target here) rfl done

end LeadsTo

section Opened

theorem path_of_addressOf? {a : Address} (file : Address.afterScheme? path.toList = none)
    (addressed : addressOf? path = some a) : path = a.path := by
  unfold addressOf? Address.ofText? at addressed
  split at addressed
  · cases addressed
  · rw [file] at addressed
    cases addressed
    rfl

variable {connection : FileConnection}

theorem openPath_eq_ok (opened : (openPath fs cwd path name).answer = .ok connection) :
    ∃ below, fs.createDirAll cwd (above path) = .ok below ∧ (openFile below cwd path name).answer = .ok connection ∧
      (openPath fs cwd path name).files = (openFile below cwd path name).files := by
  have same : (parent? path).getD "" = above path := rfl
  simp only [openPath, same] at opened ⊢
  cases made : fs.createDirAll cwd (above path) with
  | error e =>
    simp only [made] at opened
    cases opened
  | ok below =>
    simp only [made] at opened ⊢
    refine ⟨below, rfl, ?_⟩
    cases answered : (openFile below cwd path name).answer with
    | error f =>
      simp only [answered] at opened
      cases opened
    | ok c =>
      simp only [answered] at opened ⊢
      exact ⟨opened, trivial⟩

/-- A file that is opened for writing. -/
theorem openFile_eq_ok (opened : (openFile fs cwd path name).answer = .ok connection)
    (writable : connection.collection.readOnly = false) :
    ∃ a target db db' notes, addressOf? path = some a ∧ target? fs cwd a = some target ∧ target.readOnly = false ∧
      databaseOf target.entry = .ok db ∧ db.setUp name = (.ok (), db', notes) ∧
      connection = ⟨path, target.location, { database := db', name }⟩ ∧
      (openFile fs cwd path name).files = target.leave fs db' := by
  simp only [openFile] at opened ⊢
  cases found : (addressOf? path).bind (target? fs cwd) with
  | none =>
    simp only [found] at opened
    cases opened
  | some target =>
    obtain ⟨a, addressed, reached⟩ := Option.bind_eq_some_iff.1 found
    cases held : databaseOf target.entry with
    | error f =>
      simp only [found, held] at opened
      cases opened
    | ok db =>
      simp only [found, held] at opened ⊢
      obtain ⟨_, done, rfl⟩ := map_eq_ok.1 opened
      have writable : target.readOnly = false := writable
      simp only [writable, Bool.false_eq_true, ↓reduceIte] at done ⊢
      exact ⟨a, target, db, _, _, addressed, reached, writable, held, Prod.ext done rfl, rfl, rfl⟩

theorem target?_eq_some {a : Address} {target : Target} (found : target? fs cwd a = some target)
    (location : target.location = some at_) (writable : target.readOnly = false) :
    a.isTransient = false ∧ a.access ≠ .readOnly ∧ locate? fs cwd a.path = some at_ ∧
      hasRoomForJournal at_ = true ∧ fs.get? at_ ≠ some .directory := by
  unfold target? at found
  split at found
  · cases found
    cases location
  · rename_i lasting
    obtain ⟨q, located, found⟩ := Option.bind_eq_some_iff.1 found
    have known : target.location = some q ∧ target.readOnly = decide (a.access = .readOnly ∨ ¬hasRoomForJournal q) ∧
        fs.get? q ≠ some .directory := by
      dsimp only at found
      split at found
      · cases found
      · rename_i free
        split at found
        · cases found
          exact ⟨rfl, rfl, by simp [free]⟩
        · cases found
      · rename_i entry other here
        cases found
        exact ⟨rfl, rfl, fun directory => other (Option.some.inj (here.symm.trans directory))⟩
    obtain ⟨there, read_only, file⟩ := known
    obtain rfl := Option.some.inj (there.symm.trans location)
    rw [writable] at read_only
    have free := of_decide_eq_false read_only.symm
    rw [not_or, not_not] at free
    exact ⟨by simpa using lasting, free.1, located, free.2, file⟩

/-- A path leads to the file that was opened through it. An address, unlike the path of a file, may lead through its own
file, and then no longer leads to it once the file is there. -/
theorem leadsTo_of_openPath (home : cwd.foldlM fs.enter [] = .ok cwd)
    (opened : (openPath fs cwd path name).answer = .ok connection) (location : connection.location = some at_)
    (writable : connection.collection.readOnly = false)
    (lasting : (Address.afterScheme? path.toList).isSome →
      ∀ a, addressOf? path = some a → locate? (openPath fs cwd path name).files cwd a.path = some at_) :
    LeadsTo (openPath fs cwd path name).files cwd path at_ := by
  obtain ⟨below, made, opened, files⟩ := openPath_eq_ok opened
  obtain ⟨a, target, db, db', notes, addressed, reached, free, held, done, rfl, left⟩ := openFile_eq_ok opened writable
  obtain ⟨not_transient, access, located, room, file⟩ := target?_eq_some reached location free
  obtain ⟨kept, directory⟩ := createDirAll_eq_ok made
  have there : target.location = some at_ := location
  have left : (openPath fs cwd path name).files = below.set at_ (.database db') := by
    rw [files, left, Target.leave, there, free]
  have kept_set : Keeps below (below.set at_ (.database db')) := keeps_set file _
  have below_root : at_ ≠ [] := by
    rintro rfl
    exact file rfl
  rw [left] at lasting ⊢
  refine ⟨⟨db', by rw [get?_set below_root, if_pos rfl]⟩, ⟨a, addressed, not_transient, access, ?_⟩, room,
    directory.imp_right (isDirectory_of_keeps kept_set)⟩
  by_cases scheme : (Address.afterScheme? path.toList).isSome
  · exact lasting scheme a addressed
  · obtain rfl := path_of_addressOf? (by simpa using scheme) addressed
    exact locate?_of_keeps kept_set (walk_of_keeps kept home) directory located

/-- A collection of a file that was opened for writing is set up. -/
theorem ready_of_openPath (opened : (openPath fs cwd path name).answer = .ok connection)
    (writable : connection.collection.readOnly = false) :
    connection.path = path ∧ connection.collection.broken = false ∧
      connection.collection.database.Ready connection.collection.name := by
  obtain ⟨below, _, opened, _⟩ := openPath_eq_ok opened
  obtain ⟨_, _, _, db', _, _, _, _, _, done, rfl, _⟩ := openFile_eq_ok opened writable
  exact ⟨rfl, rfl, (Database.ready_of_setUp done).1⟩

end Opened

/-- A database file that is open: the files as its opening left them, and the connection. -/
structure OpenFile where
  files : Files
  connection : FileConnection

namespace OpenFile

def collection (o : OpenFile) : Collection := o.connection.collection

def holding (o : OpenFile) (c : Collection) : OpenFile := { o with connection := { o.connection with collection := c } }

/-- The store that is the collection behind the connection. -/
def store : RecordStore OpenFile where
  append s o :=
    let (answer, c) := Collection.store.append s o.collection
    (answer, o.holding c)
  find url o :=
    let (answer, c) := Collection.store.find url o.collection
    (answer, o.holding c)
  count o :=
    let (answer, c) := Collection.store.count o.collection
    (answer, o.holding c)
  notes := Collection.store.notes
  yields := Collection.store.yields

/-- The files once the connection is closed. -/
def closed (o : OpenFile) : Files :=
  match o.connection.location with
  | some at_ => o.files.set at_ (.database o.collection.database)
  | none => o.files

/-- Closes the file and opens it again, by the same path and for the same collection. -/
def reopen (cwd : List String) (o : OpenFile) : Except Failure OpenFile :=
  let opening := openPath o.closed cwd o.connection.path o.collection.name
  opening.answer.map fun connection => ⟨opening.files, connection⟩

variable {o : OpenFile} {m : Memory}

theorem serve_of_stays {request : Request} (stays : request ≠ .reopen) (again : OpenFile → Except Failure OpenFile)
    (identity : Pipeline.Identity) (o : OpenFile) :
    serve store again identity o request =
      ((serve Collection.store .ok identity o.collection request).1,
        o.holding (serve Collection.store .ok identity o.collection request).2) := by
  cases request with
  | save r => rfl
  | find url => rfl
  | count => rfl
  | reopen => exact absurd rfl stays

/-- An open file that holds the same records as a list, and whose path leads to where it is. -/
structure Mirrors (cwd at_ : List String) (o : OpenFile) (m : Memory) : Prop where
  location : o.connection.location = some at_
  leads : LeadsTo o.files cwd o.connection.path at_
  collection : o.collection.Mirrors m

theorem Mirrors.reopen (mirrors : o.Mirrors cwd at_ m) :
    ∃ o', o.reopen cwd = .ok o' ∧ o'.Mirrors cwd at_ m := by
  have closed : o.closed = o.files.set at_ (.database o.collection.database) := by
    rw [OpenFile.closed, mirrors.location]
  have leads : LeadsTo o.closed cwd o.connection.path at_ := closed ▸ mirrors.leads.set o.collection.database
  have here : o.closed.get? at_ = some (.database o.collection.database) := by
    rw [closed, get?_set leads.below, if_pos rfl]
  obtain ⟨opened, files⟩ := leads.openPath here mirrors.collection.ready
  have same : (⟨o.connection.path, some at_, { database := o.collection.database, name := o.collection.name }⟩ :
      FileConnection) = o.connection := by
    rw [mirrors.collection.connected_eq, ← mirrors.location]
    rfl
  refine ⟨⟨o.closed.set at_ (.database o.collection.database), o.connection⟩, ?_, mirrors.location,
    leads.set _, mirrors.collection⟩
  rw [OpenFile.reopen, opened, files, same]
  rfl

theorem Mirrors.serve (mirrors : o.Mirrors cwd at_ m) {request : Request} (decoded : request.IsDecoded)
    (identity identity' : Pipeline.Identity) :
    (Store.serve store (OpenFile.reopen cwd) identity o request).1 =
        (Store.serve Memory.store .ok identity' m request).1 ∧
      (Store.serve store (OpenFile.reopen cwd) identity o request).2.Mirrors cwd at_
        (Store.serve Memory.store .ok identity' m request).2 := by
  by_cases stays : request = .reopen
  · subst stays
    obtain ⟨o', opened, next⟩ := mirrors.reopen
    simp only [Store.serve, opened, true_and]
    exact next
  · obtain ⟨same, next⟩ := mirrors.collection.serve decoded stays .ok identity identity'
    rw [serve_of_stays stays]
    exact ⟨same, mirrors.location, mirrors.leads, next⟩

end OpenFile

/-- An opening of a collection without records in a file that can be written. -/
structure OpensEmpty (files : Files) (cwd : List String) (path name : String) (o : OpenFile) (at_ : List String) :
    Prop where
  /-- The working directory exists. -/
  home : cwd.foldlM files.enter [] = .ok cwd
  opened : (openPath files cwd path name).answer = .ok o.connection
  left : (openPath files cwd path name).files = o.files
  location : o.connection.location = some at_
  writable : o.collection.readOnly = false
  empty : o.collection.count.1 = .ok 0
  /-- An address still leads to the file once it is there; for the path of a file this need not be said. -/
  lasting : (Address.afterScheme? path.toList).isSome →
    ∀ a, addressOf? path = some a → locate? o.files cwd a.path = some at_

theorem OpensEmpty.mirrors {files : Files} {o : OpenFile} (opens : OpensEmpty files cwd path name o at_) :
    o.Mirrors cwd at_ [] := by
  obtain ⟨home, opened, left, location, writable, empty, lasting⟩ := opens
  obtain ⟨same, sound, ready⟩ := ready_of_openPath opened writable
  rw [← left] at lasting
  have leads := leadsTo_of_openPath home opened location writable lasting
  rw [left, ← same] at leads
  exact ⟨location, leads, Collection.mirrors_nil sound writable ready empty⟩

section Instances

/-- A database with one empty collection. -/
def emptyItems : Database :=
  { version := .holds 1, tables := [⟨"t", []⟩], indexes := ["idx_t_url", "idx_t_task"] }

theorem setUp_emptyItems : ({} : Database).setUp "t" = (.ok (), emptyItems,
    [Log.info "Initializing database schema v1", Log.debug "Collection table 't' ready"]) := by
  decide +kernel

theorem create_emptyItems : ∃ notes,
    Collection.create "t" = (.ok { database := emptyItems, name := "t" }, notes) := by
  rw [Collection.create, setUp_emptyItems]
  exact ⟨_, rfl⟩

theorem count_emptyItems : ({ database := emptyItems, name := "t" } : Collection).count.1 = .ok 0 := by
  decide +kernel

theorem addressOf?_of_toList {path : String} (plain : path.toList.any (· = '\x00') = false) :
    addressOf? path = Address.ofText? path := by
  have same : path.any (· = '\x00') = path.toList.any (· = '\x00') := String.contains_prop_eq
  rw [addressOf?, same, plain]
  rfl

theorem locate?_of_relative {names : List String} (relative : isAbsolute path = false)
    (named : Files.names path = names) (fs : Files) :
    locate? fs [] path = (names.foldlM (follow? fs) []).bind (ending? fs) := by
  rw [locate?_eq, start?, relative, named]
  rfl

theorem above_newFile : above "x.db" = "" := by
  rw [above, parent?, Text.split_slash]
  decide +kernel

/-- A file that is not there can be made in the working directory. -/
theorem target?_newFile : (addressOf? "x.db").bind (target? {} []) = some ⟨none, some ["x.db"], false⟩ := by
  have addressed : addressOf? "x.db" = some { path := "x.db" } := addressOf?_of_toList (by decide)
  have named : Files.names "x.db" = ["x.db"] := by
    rw [Files.names, Text.split_slash]
    decide +kernel
  have located : locate? {} [] "x.db" = some ["x.db"] := locate?_of_relative (by simp [isAbsolute]) named {}
  rw [addressed, Option.bind_some, target?, located]
  rfl

/-- The numbers of a record that was found. They can be compared where records cannot. -/
def foundNumbers : Except Failure Answer → List Number
  | .ok (.found (some r)) => r.numbers
  | _ => []

/-- An address of a file by way of that file itself. -/
def detour : String := "file:x.db%2Fy%2F..%2F../x.db"

/-- The directory that the address would be in if it were a plain path. -/
def detourFiles : Files := ⟨[(["file:x.db%2Fy%2F..%2F.."], .directory)]⟩

theorem addressOf?_detour : addressOf? detour = some { path := "x.db/y/../../x.db" } := by
  have read : Address.ofText? detour = some { path := "x.db/y/../../x.db" } := by decide +kernel
  exact (addressOf?_of_toList (by decide)).trans read

theorem locate?_detour (fs : Files) : locate? fs [] "x.db/y/../../x.db" =
    (["x.db", "y", "..", "..", "x.db"].foldlM (follow? fs) []).bind (ending? fs) := by
  have named : Files.names "x.db/y/../../x.db" = ["x.db", "y", "..", "..", "x.db"] := by
    rw [Files.names, Text.split_slash]
    decide +kernel
  exact locate?_of_relative (by simp [isAbsolute]) named fs

theorem isDirectory_above_detour : detourFiles.isDirectory [] (above detour) = true := by
  have outer : above detour = "file:x.db%2Fy%2F..%2F.." := by
    rw [above, parent?, Text.split_slash]
    decide +kernel
  rw [outer]
  refine isDirectory_iff.2 ⟨_, locate_of_name ?_ ?_ ?_ ?_ detourFiles [], rfl⟩
  all_goals decide

theorem reopen_detour : ∃ o : OpenFile,
    ((openPath detourFiles [] detour "t").answer = .ok o.connection ∧
      (openPath detourFiles [] detour "t").files = o.files ∧ o.connection.location = some ["x.db"] ∧
      o.collection.readOnly = false ∧ o.collection.count.1 = .ok 0) ∧ ∃ f, o.reopen [] = .error f := by
  have reached : (addressOf? detour).bind (target? detourFiles []) = some ⟨none, some ["x.db"], false⟩ := by
    rw [addressOf?_detour, Option.bind_some, target?, locate?_detour]
    rfl
  obtain ⟨opened, left⟩ := openPath_of_target (.inr isDirectory_above_detour) reached rfl setUp_emptyItems
  let o : OpenFile := ⟨detourFiles.set ["x.db"] (.database emptyItems), detour, some ["x.db"],
    { database := emptyItems, name := "t" }⟩
  have missed : (addressOf? detour).bind (target? o.closed []) = none := by
    rw [addressOf?_detour, Option.bind_some, target?, locate?_detour]
    rfl
  have kept : Keeps detourFiles o.closed :=
    (keeps_set (fun directory => by cases directory) _).trans (keeps_set (fun directory => by cases directory) _)
  obtain ⟨f, failed⟩ := openPath_of_none (.inr (isDirectory_of_keeps kept isDirectory_above_detour)) missed "t"
  exact ⟨o, ⟨opened, left, rfl, rfl, count_emptyItems⟩, f, congrArg (Except.map _) failed⟩

end Instances

end Harvest.Store
