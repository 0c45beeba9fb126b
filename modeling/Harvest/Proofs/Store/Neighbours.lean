import Harvest.Proofs.Store.Names
import Harvest.Proofs.Store.Reopening

/-!
Stores for several collections of one database file. They are opened in any order and any number of times, and records
are saved through those that were; whether they leave one another alone depends on the names of the collections.
-/

namespace Harvest.Store

open Files Database

/-- A name of a collection in settings that are safe to run with. -/
def Accepted (name : String) : Prop := ∃ s : Settings, s.validate = .ok () ∧ s.store.collection = name

theorem Accepted.isIdentifier {name : String} (accepted : Accepted name) : Settings.isIdentifier name = true := by
  obtain ⟨s, valid, rfl⟩ := accepted
  unfold Settings.validate at valid
  split at valid
  · cases valid
  · rename_i sound
    unfold Settings.defect? at sound
    split at sound
    · cases sound
    · split at sound
      · cases sound
      · rename_i identifier
        simpa using identifier

theorem Accepted.named {name : String} (accepted : Accepted name) : objectName? name = some name :=
  objectName?_of_isIdentifier accepted.isIdentifier

/-- A database file: the working directory, the path that it is opened by, and where it is. -/
structure Place where
  cwd : List String
  path : String
  at_ : List String

inductive Use
  | opening (name : String)
  /-- Saves a record through a store that was opened. -/
  | saving (name : String) (s : StoredRecord)

def Use.name : Use → String
  | opening name => name
  | saving name _ => name

namespace Place

/-- The store for a collection of the database, as the file is. -/
def store? (q : Place) (fs : Files) (name : String) : Option Collection :=
  match fs.get? q.at_ with
  | some (.database db) => some { database := db, name }
  | _ => none

def apply (q : Place) (fs : Files) : Use → Except Failure Unit × Files
  | .opening name =>
    let opening := openPath fs q.cwd q.path name
    (opening.answer.map fun _ => (), opening.files)
  | .saving name s =>
    match q.store? fs name with
    | none => (.error engineFailure, fs)
    | some c =>
      let (answer, c) := Collection.store.append s c
      (answer, fs.set q.at_ (.database c.database))

def run (q : Place) (fs : Files) (uses : List Use) : Files := uses.foldl (fun fs use => (q.apply fs use).2) fs

def find? (q : Place) (fs : Files) (name url : String) : Option (Except Failure (Option StoredRecord)) :=
  (q.store? fs name).map fun c => (Collection.store.find url c).1

def count? (q : Place) (fs : Files) (name : String) : Option (Except Failure Nat) :=
  (q.store? fs name).map fun c => (Collection.store.count c).1

end Place

/-- Uses of collections of these names, of which each is opened before a record is saved into it. -/
inductive Admitted (names : List String) : List Use → Prop
  | nil : Admitted names []
  | opening {uses : List Use} {a : String} (admitted : Admitted names uses) (member : a ∈ names) :
      Admitted names (uses ++ [.opening a])
  | saving {uses : List Use} {a : String} (s : StoredRecord) (admitted : Admitted names uses)
      (opened : .opening a ∈ uses) : Admitted names (uses ++ [.saving a s])

theorem Admitted.member {names : List String} {uses : List Use} (admitted : Admitted names uses) {a : String}
    (opened : .opening a ∈ uses) : a ∈ names := by
  induction admitted with
  | nil => cases opened
  | opening _ member ih =>
    rcases List.mem_append.1 opened with before | last
    · exact ih before
    · obtain ⟨⟩ := List.mem_singleton.1 last
      exact member
  | saving _ _ _ ih =>
    rcases List.mem_append.1 opened with before | last
    · exact ih before
    · cases List.mem_singleton.1 last

/-- Collections of one database file that can be used side by side, whatever is done through their stores. -/
structure Coexist (q : Place) (fs : Files) (names : List String) : Prop where
  opens : ∀ uses, Admitted names uses → ∀ a ∈ names, (q.apply (q.run fs uses) (.opening a)).1 = .ok ()
  saves : ∀ uses, Admitted names uses → ∀ a, .opening a ∈ uses → ∀ s,
    (q.apply (q.run fs uses) (.saving a s)).1 = .ok ()
  apart : ∀ uses, Admitted names uses → ∀ a b, .opening a ∈ uses → .opening b ∈ uses → a ≠ b → ∀ s,
    let before := q.run fs uses
    let after := (q.apply before (.saving a s)).2
    (∀ url, q.find? after b url = q.find? before b url) ∧ q.count? after b = q.count? before b

/-- A place where a new database file can be made, or where there is one without anything in it. -/
structure Place.Fresh (q : Place) (fs below : Files) : Prop where
  /-- The working directory exists. -/
  home : q.cwd.foldlM fs.enter [] = .ok q.cwd
  /-- The directories above the file are made, if need be. -/
  made : fs.createDirAll q.cwd (above q.path) = .ok below
  reached : ∃ entry, (addressOf? q.path).bind (target? below q.cwd) = some ⟨entry, some q.at_, false⟩ ∧
    databaseOf entry = .ok {}
  /-- An address still leads to the file once it is there; for the path of a file this need not be said. -/
  lasting : (Address.afterScheme? q.path.toList).isSome → ∀ a, addressOf? q.path = some a → ∀ db,
    locate? (below.set q.at_ (.database db)) q.cwd a.path = some q.at_

/-- The file is there and holds this database. -/
structure Place.Carries (q : Place) (fs : Files) (db : Database) : Prop where
  leads : LeadsTo fs q.cwd q.path q.at_
  here : fs.get? q.at_ = some (.database db)

/-- There is nothing in the database but collections of the names, of which those that were opened have tables. -/
structure Place.Holds (q : Place) (fs : Files) (names : List String) (uses : List Use) (db : Database) : Prop
    extends q.Carries fs db where
  tidy : Tidy names db
  opened : ∀ a, .opening a ∈ uses → ∃ rows, db.rows? a = some rows

namespace Place

variable {q : Place} {fs below : Files} {names : List String} {uses : List Use} {db db' : Database} {a b : String}
  {notes : List Log.Entry}

theorem run_concat (q : Place) (fs : Files) (uses : List Use) (use : Use) :
    q.run fs (uses ++ [use]) = (q.apply (q.run fs uses) use).2 := by
  rw [run, List.foldl_append]
  rfl

theorem openPath_of_opening (opened : (q.apply fs (.opening a)).1 = .ok ()) :
    ∃ connection, (openPath fs q.cwd q.path a).answer = .ok connection := by
  obtain ⟨connection, answered, -⟩ := map_eq_ok.1 opened
  exact ⟨connection, answered⟩

namespace Fresh

/-- The first opening, which makes the file if there is none. -/
theorem opening (fresh : q.Fresh fs below) (done : ({} : Database).setUp a = (.ok (), db, notes)) :
    (q.apply fs (.opening a)).1 = .ok () ∧ q.Carries (q.apply fs (.opening a)).2 db := by
  obtain ⟨home, made, ⟨entry, reached, held⟩, lasting⟩ := fresh
  obtain ⟨files, answered⟩ := openPath_eq made reached held done
  have opened := (answered _).2 ⟨rfl, rfl⟩
  have leads := leadsTo_of_openPath home opened rfl rfl
    fun scheme address addressed => files ▸ lasting scheme address addressed db
  refine ⟨?_, leads, ?_⟩
  · rw [apply, opened]
    rfl
  · rw [apply, files, get?_set leads.below, if_pos rfl]

theorem setUp_of_opening (fresh : q.Fresh fs below) (opened : (q.apply fs (.opening a)).1 = .ok ()) :
    ∃ db notes, ({} : Database).setUp a = (.ok (), db, notes) := by
  obtain ⟨connection, opened⟩ := openPath_of_opening opened
  obtain ⟨_, made, ⟨entry, reached, held⟩, _⟩ := fresh
  obtain ⟨_, answered⟩ := openPath_eq made reached held rfl
  exact ⟨_, _, Prod.ext ((answered connection).1 opened).1 rfl⟩

end Fresh

namespace Carries

theorem store? (carries : q.Carries fs db) (name : String) : q.store? fs name = some { database := db, name } := by
  rw [Place.store?, carries.here]

theorem find? (carries : q.Carries fs db) (a url : String) : q.find? fs a url = some (db.find a url) := by
  rw [Place.find?, carries.store?]
  rfl

theorem count? (carries : q.Carries fs db) (a : String) : q.count? fs a = some (db.count a) := by
  rw [Place.count?, carries.store?]
  rfl

theorem opening (carries : q.Carries fs db) (done : db.setUp a = (.ok (), db', notes)) :
    (q.apply fs (.opening a)).1 = .ok () ∧ q.Carries (q.apply fs (.opening a)).2 db' := by
  obtain ⟨leads, here⟩ := carries
  obtain ⟨answer, files⟩ := openPath_of_target leads.directory (leads.target here) rfl done
  refine ⟨?_, ?_, ?_⟩
  · rw [apply, answer]
    rfl
  · rw [apply, files]
    exact leads.set db'
  · rw [apply, files, get?_set leads.below, if_pos rfl]

theorem setUp_of_opening (carries : q.Carries fs db) (opened : (q.apply fs (.opening a)).1 = .ok ()) :
    ∃ db' notes, db.setUp a = (.ok (), db', notes) := by
  obtain ⟨connection, opened⟩ := openPath_of_opening opened
  have made := createDirAll_of_isDirectory carries.leads.directory
  obtain ⟨_, answered⟩ := openPath_eq made (carries.leads.target carries.here) rfl rfl
  exact ⟨_, _, Prod.ext ((answered connection).1 opened).1 rfl⟩

/-- A record that is saved goes to the rows of its collection. -/
theorem saving {rows : List Row} (carries : q.Carries fs db) (present : db.rows? a = some rows) (s : StoredRecord) :
    (q.apply fs (.saving a s)).1 = .ok () ∧
      q.Carries (q.apply fs (.saving a s)).2 (db.mapRows a (· ++ [.ofStored s])) := by
  have appended : Collection.store.append s { database := db, name := a } =
      (.ok (), { database := db.mapRows a (· ++ [.ofStored s]), name := a }) := by
    simp only [Collection.store, Collection.insert, Collection.call, Database.insert, present, Bool.false_eq_true,
      ↓reduceIte]
  have applied : q.apply fs (.saving a s) =
      (.ok (), fs.set q.at_ (.database (db.mapRows a (· ++ [.ofStored s])))) := by
    simp only [apply, carries.store?, appended]
  rw [applied]
  refine ⟨rfl, carries.leads.set _, ?_⟩
  rw [get?_set carries.leads.below, if_pos rfl]

end Carries

section Compatible

variable (fresh : q.Fresh fs below) (named : ∀ a ∈ names, objectName? a = some a)

theorem Holds.opening (holds : q.Holds fs names uses db) (compatible : Compatible names)
    (named : objectName? a = some a) (member : a ∈ names) :
    (q.apply fs (.opening a)).1 = .ok () ∧
      ∃ db', q.Holds (q.apply fs (.opening a)).2 names (uses ++ [.opening a]) db' := by
  obtain ⟨db', notes, done, tidy⟩ := holds.tidy.setUp compatible named member
  obtain ⟨answer, carries⟩ := holds.toCarries.opening done
  refine ⟨answer, db', carries, tidy, ?_⟩
  obtain ⟨present, kept⟩ := rows?_of_setUp done
  intro b there
  rcases List.mem_append.1 there with before | last
  · obtain ⟨rows, held⟩ := holds.opened b before
    exact ⟨rows, kept b rows held⟩
  · obtain ⟨⟩ := List.mem_singleton.1 last
    exact present

theorem Holds.saving (holds : q.Holds fs names uses db) (opened : .opening a ∈ uses) (s : StoredRecord) :
    (q.apply fs (.saving a s)).1 = .ok () ∧
      q.Holds (q.apply fs (.saving a s)).2 names (uses ++ [.saving a s]) (db.mapRows a (· ++ [.ofStored s])) := by
  obtain ⟨rows, present⟩ := holds.opened a opened
  obtain ⟨answer, carries⟩ := holds.toCarries.saving present s
  refine ⟨answer, carries, holds.tidy.mapRows a _, ?_⟩
  intro b there
  rcases List.mem_append.1 there with before | last
  · exact rows?_mapRows_present _ a (holds.opened b before)
  · cases List.mem_singleton.1 last

include fresh

theorem Fresh.holds (compatible : Compatible names) (named : objectName? a = some a) (member : a ∈ names) :
    (q.apply fs (.opening a)).1 = .ok () ∧ ∃ db, q.Holds (q.apply fs (.opening a)).2 names [.opening a] db := by
  obtain ⟨db, notes, done, tidy⟩ := (tidy_empty names).setUp compatible named member
  obtain ⟨answer, carries⟩ := fresh.opening done
  refine ⟨answer, db, carries, tidy, ?_⟩
  intro b opened
  obtain ⟨⟩ := List.mem_singleton.1 opened
  exact (rows?_of_setUp done).1

include named

/-- From the first opening on the file holds what was done, one use after the other. -/
theorem Fresh.run_holds (compatible : Compatible names) (admitted : Admitted names uses) :
    uses = [] ∨ ∃ db, q.Holds (q.run fs uses) names uses db := by
  induction admitted with
  | nil => exact .inl rfl
  | @opening uses a _ member ih =>
    refine .inr ?_
    rw [run_concat]
    rcases ih with rfl | ⟨db, holds⟩
    · exact (fresh.holds compatible (named a member) member).2
    · exact (holds.opening compatible (named a member) member).2
  | @saving uses a s _ opened ih =>
    refine .inr ?_
    rw [run_concat]
    rcases ih with rfl | ⟨db, holds⟩
    · cases opened
    · exact ⟨_, (holds.saving opened s).2⟩

theorem Fresh.coexist (compatible : Compatible names) : Coexist q fs names := by
  refine ⟨?_, ?_, ?_⟩
  · intro uses admitted a member
    rcases fresh.run_holds named compatible admitted with rfl | ⟨db, holds⟩
    · exact (fresh.holds compatible (named a member) member).1
    · exact (holds.opening compatible (named a member) member).1
  · intro uses admitted a opened s
    rcases fresh.run_holds named compatible admitted with rfl | ⟨db, holds⟩
    · cases opened
    · exact (holds.saving opened s).1
  · intro uses admitted a b opened opened' other s
    rcases fresh.run_holds named compatible admitted with rfl | ⟨db, holds⟩
    · cases opened
    · have after := (holds.saving opened s).2
      have first := admitted.member opened
      have second := admitted.member opened'
      have rows := holds.tidy.rows?_mapRows compatible (named a first) (named b second) first second other
        (· ++ [.ofStored s])
      refine ⟨fun url => ?_, ?_⟩
      · rw [after.find?, holds.find?, Database.find, Database.find, rows]
      · rw [after.count?, holds.count?, Database.count, Database.count, rows]

end Compatible

section Coexist

variable (fresh : q.Fresh fs below) (named : ∀ a ∈ names, objectName? a = some a) (coexist : Coexist q fs names)

include fresh coexist

/-- The database after a first collection was opened. -/
theorem Fresh.setUp_first (member : a ∈ names) :
    ∃ db notes, ({} : Database).setUp a = (.ok (), db, notes) ∧ q.Carries (q.run fs [.opening a]) db := by
  obtain ⟨db, notes, done⟩ := fresh.setUp_of_opening (coexist.opens [] .nil a member)
  exact ⟨db, notes, done, (fresh.opening done).2⟩

/-- The database after a second collection was opened. -/
theorem Fresh.setUp_second (first : a ∈ names) (second : b ∈ names) :
    ∃ db notes db' notes', ({} : Database).setUp a = (.ok (), db, notes) ∧ db.setUp b = (.ok (), db', notes') ∧
      q.Carries (q.run fs [.opening a, .opening b]) db' := by
  obtain ⟨db, notes, done, carries⟩ := fresh.setUp_first coexist first
  have admitted : Admitted names [.opening a] := .opening .nil first
  obtain ⟨db', notes', again⟩ := carries.setUp_of_opening (coexist.opens _ admitted b second)
  exact ⟨db, notes, db', notes', done, again, (carries.opening again).2⟩

include named

/-- Names that stand for the same table are equal: a record that is saved by one of them is counted by the other. -/
theorem Fresh.eq_of_sameName (first : a ∈ names) (second : b ∈ names) (same : sameName a b = true) : a = b := by
  by_contra other
  obtain ⟨db, notes, db', notes', done, again, carries⟩ := fresh.setUp_second coexist first second
  obtain ⟨rows, made⟩ := (rows?_of_setUp done).1
  have present := (rows?_of_setUp again).2 a rows made
  let s : StoredRecord := ⟨"", ⟨"", "", "", none, none, none, []⟩, ""⟩
  have shared := rows?_congr (named a first) (named b second) same
  have before : q.count? (q.run fs [.opening a, .opening b]) b = some (.ok rows.length) := by
    rw [carries.count?, Database.count, ← shared, present]
  have after : q.count? (q.apply (q.run fs [.opening a, .opening b]) (.saving a s)).2 b =
      some (.ok (rows ++ [Row.ofStored s]).length) := by
    rw [(carries.saving present s).2.count?, Database.count, ← shared, Database.rows?_mapRows _ present]
  have admitted : Admitted names ([.opening a] ++ [.opening b]) := .opening (.opening .nil first) second
  have counted := (coexist.apart _ admitted a b (by simp) (by simp) other s).2
  simp only [List.singleton_append, before, after] at counted
  simp at counted

theorem Fresh.compatible : Compatible names := by
  refine ⟨?_, ?_, ?_, ?_⟩
  · intro a member
    obtain ⟨db, notes, done, _⟩ := fresh.setUp_first coexist member
    exact isReserved_of_setUp (named a member) done
  · intro a member
    obtain ⟨db, notes, done, _⟩ := fresh.setUp_first coexist member
    exact apart_of_setUp (named a member) done
  · intro a first b second same
    exact fresh.eq_of_sameName named coexist first second same
  · intro a first b second index member
    obtain ⟨db, notes, db', notes', done, again, _⟩ := fresh.setUp_second coexist second first
    exact free_of_setUp (named a first) (named b second) (ready_of_setUp done).1 again member

end Coexist

end Place

section Instances

/-- The file `x.db` in an empty working directory. -/
def newFile : Place := ⟨[], "x.db", ["x.db"]⟩

theorem newFile_fresh : newFile.Fresh {} {} where
  home := rfl
  made := createDirAll_of_isDirectory (.inl above_newFile)
  reached := ⟨none, target?_newFile, rfl⟩
  lasting scheme := absurd scheme (by decide)

theorem accepted_of_valid {name : String}
    (valid : ({ store := { collection := name } } : Settings).defect? = none) : Accepted name := by
  refine ⟨{ store := { collection := name } }, ?_, rfl⟩
  rw [Settings.validate, valid]

end Instances

end Harvest.Store
