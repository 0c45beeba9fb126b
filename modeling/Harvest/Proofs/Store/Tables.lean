import Harvest.Store.Collection

/-!
Collections that are set up. Setting one up again changes nothing, and neither the rows of a table nor those of another
matter for it.
-/

namespace Harvest.Store.Database

variable {db db' : Database} {name index table collection : String}

@[simp] theorem sameName_self (name : String) : sameName name name = true := decide_eq_true rfl

/-- Whether a collection's table and its indexes are there. -/
structure HasCollection (db : Database) (name : String) : Prop where
  unreserved : isReserved name = false
  apart : db.isVersionTable name = false
  table : db.hasTable name = true
  indexes : ∀ index ∈ indexNames name, db.hasTable index = false ∧ db.hasIndex index = true

/-- Whether a collection is set up. -/
def Ready (db : Database) (collection : String) : Prop :=
  db.currentVersion ≠ 0 ∧ ∃ name, objectName? collection = some name ∧ db.HasCollection name

theorem createTable_eq_some (created : db.createTable name = some db') :
    isReserved name = false ∧ db'.hasTable name = true ∧ db'.version = db.version ∧
      (db'.tables = db.tables ∨ db'.tables = db.tables ++ [⟨name, []⟩]) := by
  unfold createTable at created
  split at created
  · cases created
  · rename_i unreserved
    split at created
    · rename_i present
      cases created
      exact ⟨by simpa using unreserved, present, rfl, .inl rfl⟩
    · split at created
      · cases created
      · cases created
        exact ⟨by simpa using unreserved, by simp [hasTable, table?], rfl, .inr rfl⟩

theorem createIndex_eq_some (created : db.createIndex index table = some db') :
    db.isVersionTable table = false ∧ db.hasTable index = false ∧ db'.hasIndex index = true ∧
      db'.version = db.version ∧ db'.tables = db.tables ∧
      ∀ other, db.hasIndex other = true → db'.hasIndex other = true := by
  unfold createIndex at created
  split at created
  · cases created
  · rename_i apart
    split at created
    · cases created
    · rename_i free
      split at created
      · rename_i present
        cases created
        exact ⟨by simpa using apart, by simpa using free, present, rfl, rfl, fun _ old => old⟩
      · cases created
        refine ⟨by simpa using apart, by simpa using free, by simp [hasIndex], rfl, rfl, fun other old => ?_⟩
        simp only [hasIndex, List.any_append, Bool.or_eq_true] at old ⊢
        exact .inl old

theorem hasTable_congr (version : db'.version = db.version) (tables : db'.tables = db.tables) (name : String) :
    db'.hasTable name = db.hasTable name := by
  rw [hasTable, hasTable, isVersionTable, isVersionTable, table?, table?, version, tables]

theorem attempt_cons_eq_true {step : Database → Option Database} {steps : List (Database → Option Database)}
    (done : db.attempt (step :: steps) = (true, db')) :
    ∃ next, step db = some next ∧ next.attempt steps = (true, db') := by
  rw [attempt] at done
  split at done
  · exact ⟨_, ‹_›, done⟩
  · cases done

theorem attempt_of_fixed {steps : List (Database → Option Database)} (fixed : ∀ step ∈ steps, step db = some db) :
    db.attempt steps = (true, db) := by
  induction steps with
  | nil => rfl
  | cons step steps ih =>
    rw [List.forall_mem_cons] at fixed
    rw [attempt, fixed.1]
    exact ih fixed.2

/-- The tables after a collection was created: as before, or with an empty one at the end. -/
def GainsAtMost (name : String) (db db' : Database) : Prop :=
  db'.version = db.version ∧ (db'.tables = db.tables ∨ db'.tables = db.tables ++ [⟨name, []⟩])

theorem hasCollection_of_attempt
    (done : db.attempt ((createTable · name) :: (indexNames name).map fun i => (createIndex · i name)) = (true, db')) :
    db'.HasCollection name ∧ GainsAtMost name db db' := by
  obtain ⟨first, table_made, done⟩ := attempt_cons_eq_true done
  obtain ⟨second, url_made, done⟩ := attempt_cons_eq_true done
  obtain ⟨third, task_made, done⟩ := attempt_cons_eq_true done
  cases done
  obtain ⟨unreserved, table, version, tables⟩ := createTable_eq_some table_made
  obtain ⟨apart, url_free, url, url_version, url_tables, url_kept⟩ := createIndex_eq_some url_made
  obtain ⟨_, task_free, task, task_version, task_tables, task_kept⟩ := createIndex_eq_some task_made
  have version' : db'.version = first.version := task_version.trans url_version
  have tables' : db'.tables = first.tables := task_tables.trans url_tables
  refine ⟨⟨unreserved, ?_, ?_, ?_⟩, version'.trans version, ?_⟩
  · rw [isVersionTable, version']
    exact apart
  · rw [hasTable_congr version' tables']
    exact table
  · rw [hasTable_congr url_version url_tables] at task_free
    intro index member
    rw [hasTable_congr version' tables']
    rcases List.mem_cons.1 member with rfl | member
    · exact ⟨url_free, task_kept _ url⟩
    · obtain rfl := List.mem_singleton.1 member
      exact ⟨task_free, task⟩
  · rw [tables']
    exact tables

theorem createCollection_eq_ok (created : db.createCollection collection = (.ok (), db')) :
    ∃ name, objectName? collection = some name ∧ db'.HasCollection name ∧ GainsAtMost name db db' := by
  unfold createCollection at created
  split at created
  rename_i done next made
  split at made
  · cases made
    cases created
  · rename_i name named
    obtain ⟨answer, rfl⟩ := Prod.mk.inj created
    cases done with
    | false => cases answer
    | true =>
      obtain ⟨collected, gains⟩ := hasCollection_of_attempt made
      exact ⟨name, named, collected, gains⟩

theorem createCollection_of_hasCollection (named : objectName? collection = some name)
    (collected : db.HasCollection name) : db.createCollection collection = (.ok (), db) := by
  have fixed : ∀ step ∈ (createTable · name) :: (indexNames name).map fun i => (createIndex · i name),
      step db = some db := by
    rw [List.forall_mem_cons, List.forall_mem_map]
    refine ⟨?_, fun index member => ?_⟩
    · simp [createTable, collected.unreserved, collected.table]
    · obtain ⟨free, present⟩ := collected.indexes index member
      simp [createIndex, collected.apart, free, present]
  rw [createCollection, named]
  simp only [attempt_of_fixed fixed, ↓reduceIte]

theorem setUp_eq_ok {notes : List Log.Entry} (done : db.setUp collection = (.ok (), db', notes)) :
    ∃ start : Database, start.currentVersion ≠ 0 ∧ start.tables = db.tables ∧
      start.createCollection collection = (.ok (), db') := by
  by_cases fresh : db.currentVersion = 0
  · rw [setUp, if_pos fresh] at done
    dsimp only at done
    split at done
    · rename_i created
      cases done
      exact ⟨{ db with version := .holds schemaVersion }, Int.one_ne_zero, rfl, created⟩
    · cases done
  · rw [setUp, if_neg fresh] at done
    dsimp only at done
    split at done
    · rename_i created
      cases done
      exact ⟨_, fresh, rfl, created⟩
    · cases done

/-- A collection that was set up is ready. -/
theorem ready_of_setUp {notes : List Log.Entry} (done : db.setUp collection = (.ok (), db', notes)) :
    db'.Ready collection ∧ ∃ name, objectName? collection = some name ∧
      (db'.tables = db.tables ∨ db'.tables = db.tables ++ [⟨name, []⟩]) := by
  obtain ⟨start, versioned, same, created⟩ := setUp_eq_ok done
  obtain ⟨name, named, collected, version, tables⟩ := createCollection_eq_ok created
  refine ⟨⟨?_, name, named, collected⟩, name, named, same ▸ tables⟩
  rw [currentVersion, version]
  exact versioned

/-- Setting up a collection that is ready changes nothing. -/
theorem setUp_of_ready (ready : db.Ready collection) : ∃ notes, db.setUp collection = (.ok (), db, notes) := by
  obtain ⟨versioned, name, named, collected⟩ := ready
  rw [setUp, if_neg versioned]
  simp only [createCollection_of_hasCollection named collected]
  exact ⟨_, rfl⟩

section Rows

variable {rows : List Row} (f : List Row → List Row)

theorem table?_mapRows (named : objectName? collection = some name) (other : String) :
    (db.mapRows collection f).table? other = (db.table? other).map fun t =>
      if sameName t.name name then { t with rows := f t.rows } else t := by
  have kept : ((fun t : Table => sameName t.name other) ∘ fun t : Table =>
      if sameName t.name name then { t with rows := f t.rows } else t) = fun t => sameName t.name other := by
    funext t
    simp only [Function.comp_apply]
    split <;> rfl
  rw [mapRows, named, table?, List.find?_map, kept]
  rfl

theorem rows?_eq_some : db.rows? collection = some rows ↔
    ∃ name t, objectName? collection = some name ∧ db.table? name = some t ∧ t.rows = rows := by
  simp [rows?, Option.bind_eq_some_iff]

theorem rows?_mapRows (present : db.rows? collection = some rows) :
    (db.mapRows collection f).rows? collection = some (f rows) := by
  obtain ⟨name, t, named, found, rfl⟩ := rows?_eq_some.1 present
  have same : sameName t.name name = true := by
    rw [table?] at found
    simpa using List.find?_some found
  refine rows?_eq_some.2 ⟨name, { t with rows := f t.rows }, named, ?_, rfl⟩
  rw [table?_mapRows f named, found, Option.map_some, if_pos same]

theorem Ready.mapRows (ready : db.Ready collection) : (db.mapRows collection f).Ready collection := by
  obtain ⟨versioned, name, named, unreserved, apart, table, indexes⟩ := ready
  have version : (db.mapRows collection f).version = db.version := by rw [Database.mapRows, named]
  have indexes_same : (db.mapRows collection f).indexes = db.indexes := by rw [Database.mapRows, named]
  have version_table (other : String) : (db.mapRows collection f).isVersionTable other = db.isVersionTable other := by
    rw [isVersionTable, isVersionTable, version]
  have tables (other : String) : (db.mapRows collection f).hasTable other = db.hasTable other := by
    rw [hasTable, hasTable, version_table, table?_mapRows f named, Option.isSome_map]
  refine ⟨?_, name, named, unreserved, ?_, ?_, ?_⟩
  · rw [currentVersion, version]
    exact versioned
  · rw [version_table]
    exact apart
  · rw [tables]
    exact table
  · intro index member
    rw [tables, hasIndex, indexes_same]
    exact indexes index member

end Rows

end Harvest.Store.Database
