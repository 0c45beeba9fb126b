import Harvest.Proofs.Store.Tables
import Harvest.Settings.Validation

/-!
Names of collections in one database. A collection takes a name for its table and two for its indexes; collections whose
names do not meet those of others, nor those that the engine or the schema has taken, never stand in each other's way.
-/

namespace Harvest.Store

theorem sameName_iff {a b : String} : sameName a b = true ↔ a.map Char.toLower = b.map Char.toLower :=
  decide_eq_true_iff

theorem sameName_iff_toList {a b : String} :
    sameName a b = true ↔ a.toList.map Char.toLower = b.toList.map Char.toLower := by
  rw [sameName_iff, ← String.toList_inj, String.toList_map, String.toList_map]

theorem sameName_congr {a b : String} (same : sameName a b = true) (c : String) : sameName a c = sameName b c := by
  rw [sameName, sameName, sameName_iff.1 same]

theorem sameName_comm (a b : String) : sameName a b = sameName b a := decide_eq_decide.2 eq_comm

theorem sameName_congr_right {a b : String} (same : sameName a b = true) (c : String) :
    sameName c a = sameName c b := by
  rw [sameName, sameName, sameName_iff.1 same]

theorem unquoteChars_of_plain {cs : List Char} (plain : ∀ c ∈ cs, c ≠ '"' ∧ c ≠ '\x00') :
    unquoteChars cs = some cs := by
  induction cs with
  | nil => rfl
  | cons c cs ih =>
    obtain ⟨⟨no_quote, no_zero⟩, plain⟩ := List.forall_mem_cons.1 plain
    rw [unquoteChars, if_neg (not_or.2 ⟨no_quote, no_zero⟩), ih plain]
    · rfl
    · rintro rest rfl
      exact absurd rfl no_quote

theorem objectName?_of_isIdentifier {name : String} (identifier : Settings.isIdentifier name = true) :
    objectName? name = some name := by
  have plain : ∀ c ∈ name.toList, c ≠ '"' ∧ c ≠ '\x00' := by
    have part : ∀ c, Settings.isIdentifierPart c = true → c ≠ '"' ∧ c ≠ '\x00' := by
      rintro c part
      constructor <;> rintro rfl <;> exact absurd part (by decide)
    unfold Settings.isIdentifier at identifier
    split at identifier
    · cases identifier
    · rename_i c cs whole
      rw [Bool.and_eq_true, List.all_eq_true] at identifier
      obtain ⟨first, rest⟩ := identifier
      rw [whole, List.forall_mem_cons]
      refine ⟨part c ?_, fun d member => part d (rest d member)⟩
      simp only [Settings.isIdentifierStart, Settings.isIdentifierPart, Char.isAlphanum, Bool.or_eq_true] at first ⊢
      exact first.imp_left .inl
  rw [objectName?, unquoteChars_of_plain plain, Option.map_some, String.ofList_toList]

namespace Database

/-- The names of collections that can be in one database. -/
structure Compatible (names : List String) : Prop where
  unreserved : ∀ a ∈ names, isReserved a = false
  apart : ∀ a ∈ names, sameName a VersionTable.name = false
  distinct : ∀ a ∈ names, ∀ b ∈ names, sameName a b = true → a = b
  free : ∀ a ∈ names, ∀ b ∈ names, ∀ index ∈ indexNames b, sameName a index = false

instance (names : List String) : Decidable (Compatible names) :=
  decidable_of_iff
    ((∀ a ∈ names, isReserved a = false) ∧ (∀ a ∈ names, sameName a VersionTable.name = false) ∧
      (∀ a ∈ names, ∀ b ∈ names, sameName a b = true → a = b) ∧
      ∀ a ∈ names, ∀ b ∈ names, ∀ index ∈ indexNames b, sameName a index = false)
    ⟨fun ⟨unreserved, apart, distinct, free⟩ => ⟨unreserved, apart, distinct, free⟩,
      fun ⟨unreserved, apart, distinct, free⟩ => ⟨unreserved, apart, distinct, free⟩⟩

/-- A database in which nothing has been made but collections of these names. -/
structure Tidy (names : List String) (db : Database) : Prop where
  version : db.version = .missing ∨ db.currentVersion ≠ 0
  tables : ∀ t ∈ db.tables, t.name ∈ names
  indexes : ∀ index ∈ db.indexes, ∃ a ∈ names, index ∈ indexNames a

variable {names : List String} {db db' : Database} {a b index : String}

theorem tidy_empty (names : List String) : Tidy names {} :=
  ⟨.inl rfl, List.forall_mem_nil _, List.forall_mem_nil _⟩

theorem index_apart (member : index ∈ indexNames a) : sameName index VersionTable.name = false := by
  have first : index.toList.head? = some 'i' := by
    simp only [indexNames, List.mem_cons, List.not_mem_nil, or_false] at member
    rcases member with rfl | rfl <;> simp [toString]
  rw [Bool.eq_false_iff, Ne, sameName_iff]
  intro same
  have firsts : (index.toList.head?).map Char.toLower = some 's' := by
    rw [← List.head?_map, ← String.toList_map, same, String.toList_map]
    decide
  rw [first] at firsts
  exact absurd firsts (by decide)

namespace Tidy

section Names

variable (tidy : Tidy names db) (compatible : Compatible names)

include tidy compatible

theorem hasTable_index (owner : b ∈ names) (member : index ∈ indexNames b) : db.hasTable index = false := by
  have apart : db.isVersionTable index = false := by
    rw [isVersionTable, index_apart member, Bool.and_false]
  have absent : db.table? index = none := by
    rw [table?, List.find?_eq_none]
    intro t inside
    rw [compatible.free t.name (tidy.tables t inside) b owner index member]
    exact Bool.false_ne_true
  rw [hasTable, apart, absent]
  rfl

omit tidy in
theorem isVersionTable_name (member : a ∈ names) : db.isVersionTable a = false := by
  rw [isVersionTable, compatible.apart a member, Bool.and_false]

theorem hasIndex_name (member : a ∈ names) : db.hasIndex a = false := by
  rw [hasIndex, List.any_eq_false]
  intro index inside
  obtain ⟨b, owner, belongs⟩ := tidy.indexes index inside
  rw [sameName_comm, compatible.free a member b owner index belongs]
  exact Bool.false_ne_true

theorem createTable (member : a ∈ names) : ∃ db', db.createTable a = some db' ∧ Tidy names db' := by
  unfold Database.createTable
  rw [compatible.unreserved a member, tidy.hasIndex_name compatible member]
  simp only [Bool.false_eq_true, ↓reduceIte]
  split
  · exact ⟨db, rfl, tidy⟩
  · refine ⟨_, rfl, tidy.version, ?_, tidy.indexes⟩
    exact List.forall_mem_append.2 ⟨tidy.tables, List.forall_mem_singleton.2 member⟩

theorem createIndex (owner : a ∈ names) (member : index ∈ indexNames a) :
    ∃ db', db.createIndex index a = some db' ∧ Tidy names db' := by
  unfold Database.createIndex
  rw [isVersionTable_name compatible owner, tidy.hasTable_index compatible owner member]
  simp only [Bool.false_eq_true, ↓reduceIte]
  split
  · exact ⟨db, rfl, tidy⟩
  · refine ⟨_, rfl, tidy.version, tidy.tables, ?_⟩
    exact List.forall_mem_append.2 ⟨tidy.indexes, List.forall_mem_singleton.2 ⟨a, owner, member⟩⟩

end Names

/-- Steps that each succeed on what the ones before have left. -/
theorem attempt (tidy : Tidy names db) {steps : List (Database → Option Database)}
    (each : ∀ step ∈ steps, ∀ db, Tidy names db → ∃ db', step db = some db' ∧ Tidy names db') :
    ∃ db', db.attempt steps = (true, db') ∧ Tidy names db' := by
  induction steps generalizing db with
  | nil => exact ⟨db, rfl, tidy⟩
  | cons step steps ih =>
    obtain ⟨here, later⟩ := List.forall_mem_cons.1 each
    obtain ⟨next, done, tidy⟩ := here db tidy
    rw [Database.attempt, done]
    exact ih tidy later

theorem createCollection (tidy : Tidy names db) (compatible : Compatible names) (named : objectName? a = some a)
    (member : a ∈ names) : ∃ db', db.createCollection a = (.ok (), db') ∧ Tidy names db' := by
  have each : ∀ step ∈ (Database.createTable · a) :: (indexNames a).map fun i => (Database.createIndex · i a),
      ∀ db, Tidy names db → ∃ db', step db = some db' ∧ Tidy names db' := by
    rw [List.forall_mem_cons, List.forall_mem_map]
    exact ⟨fun db tidy => tidy.createTable compatible member,
      fun index belongs db tidy => tidy.createIndex compatible member belongs⟩
  obtain ⟨db', done, tidy⟩ := tidy.attempt each
  refine ⟨db', ?_, tidy⟩
  rw [Database.createCollection, named]
  simp only [done, ↓reduceIte]

/-- A collection can be set up whatever collections are there already. -/
theorem setUp (tidy : Tidy names db) (compatible : Compatible names) (named : objectName? a = some a)
    (member : a ∈ names) : ∃ db' notes, db.setUp a = (.ok (), db', notes) ∧ Tidy names db' := by
  rw [Database.setUp]
  by_cases fresh : db.currentVersion = 0
  · have versioned : Tidy names { db with version := .holds schemaVersion } :=
      ⟨.inr Int.one_ne_zero, tidy.tables, tidy.indexes⟩
    obtain ⟨db', created, tidy⟩ := versioned.createCollection compatible named member
    rw [if_pos fresh]
    simp only [created]
    exact ⟨db', _, rfl, tidy⟩
  · obtain ⟨db', created, tidy⟩ := tidy.createCollection compatible named member
    rw [if_neg fresh]
    simp only [created]
    exact ⟨db', _, rfl, tidy⟩

theorem mapRows (tidy : Tidy names db) (collection : String) (f : List Row → List Row) :
    Tidy names (db.mapRows collection f) := by
  unfold Database.mapRows
  split
  · exact tidy
  · refine ⟨tidy.version, ?_, tidy.indexes⟩
    rw [List.forall_mem_map]
    intro t inside
    split <;> exact tidy.tables t inside

/-- The rows of a collection stay when those of another one change. -/
theorem rows?_mapRows (tidy : Tidy names db) (compatible : Compatible names) (named : objectName? a = some a)
    (named' : objectName? b = some b) (first : a ∈ names) (second : b ∈ names) (other : a ≠ b)
    (f : List Row → List Row) : (db.mapRows a f).rows? b = db.rows? b := by
  have same : (db.mapRows a f).table? b = db.table? b := by
    rw [table?_mapRows f named]
    cases found : db.table? b with
    | none => rfl
    | some t =>
      have inside : t.name ∈ names := tidy.tables t (List.mem_of_find?_eq_some found)
      have here : sameName t.name b = true := by
        rw [table?] at found
        simpa using List.find?_some found
      have elsewhere : ¬sameName t.name a = true := by
        intro there
        have owner := compatible.distinct t.name inside a first there
        have owner' := compatible.distinct t.name inside b second here
        exact other (owner.symm.trans owner')
      rw [Option.map_some, if_neg elsewhere]
  rw [rows?, rows?, named', Option.bind_some, Option.bind_some, same]

end Tidy

section SetUp

variable {notes : List Log.Entry}

theorem table?_congr (same : sameName a b = true) (db : Database) : db.table? a = db.table? b := by
  have each : (fun t : Table => sameName t.name a) = fun t => sameName t.name b :=
    funext fun t => sameName_congr_right same t.name
  rw [table?, table?, each]

theorem rows?_congr (named : objectName? a = some a) (named' : objectName? b = some b) (same : sameName a b = true)
    (db : Database) : db.rows? a = db.rows? b := by
  rw [rows?, rows?, named, named', Option.bind_some, Option.bind_some, table?_congr same]

/-- A collection has rows, whatever is done to those of another. -/
theorem rows?_mapRows_present (f : List Row → List Row) (collection : String)
    (present : ∃ rows, db.rows? a = some rows) : ∃ rows, (db.mapRows collection f).rows? a = some rows := by
  obtain ⟨rows, present⟩ := present
  obtain ⟨name, t, named, found, -⟩ := rows?_eq_some.1 present
  cases quoted : objectName? collection with
  | none =>
    rw [mapRows, quoted]
    exact ⟨rows, present⟩
  | some other =>
    have still : ∃ t, (db.mapRows collection f).table? name = some t := by
      rw [table?_mapRows f quoted, found]
      exact ⟨_, rfl⟩
    obtain ⟨t', still⟩ := still
    exact ⟨t'.rows, rows?_eq_some.2 ⟨name, t', named, still, rfl⟩⟩

/-- A collection that was set up has its table, and those that were there before still have theirs. -/
theorem rows?_of_setUp (done : db.setUp a = (.ok (), db', notes)) :
    (∃ rows, db'.rows? a = some rows) ∧ ∀ b rows, db.rows? b = some rows → db'.rows? b = some rows := by
  obtain ⟨⟨_, name, named, collected⟩, object, _, tables⟩ := ready_of_setUp done
  refine ⟨?_, ?_⟩
  · have present := collected.table
    rw [hasTable, collected.apart, Bool.false_or, Option.isSome_iff_exists] at present
    obtain ⟨t, found⟩ := present
    exact ⟨t.rows, rows?_eq_some.2 ⟨name, t, named, found, rfl⟩⟩
  · intro b rows present
    obtain ⟨other, t, named', found, held⟩ := rows?_eq_some.1 present
    refine rows?_eq_some.2 ⟨other, t, named', ?_, held⟩
    rw [table?] at found ⊢
    rcases tables with same | more
    · rwa [same]
    · rw [more, List.find?_append, found]
      rfl

theorem isReserved_of_setUp (named : objectName? a = some a) (done : db.setUp a = (.ok (), db', notes)) :
    isReserved a = false := by
  obtain ⟨⟨_, name, named', collected⟩, _⟩ := ready_of_setUp done
  obtain rfl := Option.some.inj (named.symm.trans named')
  exact collected.unreserved

theorem apart_of_setUp (named : objectName? a = some a) (done : db.setUp a = (.ok (), db', notes)) :
    sameName a VersionTable.name = false := by
  obtain ⟨⟨versioned, name, named', collected⟩, _⟩ := ready_of_setUp done
  obtain rfl := Option.some.inj (named.symm.trans named')
  have there : db'.version ≠ .missing := by
    intro missing
    rw [currentVersion, missing] at versioned
    exact versioned rfl
  simpa [isVersionTable, there] using collected.apart

/-- A collection cannot have the name of an index that is there. -/
theorem free_of_setUp (named : objectName? a = some a) (named' : objectName? b = some b) (ready : db.Ready b)
    (done : db.setUp a = (.ok (), db', notes)) (member : index ∈ indexNames b) : sameName a index = false := by
  rw [Bool.eq_false_iff]
  intro same
  obtain ⟨versioned, name, named_b, collected⟩ := ready
  obtain rfl := Option.some.inj (named'.symm.trans named_b)
  obtain ⟨free, present⟩ := collected.indexes index member
  have no_table : db.hasTable a = false := by
    rw [hasTable, isVersionTable, sameName_congr same, table?_congr same, ← isVersionTable, ← hasTable, free]
  have indexed : db.hasIndex a = true := by
    have each : (sameName · a) = (sameName · index) := funext (sameName_congr_right same)
    rw [hasIndex, each, ← hasIndex, present]
  have blocked : db.createTable a = none := by
    rw [createTable, no_table, indexed]
    simp
  rw [setUp, if_neg versioned] at done
  simp only [createCollection, named, attempt, blocked, Bool.false_eq_true, ↓reduceIte] at done
  cases done

end SetUp

end Database

end Harvest.Store
