import Harvest.Pipeline.Basic
import Harvest.Proofs.Store.Rows
import Harvest.Proofs.Store.Tables
import Harvest.Store.Memory

/-!
What stores answer, apart from the identifiers and the times that they add. A collection answers whatever is asked of it
as a list of records does: row by row it holds the same records.
-/

namespace Harvest.Store

/-- What is asked of a store, which may be closed and opened again in between. -/
inductive Request
  | save (r : Record)
  | find (url : String)
  | count
  | reopen

/-- An answer, of stored records only what is not the store's own. -/
inductive Answer
  | saved (r : Record)
  | found (r : Option Record)
  | counted (n : Nat)
  | reopened

section Serving

variable {σ : Type} (store : RecordStore σ) (reopen : σ → Except Failure σ)

/-- One answer, with the state after it; a record that is saved gets an identity. -/
def serve (identity : Pipeline.Identity) (s : σ) : Request → Except Failure Answer × σ
  | .save r =>
    let (answer, s) := store.append ⟨identity.id, r, identity.createdAt⟩ s
    (answer.map fun _ => .saved r, s)
  | .find url =>
    let (answer, s) := store.find url s
    (answer.map fun found => .found (found.map StoredRecord.record), s)
  | .count =>
    let (answer, s) := store.count s
    (answer.map .counted, s)
  | .reopen =>
    match reopen s with
    | .ok s => (.ok .reopened, s)
    | .error f => (.error f, s)

/-- The answers to requests one after the other, the `n`-th of them with the `n`-th identity. -/
def answers (identity : Nat → Pipeline.Identity) : Nat → σ → List Request → List (Except Failure Answer)
  | _, _, [] => []
  | n, s, request :: requests =>
    let (answer, s) := serve store reopen (identity n) s request
    answer :: answers identity (n + 1) s requests

/-- Two stores that answer every request alike, as long as they are in related states, answer all alike. -/
theorem answers_eq_of_serve {τ : Type} {store : RecordStore σ} {reopen : σ → Except Failure σ}
    {other : RecordStore τ} {reopen' : τ → Except Failure τ} {Related : σ → τ → Prop} {Asked : Request → Prop}
    (step : ∀ {s t request} (i i' : Pipeline.Identity), Related s t → Asked request →
      (serve store reopen i s request).1 = (serve other reopen' i' t request).1 ∧
        Related (serve store reopen i s request).2 (serve other reopen' i' t request).2)
    (identity identity' : Nat → Pipeline.Identity) {requests : List Request} {n n' : Nat} {s : σ} {t : τ}
    (related : Related s t) (asked : ∀ request ∈ requests, Asked request) :
    answers store reopen identity n s requests = answers other reopen' identity' n' t requests := by
  induction requests generalizing n n' s t with
  | nil => rfl
  | cons request requests ih =>
    rw [List.forall_mem_cons] at asked
    obtain ⟨same, next⟩ := step (identity n) (identity' n') related asked.1
    rw [answers, answers]
    dsimp only
    rw [same, ih next asked.2]

end Serving

/-- The answers of a list of records, for which it makes no difference whether it is closed in between. -/
def memoryAnswers (identity : Nat → Pipeline.Identity) (requests : List Request) : List (Except Failure Answer) :=
  answers Memory.store .ok identity 0 [] requests

/-- A list of records never fails. -/
theorem memory_serve_ok (identity : Pipeline.Identity) (m : Memory) (request : Request) :
    ∃ answer, (serve Memory.store .ok identity m request).1 = .ok answer := by
  cases request <;> exact ⟨_, rfl⟩

theorem memoryAnswers_ok (identity : Nat → Pipeline.Identity) (requests : List Request) :
    ∀ answer ∈ memoryAnswers identity requests, ∃ a, answer = .ok a := by
  have each : ∀ n m, ∀ answer ∈ answers Memory.store .ok identity n m requests, ∃ a, answer = .ok a := by
    induction requests with
    | nil => exact fun _ _ => List.forall_mem_nil _
    | cons request requests ih =>
      intro n m
      rw [answers, List.forall_mem_cons]
      exact ⟨memory_serve_ok (identity n) m request, ih (n + 1) _⟩
  exact each 0 []

/-- Requests for which everything that is saved comes from some text, with numbers that come back from theirs. -/
def Request.IsDecoded : Request → Prop
  | save r => (∃ text, Record.parse text = .ok r) ∧ ∀ n ∈ r.numbers, Json.IsKept n
  | _ => True

/-- A row that stands for a stored record: it has its URL, and the record that is found through it is the same. -/
def Row.StandsFor (row : Row) (s : StoredRecord) : Prop :=
  row.url = s.record.url ∧ row.toStored.map StoredRecord.record = .ok s.record

/-- A connection through which a collection can be used that holds the same records as a list. -/
structure Collection.Mirrors (c : Collection) (m : Memory) : Prop where
  sound : c.broken = false
  writable : c.readOnly = false
  ready : c.database.Ready c.name
  rows : ∃ rows, c.database.rows? c.name = some rows ∧ List.Forall₂ Row.StandsFor rows m

theorem find?_forall₂ {rows : List Row} {m : Memory} (stand : List.Forall₂ Row.StandsFor rows m) (url : String) :
    Option.Rel Row.StandsFor (rows.find? (·.url = url)) (m.findByUrl url) := by
  induction stand with
  | nil => exact .none
  | @cons row s rows m here _ ih =>
    rw [Memory.findByUrl, List.find?_cons, List.find?_cons, here.1]
    split
    · exact .some here
    · exact ih

namespace Collection

variable {c : Collection} {m : Memory}

theorem call_of_sound {α : Type} (sound : c.broken = false) (f : Database → Except Failure α × Database) :
    c.call f = ((f c.database).1, { c with database := (f c.database).2 }) := by
  rw [call, sound]
  rfl

namespace Mirrors

variable (mirrors : c.Mirrors m)

include mirrors

/-- The connection is as a new one to its database. -/
theorem connected_eq : ({ database := c.database, name := c.name } : Collection) = c := by
  have sound := mirrors.sound
  have writable := mirrors.writable
  obtain ⟨database, name, broken, readOnly⟩ := c
  subst sound writable
  rfl

theorem insert_eq (s : StoredRecord) :
    c.insert s = (.ok (), { c with database := c.database.mapRows c.name (· ++ [.ofStored s]) }) := by
  obtain ⟨rows, present, _⟩ := mirrors.rows
  rw [insert, call_of_sound mirrors.sound, mirrors.writable]
  simp only [Bool.false_eq_true, ↓reduceIte, Database.insert, present]

/-- A record that is saved on both sides, with an identity of its own on each. -/
theorem append {s s' : StoredRecord} {text : String} (read : Record.parse text = .ok s.record)
    (kept : ∀ n ∈ s.record.numbers, Json.IsKept n) (same : s'.record = s.record) :
    (c.insert s).2.Mirrors (m ++ [s']) := by
  obtain ⟨rows, present, stand⟩ := mirrors.rows
  have row : (Row.ofStored s).StandsFor s' := by
    refine ⟨congrArg Record.url same.symm, ?_⟩
    rw [toStored_ofStored read kept, same]
    rfl
  rw [mirrors.insert_eq]
  exact ⟨mirrors.sound, mirrors.writable, mirrors.ready.mapRows _,
    rows ++ [.ofStored s], Database.rows?_mapRows _ present, List.rel_append stand (.cons row .nil)⟩

theorem find_eq (url : String) : ∃ answer, c.find url = (answer, c) ∧
    answer.map (Option.map StoredRecord.record) = .ok ((m.findByUrl url).map StoredRecord.record) := by
  obtain ⟨rows, present, stand⟩ := mirrors.rows
  refine ⟨c.database.find c.name url, call_of_sound mirrors.sound _, ?_⟩
  have match_found := find?_forall₂ stand url
  rw [Database.find, present]
  dsimp only
  generalize rows.find? _ = row, m.findByUrl url = s at match_found ⊢
  cases match_found with
  | none => rfl
  | some here =>
    obtain ⟨stored, read, same⟩ := map_eq_ok.1 here.2
    simp [read, same, Except.map]

theorem count_eq : c.count = (.ok m.length, c) := by
  obtain ⟨rows, present, stand⟩ := mirrors.rows
  rw [count, call_of_sound mirrors.sound, Database.count, present, ← stand.length_eq]

end Mirrors

/-- A request other than an opening is answered alike, and both sides still hold the same records. -/
theorem Mirrors.serve (mirrors : c.Mirrors m) {request : Request} (decoded : request.IsDecoded)
    (stays : request ≠ .reopen) (reopen : Collection → Except Failure Collection)
    (identity identity' : Pipeline.Identity) :
    (Store.serve store reopen identity c request).1 = (Store.serve Memory.store .ok identity' m request).1 ∧
      (Store.serve store reopen identity c request).2.Mirrors (Store.serve Memory.store .ok identity' m request).2 := by
  cases request with
  | save r =>
    obtain ⟨⟨text, read⟩, kept⟩ := decoded
    have next : (c.insert ⟨identity.id, r, identity.createdAt⟩).2.Mirrors
        (m ++ [⟨identity'.id, r, identity'.createdAt⟩]) :=
      mirrors.append read kept rfl
    refine ⟨?_, next⟩
    simp only [Store.serve, store, mirrors.insert_eq]
    rfl
  | find url =>
    obtain ⟨answer, found, same⟩ := mirrors.find_eq url
    obtain ⟨row, answered, records⟩ := map_eq_ok.1 same
    simp only [Store.serve, store, found, answered]
    refine ⟨?_, mirrors⟩
    rw [Except.map, records]
    rfl
  | count =>
    simp only [Store.serve, store, mirrors.count_eq]
    exact ⟨rfl, mirrors⟩
  | reopen => exact absurd rfl stays

theorem mirrors_nil (sound : c.broken = false) (writable : c.readOnly = false) (ready : c.database.Ready c.name)
    (empty : c.count.1 = .ok 0) : c.Mirrors [] := by
  refine ⟨sound, writable, ready, ?_⟩
  rw [count, call_of_sound sound, Database.count] at empty
  cases present : c.database.rows? c.name with
  | none =>
    rw [present] at empty
    cases empty
  | some rows =>
    rw [present] at empty
    have none_there : rows = [] := List.length_eq_zero_iff.1 (Except.ok.inj empty)
    exact ⟨[], by rw [none_there], .nil⟩

/-- A collection of a new database in memory. -/
theorem mirrors_of_create {name : String} {notes : List Log.Entry} (created : create name = (.ok c, notes)) :
    c.Mirrors [] := by
  unfold create at created
  split at created
  · rename_i db notes done
    cases created
    obtain ⟨ready, object, named, tables⟩ := Database.ready_of_setUp done
    refine ⟨rfl, rfl, ready, [], ?_, .nil⟩
    rw [Database.rows?_eq_some]
    rcases tables with none_made | made
    · obtain ⟨_, object', named', collected⟩ := ready
      have present := collected.table
      rw [Database.hasTable, collected.apart, Database.table?, none_made] at present
      cases present
    · exact ⟨object, ⟨object, []⟩, named, by simp [Database.table?, made], rfl⟩
  · cases created

end Collection

end Harvest.Store
