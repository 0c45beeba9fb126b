import Harvest.Proofs.Json.Parts
import Harvest.Proofs.Settings.Environment
import Harvest.Settings.Text

/-!
Where the values of settings come from. Each field has a place in the settings file; main statement: the settings of a
file have what the file says at that place, and the default where it says nothing.
-/

namespace Harvest.Settings

open Json Member

/-- The parts of a settings file that have fields of their own. -/
inductive Section
  | store
  | translation
  | pipeline
deriving DecidableEq

namespace Section

abbrev Value : Section → Type
  | store => Store
  | translation => Translating
  | pipeline => Processing

def name : Section → String
  | store => "store"
  | translation => "translation"
  | pipeline => "pipeline"

def fields : (k : Section) → List (Member k.Value)
  | store => Store.fields
  | translation => Translating.fields
  | pipeline => Processing.fields

def unset : (k : Section) → k.Value
  | store => Store.unset
  | translation => Translating.unset
  | pipeline => Processing.unset

def expected : Section → String
  | store => "struct StoreConfig"
  | translation => "struct TranslationConfig"
  | pipeline => "struct PipelineConfig"

def ofDoc (k : Section) (room : Nat) (d : Doc) : Except Error k.Value :=
  readStruct k.expected k.fields room k.unset d

/-- The section of settings. -/
def part : (k : Section) → Settings → k.Value
  | store => Settings.store
  | translation => Settings.translation
  | pipeline => Settings.pipeline

/-- The settings with a section, and else with defaults. -/
def only : (k : Section) → k.Value → Settings
  | store, v => { store := v }
  | translation, v => { translation := v }
  | pipeline, v => { pipeline := v }

end Section

namespace Field

/-- The section that a field is in, if any. -/
def section? : Field → Option Section
  | taskId | logLevel => none
  | backend | host | port | username | password | authSource | database | collection | dataDir => some .store
  | endpoint | appId | secret | targetLanguage | timeoutSecs | delayMs | mode | delimiter => some .translation
  | variant | dropDuplicates | concurrency => some .pipeline

/-- The name of a field in the file. -/
def name : Field → String
  | taskId => "task_id"
  | backend => "backend"
  | host => "host"
  | port => "port"
  | username => "username"
  | password => "password"
  | authSource => "auth_source"
  | database => "database"
  | collection => "collection"
  | dataDir => "data_dir"
  | endpoint => "endpoint"
  | appId => "app_id"
  | secret => "secret"
  | targetLanguage => "target_language"
  | timeoutSecs => "timeout_secs"
  | delayMs => "delay_ms"
  | mode => "mode"
  | delimiter => "delimiter"
  | variant => "variant"
  | dropDuplicates => "drop_duplicates"
  | concurrency => "concurrency"
  | logLevel => "log_level"

/-- How a value of a field is written in the file. -/
def read : (f : Field) → Nat → Doc → Except Error f.Value
  | taskId, _, d => d.optional (Doc.text "a string")
  | dataDir, _, d => d.optional (Doc.text "path string")
  | backend, room, d => d.choice Backend.all room
  | mode, room, d => d.choice Mode.all room
  | variant, room, d => d.choice Variant.all room
  | logLevel, room, d => d.choice logLevels room
  | port, _, d => (d.natural (Nat.pow 2 16 - 1) "u16").map Nat.toUInt16
  | timeoutSecs, _, d | delayMs, _, d => (d.natural (Nat.pow 2 64 - 1) "u64").map Nat.toUInt64
  | concurrency, _, d => (d.natural (Nat.pow 2 64 - 1) "usize").map Nat.toUInt64
  | dropDuplicates, _, d => d.truth
  | host, _, d | username, _, d | password, _, d | authSource, _, d | database, _, d | collection, _, d
  | endpoint, _, d | appId, _, d | secret, _, d | targetLanguage, _, d | delimiter, _, d => d.text "a string"

end Field

/-- What a settings file has for a field: the value at its place, if there is one. -/
def given (root : Doc) (f : Field) : Option f.Value :=
  match f.section? with
  | none => readPart (f.read (maxRoom - 1)) (root.part? (names fields) f.name)
  | some k =>
    (root.part? (names fields) k.name).bind fun d => readPart (f.read (maxRoom - 2)) (d.part? (names k.fields) f.name)

section Sets

variable {f : Field} {k : Section}

theorem sets_section (inside : f.section? = some k) :
    ∀ m ∈ k.fields, m.Sets f.name (fun v => (k.only v).get f) f.read := by
  cases f <;> cases inside
  all_goals simp only [Section.fields, Store.fields, Translating.fields, Processing.fields, List.forall_mem_cons,
    List.not_mem_nil, false_implies, implies_true, and_true]
  all_goals repeat' apply And.intro
  -- A member with the name of the field puts it, and one with another name leaves it alone.
  all_goals first
    | exact sets_own (fun _ _ => rfl) fun _ _ => rfl
    | exact sets_own (fun _ _ => rfl) fun _ _ => (except_map_id _).symm
    | exact sets_other (by decide) fun _ _ => rfl

theorem sets_sections (k : Section) : ∀ m ∈ fields, m.Sets k.name k.part k.ofDoc := by
  cases k
  all_goals simp only [fields, List.forall_mem_cons, List.not_mem_nil, false_implies, implies_true, and_true]
  all_goals repeat' apply And.intro
  all_goals first
    | exact sets_own (fun _ _ => rfl) fun _ _ => (except_map_id _).symm
    | exact sets_other (by decide) fun _ _ => rfl

theorem sets_outside (outside : f.section? = none) : ∀ m ∈ fields, m.Sets f.name (fun s => s.get f) f.read := by
  cases f <;> cases outside
  all_goals simp only [fields, List.forall_mem_cons, List.not_mem_nil, false_implies, implies_true, and_true]
  all_goals repeat' apply And.intro
  all_goals first
    | exact sets_own (fun _ _ => rfl) fun _ _ => (except_map_id _).symm
    | exact sets_other (by decide) fun _ _ => rfl

theorem name_mem_section (inside : f.section? = some k) : f.name ∈ names k.fields := by
  cases f <;> cases inside <;> decide

theorem name_mem_outside (outside : f.section? = none) : f.name ∈ names fields := by
  cases f <;> cases outside <;> decide

theorem section_name_mem (k : Section) : k.name ∈ names fields := by
  cases k <;> decide

theorem nodup_section (k : Section) : (names k.fields).Nodup := by
  cases k <;> decide

theorem get_only (inside : f.section? = some k) (s : Settings) : (k.only (k.part s)).get f = s.get f := by
  cases f <;> cases inside <;> rfl

theorem get_only_unset (inside : f.section? = some k) : (k.only k.unset).get f = ({} : Settings).get f := by
  cases f <;> cases inside <;> rfl

end Sets

variable {room : Nat}

theorem get_of_section {f : Field} {k : Section} {d : Doc} {v : k.Value} (inside : f.section? = some k)
    (read : k.ofDoc room d = .ok v) :
    (k.only v).get f =
      (readPart (f.read (room - 1)) (d.part? (names k.fields) f.name)).getD (({} : Settings).get f) := by
  have comes := get_of_readStruct (sets_section inside) (name_mem_section inside) (nodup_section k) read
  rw [comes.eq, get_only_unset inside]

/-- The settings of a file have what the file says of each field, and the default where it says nothing. -/
theorem get_of_parse {text : String} {s : Settings} (loads : parse text = .ok s) (f : Field) :
    s.get f = (given (Document.ofText text).root f).getD (({} : Settings).get f) := by
  have read := (decode_eq_ok.1 loads).1
  unfold given
  split
  · rename_i outside
    exact (get_of_readStruct (sets_outside outside) (name_mem_outside outside) (by decide) read).eq
  · rename_i k inside
    have comes := get_of_readStruct (sets_sections k) (section_name_mem k) (by decide) read
    rw [← get_only inside]
    cases place : (Document.ofText text).root.part? (names fields) k.name with
    | none =>
      rw [place] at comes
      have same : k.part s = k.part unset := comes
      rw [same, get_only inside]
      rfl
    | some d =>
      rw [place] at comes
      exact get_of_section inside comes

/-- What an environment has for a field: the value of the field's variable, if it has one that can be used. -/
def Environment.given (e : Environment) : (f : Field) → Option f.Value
  | .taskId => e.value? .taskId
  | .host => e.value? .host
  | .port => e.value? .port
  | .username => e.value? .username
  | .password => e.value? .password
  | .authSource => e.value? .authSource
  | .database => e.value? .database
  | .collection => e.value? .collection
  | .dataDir => e.value? .dataDir
  | .appId => e.value? .appId
  | .secret => e.value? .secret
  | _ => none

theorem Environment.given_field (e : Environment) (v : Variable) : e.given v.field = e.value? v := by
  cases v <;> rfl

theorem get_of_given (s : Settings) (e : Environment) (f : Field) :
    (s.applyEnvironment e).get f = (e.given f).getD (s.get f) := by
  by_cases overridden : ∃ v : Variable, v.field = f
  · obtain ⟨v, rfl⟩ := overridden
    rw [get_applyEnvironment, e.given_field]
  · rw [not_exists] at overridden
    rw [get_applyEnvironment_of_ne s e overridden]
    cases f with
    | taskId => exact absurd rfl (overridden .taskId)
    | host => exact absurd rfl (overridden .host)
    | port => exact absurd rfl (overridden .port)
    | username => exact absurd rfl (overridden .username)
    | password => exact absurd rfl (overridden .password)
    | authSource => exact absurd rfl (overridden .authSource)
    | database => exact absurd rfl (overridden .database)
    | collection => exact absurd rfl (overridden .collection)
    | dataDir => exact absurd rfl (overridden .dataDir)
    | appId => exact absurd rfl (overridden .appId)
    | secret => exact absurd rfl (overridden .secret)
    | _ => rfl

/-- The task id of the environment is its text, unless it is empty. -/
theorem Environment.given_taskId (e : Environment) : e.given .taskId = (e.get? .taskId).map some := by
  have whole : ∀ text : Option String, text.bind (Variable.value? .taskId) = text.map some := by
    rintro (_ | text) <;> rfl
  exact whole (e.get? .taskId)

end Harvest.Settings
