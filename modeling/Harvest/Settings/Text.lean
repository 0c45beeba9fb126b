import Harvest.Json.Decode
import Harvest.Settings.Basic

/-!
Settings as JSON text. Reading takes an object or an array of the settings in their order. A setting that is
missing in its section has a default of its own, and a section that is missing is a default section.
-/

namespace Harvest.Settings

open Json

/-- A text, put into a structure by `set`. -/
def textField {σ : Type} (name : String) (set : String → σ → σ) : Member σ where
  name := name
  read _ d s := (d.text "a string").map fun v => set v s

/-- A whole number below `2 ^ bits`. -/
def numberField {σ : Type} (name expected : String) (bits : Nat) (set : Nat → σ → σ) : Member σ where
  name := name
  read _ d s := (d.natural (Nat.pow 2 bits - 1) expected).map fun v => set v s

/-- One of several names. -/
def choiceField {σ α : Type} (name : String) (choices : List (String × α)) (set : α → σ → σ) :
    Member σ where
  name := name
  read room d s := (d.choice choices room).map fun v => set v s

def Store.fields : List (Member Store) := [
  choiceField "backend" Backend.all fun v s => { s with backend := v },
  textField "host" fun v s => { s with host := v },
  numberField "port" "u16" 16 fun v s => { s with port := v.toUInt16 },
  textField "username" fun v s => { s with username := v },
  textField "password" fun v s => { s with password := v },
  textField "auth_source" fun v s => { s with authSource := v },
  textField "database" fun v s => { s with database := v },
  textField "collection" fun v s => { s with collection := v },
  { name := "data_dir"
    read _ d s := (d.optional (Doc.text "path string")).map fun v => { s with dataDir := v } }]

/-- What the settings that a section lacks are taken to be. -/
def Store.unset : Store :=
  ⟨defaultBackend, defaultHost, defaultPort, "", "", defaultAuthSource, defaultDatabase, defaultCollection, none⟩

def Store.ofDoc (room : Nat) (d : Doc) : Except Error Store :=
  Member.readStruct "struct StoreConfig" fields room unset d

def Translating.fields : List (Member Translating) := [
  textField "endpoint" fun v s => { s with endpoint := v },
  textField "app_id" fun v s => { s with appId := v },
  textField "secret" fun v s => { s with secret := v },
  textField "target_language" fun v s => { s with targetLanguage := v },
  numberField "timeout_secs" "u64" 64 fun v s => { s with timeoutSecs := v.toUInt64 },
  numberField "delay_ms" "u64" 64 fun v s => { s with delayMs := v.toUInt64 },
  choiceField "mode" Mode.all fun v s => { s with mode := v },
  textField "delimiter" fun v s => { s with delimiter := v }]

def Translating.unset : Translating :=
  ⟨defaultEndpoint, "", "", defaultTargetLanguage, defaultTimeoutSecs, defaultDelayMs, defaultMode,
    Translation.defaultDelimiter⟩

def Translating.ofDoc (room : Nat) (d : Doc) : Except Error Translating :=
  Member.readStruct "struct TranslationConfig" fields room unset d

def Processing.fields : List (Member Processing) := [
  choiceField "variant" Variant.all fun v s => { s with variant := v },
  { name := "drop_duplicates"
    read _ d s := d.truth.map fun v => { s with dropDuplicates := v } },
  numberField "concurrency" "usize" 64 fun v s => { s with concurrency := v.toUInt64 }]

def Processing.unset : Processing := ⟨defaultVariant, false, defaultConcurrency⟩

def Processing.ofDoc (room : Nat) (d : Doc) : Except Error Processing :=
  Member.readStruct "struct PipelineConfig" fields room unset d

def logLevels : List (String × Log.Level) := Log.Level.all.map fun l => (l.name, l)

def fields : List (Member Settings) := [
  { name := "task_id"
    read _ d s := (d.optional (Doc.text "a string")).map fun v => { s with taskId := v } },
  { name := "store"
    read room d s := (Store.ofDoc room d).map fun v => { s with store := v } },
  { name := "translation"
    read room d s := (Translating.ofDoc room d).map fun v => { s with translation := v } },
  { name := "pipeline"
    read room d s := (Processing.ofDoc room d).map fun v => { s with pipeline := v } },
  choiceField "log_level" logLevels fun v s => { s with logLevel := v }]

def unset : Settings := ⟨none, {}, {}, {}, .info⟩

def ofDoc (room : Nat) (d : Doc) : Except Error Settings :=
  Member.readStruct "struct Config" fields room unset d

def parse (text : String) : Except Error Settings := decode ofDoc text

def Store.parse (text : String) : Except Error Store := decode Store.ofDoc text

def optionalText : Option String → Json
  | none => .null
  | some s => .string s

def Store.toJson (s : Store) : Json := .object [
  ("backend", .string s.backend.name), ("host", .string s.host), ("port", .nat s.port.toNat),
  ("username", .string s.username), ("password", .string s.password),
  ("auth_source", .string s.authSource), ("database", .string s.database),
  ("collection", .string s.collection), ("data_dir", optionalText s.dataDir)]

def Translating.toJson (s : Translating) : Json := .object [
  ("endpoint", .string s.endpoint), ("app_id", .string s.appId), ("secret", .string s.secret),
  ("target_language", .string s.targetLanguage), ("timeout_secs", .nat s.timeoutSecs.toNat),
  ("delay_ms", .nat s.delayMs.toNat), ("mode", .string s.mode.name),
  ("delimiter", .string s.delimiter)]

def Processing.toJson (s : Processing) : Json := .object [
  ("variant", .string s.variant.name), ("drop_duplicates", .bool s.dropDuplicates),
  ("concurrency", .nat s.concurrency.toNat)]

def toJson (s : Settings) : Json := .object [
  ("task_id", optionalText s.taskId), ("store", s.store.toJson),
  ("translation", s.translation.toJson), ("pipeline", s.pipeline.toJson),
  ("log_level", .string s.logLevel.name)]

def write (s : Settings) : String := s.toJson.pretty

end Harvest.Settings
