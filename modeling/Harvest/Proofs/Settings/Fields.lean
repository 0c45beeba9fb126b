import Harvest.Settings.Basic

/-!
Settings seen as a family of fields, each with a type of its own. Settings are known by their fields.
-/

namespace Harvest.Settings

inductive Field
  | taskId
  | backend | host | port | username | password | authSource | database | collection | dataDir
  | endpoint | appId | secret | targetLanguage | timeoutSecs | delayMs | mode | delimiter
  | variant | dropDuplicates | concurrency
  | logLevel
deriving DecidableEq

/-- The type of a field's values; most are texts. -/
abbrev Field.Value : Field → Type
  | taskId | dataDir => Option String
  | backend => Backend
  | port => UInt16
  | timeoutSecs | delayMs | concurrency => UInt64
  | mode => Mode
  | variant => Variant
  | dropDuplicates => Bool
  | logLevel => Log.Level
  | _ => String

def get (s : Settings) : (f : Field) → f.Value
  | .taskId => s.taskId
  | .backend => s.store.backend
  | .host => s.store.host
  | .port => s.store.port
  | .username => s.store.username
  | .password => s.store.password
  | .authSource => s.store.authSource
  | .database => s.store.database
  | .collection => s.store.collection
  | .dataDir => s.store.dataDir
  | .endpoint => s.translation.endpoint
  | .appId => s.translation.appId
  | .secret => s.translation.secret
  | .targetLanguage => s.translation.targetLanguage
  | .timeoutSecs => s.translation.timeoutSecs
  | .delayMs => s.translation.delayMs
  | .mode => s.translation.mode
  | .delimiter => s.translation.delimiter
  | .variant => s.pipeline.variant
  | .dropDuplicates => s.pipeline.dropDuplicates
  | .concurrency => s.pipeline.concurrency
  | .logLevel => s.logLevel

attribute [ext] Store Translating Processing

/-- Settings that agree in each field are the same. -/
theorem eq_of_get_eq {s t : Settings} (same : ∀ f, s.get f = t.get f) : s = t := by
  obtain ⟨taskId, store, translation, pipeline, logLevel⟩ := s
  obtain ⟨taskId', store', translation', pipeline', logLevel'⟩ := t
  have store_eq : store = store' := Store.ext (same .backend) (same .host) (same .port) (same .username)
    (same .password) (same .authSource) (same .database) (same .collection) (same .dataDir)
  have translation_eq : translation = translation' := Translating.ext (same .endpoint) (same .appId) (same .secret)
    (same .targetLanguage) (same .timeoutSecs) (same .delayMs) (same .mode) (same .delimiter)
  have pipeline_eq : pipeline = pipeline' :=
    Processing.ext (same .variant) (same .dropDuplicates) (same .concurrency)
  have taskId_eq : taskId = taskId' := same .taskId
  have logLevel_eq : logLevel = logLevel' := same .logLevel
  rw [taskId_eq, store_eq, translation_eq, pipeline_eq, logLevel_eq]

end Harvest.Settings
