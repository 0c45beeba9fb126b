import Harvest.Failure
import Harvest.Log
import Harvest.Translation.Packing

/-!
Settings: where records are stored, how they are translated and how they are processed. Every setting has
a default.
-/

namespace Harvest

namespace Settings

inductive Backend
  /-- A database server. -/
  | mongo
  /-- A file of this machine. -/
  | sqlite
deriving DecidableEq, Repr

/-- How title and content are sent to be translated. -/
inductive Mode
  /-- One call each. -/
  | separate
  /-- One call for both, joined by a delimiter. -/
  | packed
deriving DecidableEq, Repr

/-- What is done with a record. -/
inductive Variant
  | plain
  | translate
deriving DecidableEq, Repr

def Backend.all : List (String × Backend) := [("mongo", .mongo), ("sqlite", .sqlite)]
def Mode.all : List (String × Mode) := [("separate", .separate), ("packed", .packed)]
def Variant.all : List (String × Variant) := [("plain", .plain), ("translate", .translate)]

def Backend.name : Backend → String
  | mongo => "mongo"
  | sqlite => "sqlite"

def Mode.name : Mode → String
  | separate => "separate"
  | packed => "packed"

def Variant.name : Variant → String
  | plain => "plain"
  | translate => "translate"

/-- The variant of a name, in letters of either case. -/
def Variant.ofName? (s : String) : Option Variant := Variant.all.lookup (s.map Char.toLower)

def Variant.unknown (s : String) : Failure := ⟨s!"Invalid pipeline variant: {s}", []⟩

def defaultBackend : Backend := .mongo
def defaultMode : Mode := .separate
def defaultVariant : Variant := .plain
def defaultHost : String := "localhost"
def defaultPort : UInt16 := 27017
def defaultAuthSource : String := "admin"
def defaultDatabase : String := "test"
def defaultCollection : String := "test"
def defaultEndpoint : String := "https://fanyi-api.baidu.com/api/trans/vip/translate"
def defaultTargetLanguage : String := "zh"
def defaultTimeoutSecs : UInt64 := 10
def defaultDelayMs : UInt64 := 1500
def defaultConcurrency : UInt64 := 1

structure Store where
  backend : Backend := defaultBackend
  host : String := defaultHost
  port : UInt16 := defaultPort
  /-- No credentials are sent where this is empty. -/
  username : String := ""
  password : String := ""
  /-- The database that checks the credentials. -/
  authSource : String := defaultAuthSource
  database : String := defaultDatabase
  collection : String := defaultCollection
  /-- The directory of the database file, if not the usual one. -/
  dataDir : Option String := none
deriving DecidableEq, Repr

structure Translating where
  endpoint : String := defaultEndpoint
  appId : String := ""
  secret : String := ""
  targetLanguage : String := defaultTargetLanguage
  timeoutSecs : UInt64 := defaultTimeoutSecs
  /-- The pause between the two calls for one record, in milliseconds. -/
  delayMs : UInt64 := defaultDelayMs
  mode : Mode := defaultMode
  delimiter : String := Translation.defaultDelimiter
deriving DecidableEq, Repr

structure Processing where
  variant : Variant := defaultVariant
  /-- Whether records whose URL is stored already are dropped. -/
  dropDuplicates : Bool := false
  /-- How many records are processed at the same time. -/
  concurrency : UInt64 := defaultConcurrency
deriving DecidableEq, Repr

end Settings

structure Settings where
  taskId : Option String := none
  store : Settings.Store := {}
  translation : Settings.Translating := {}
  pipeline : Settings.Processing := {}
  logLevel : Log.Level := .info
deriving DecidableEq, Repr

/-- The name of the run: the one that is set, or else `fresh`, which is then set. -/
def Settings.ensureTaskId (s : Settings) (fresh : String) : Settings × String :=
  match s.taskId with
  | some id => (s, id)
  | none => ({ s with taskId := some fresh }, fresh)

end Harvest
