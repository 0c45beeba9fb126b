import Harvest.Settings.Basic
import Harvest.Text.Blank

/-!
Settings from the environment. A variable that is set and not empty overrides its setting; a port that is
no port is reported and left out.
-/

namespace Harvest.Settings

/-- The variables that override settings. -/
inductive Variable
  | taskId | host | port | username | password | authSource | database | collection | dataDir
  | appId | secret
deriving DecidableEq, Repr

namespace Variable

def name : Variable → String
  | taskId => "CRAWLAB_TASK_ID"
  | host => "CRAWLAB_MONGO_HOST"
  | port => "CRAWLAB_MONGO_PORT"
  | username => "CRAWLAB_MONGO_USERNAME"
  | password => "CRAWLAB_MONGO_PASSWORD"
  | authSource => "CRAWLAB_MONGO_AUTHSOURCE"
  | database => "CRAWLAB_MONGO_DB"
  | collection => "CRAWLAB_COLLECTION"
  | dataDir => "CRAWLAB_DATA_DIR"
  | appId => "CRAWLAB_TRANSLATE_APPID"
  | secret => "CRAWLAB_TRANSLATE_SECRET"

/-- In the order in which they take effect. -/
def all : List Variable :=
  [taskId, host, port, username, password, authSource, database, collection, dataDir, appId, secret]

end Variable

abbrev Environment := String → Option String

/-- A decimal number of at most `2 ^ 16 - 1`, with or without a plus sign. -/
def port? (text : String) : Option UInt16 :=
  let digits := match text.toList with
    | '+' :: rest => rest
    | cs => cs
  if digits.isEmpty ∨ ¬digits.all Char.isDigit then none
  else
    let n : Nat := digits.foldl (fun n c => n * 10 + (c.toNat - 48)) 0
    if n < 65536 then some n.toUInt16 else none

/-- The settings with one variable's value. -/
def setVariable (s : Settings) (v : Variable) (value : String) : Settings :=
  match v with
  | .taskId => { s with taskId := some value }
  | .host => { s with store.host := value }
  | .port =>
    match port? (Text.trim value) with
    | some p => { s with store.port := p }
    | none => s
  | .username => { s with store.username := value }
  | .password => { s with store.password := value }
  | .authSource => { s with store.authSource := value }
  | .database => { s with store.database := value }
  | .collection => { s with store.collection := value }
  | .dataDir => { s with store.dataDir := some value }
  | .appId => { s with translation.appId := value }
  | .secret => { s with translation.secret := value }

def Environment.get? (e : Environment) (v : Variable) : Option String := (e v.name).filter (· ≠ "")

/-- Lets a variable override its setting. -/
def applyVariable (e : Environment) (s : Settings) (v : Variable) : Settings :=
  match e.get? v with
  | some value => s.setVariable v value
  | none => s

/-- Lets all variables override their settings. -/
def applyEnvironment (s : Settings) (e : Environment) : Settings :=
  Variable.all.foldl (applyVariable e) s

def environmentNotes (e : Environment) : List Log.Entry :=
  match e.get? .port with
  | none => []
  | some value =>
    match port? (Text.trim value) with
    | some _ => []
    | none => [Log.warn s!"Ignoring invalid {Variable.port.name}: '{value}'"]

end Harvest.Settings
