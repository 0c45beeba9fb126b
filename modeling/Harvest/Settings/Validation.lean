import Harvest.Failure
import Harvest.Settings.Basic
import Harvest.Text.Blank

/-!
Which settings are safe to run with. Names that end up in paths and queries are plain identifiers, and of
several defects the first one is reported.
-/

namespace Harvest.Settings

def isIdentifierStart (c : Char) : Bool := c.isAlpha || c = '_'

def isIdentifierPart (c : Char) : Bool := c.isAlphanum || c = '_'

/-- An ASCII letter or underscore, then ASCII letters, digits and underscores. -/
def isIdentifier (s : String) : Bool :=
  match s.toList with
  | [] => false
  | c :: cs => isIdentifierStart c && cs.all isIdentifierPart

inductive Defect
  | databaseName (name : String)
  | collectionName (name : String)
  | blankHost
  | zeroPort
  | blankTarget
  | zeroTimeout
  | emptyDelimiter
  | zeroConcurrency
deriving DecidableEq, Repr

def Defect.message : Defect → String
  | databaseName name => s!"Invalid database name: '{name}'"
  | collectionName name => s!"Invalid collection name: '{name}'"
  | blankHost => "Store host must not be empty"
  | zeroPort => "Store port must not be 0"
  | blankTarget => "Translation target language must not be empty"
  | zeroTimeout => "Translation timeout must be at least one second"
  | emptyDelimiter => "Packed translation mode needs a non-empty delimiter"
  | zeroConcurrency => "Pipeline concurrency must be at least 1"

def defect? (s : Settings) : Option Defect :=
  if ¬isIdentifier s.store.database then some (.databaseName s.store.database)
  else if ¬isIdentifier s.store.collection then some (.collectionName s.store.collection)
  else if s.store.backend = .mongo ∧ Text.isBlankText s.store.host then some .blankHost
  else if s.store.backend = .mongo ∧ s.store.port = 0 then some .zeroPort
  else if Text.isBlankText s.translation.targetLanguage then some .blankTarget
  else if s.translation.timeoutSecs = 0 then some .zeroTimeout
  else if s.translation.mode = .packed ∧ s.translation.delimiter.isEmpty then some .emptyDelimiter
  else if s.pipeline.concurrency = 0 then some .zeroConcurrency
  else none

def validate (s : Settings) : Except Defect Unit :=
  match s.defect? with
  | some d => .error d
  | none => .ok ()

def Defect.toFailure (d : Defect) : Failure := ⟨d.message, []⟩

end Harvest.Settings
