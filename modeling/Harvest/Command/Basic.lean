import Harvest.Log
import Harvest.Settings.Basic

/-!
Commands and their options.
-/

namespace Harvest

namespace Command

structure RunOptions where
  /-- The file of records; `-` stands for the standard input. -/
  input : String
  variant : Option Settings.Variant := none
  dropDuplicates : Bool := false
  concurrency : Option UInt64 := none
  taskId : Option String := none
  /-- Records stay in memory and translations are echoed. -/
  dryRun : Bool := false
deriving DecidableEq, Repr

end Command

inductive Command
  | run (options : Command.RunOptions)
  | translate (text : String) (target : Option String)
  | checkUrl (url : String)
  /-- Shows the fingerprint of a text, or a random one. -/
  | hash (text : Option String)
  | resolveUrl (page href : String)
deriving DecidableEq, Repr

namespace Command

structure Invocation where
  configPath : String
  logLevel : Option Log.Level
  command : Command
deriving DecidableEq, Repr

def defaultConfigPath : String := "config-spider.json"

def programName : String := "config-spider"

def version : String := "0.1.0"

/-- The settings of a run: its options override what the settings say. -/
def RunOptions.override (o : RunOptions) (s : Settings) : Settings :=
  { s with
    taskId := o.taskId <|> s.taskId
    pipeline := {
      variant := o.variant.getD s.pipeline.variant
      dropDuplicates := o.dropDuplicates || s.pipeline.dropDuplicates
      concurrency := o.concurrency.getD s.pipeline.concurrency } }

end Command

end Harvest
