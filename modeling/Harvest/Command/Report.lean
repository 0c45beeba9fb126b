import Harvest.Failure
import Harvest.Log

/-!
What a command writes: its result on the standard output, and log lines and a failure on the standard
error.
-/

namespace Harvest

namespace Log.Level

def colour : Level → String
  | error => "1;31"
  | warn => "1;33"
  | info => "1;32"
  | debug => "1;36"
  | trace => "1;35"

def sign : Level → String
  | error => "❌ "
  | warn => "🚧 "
  | info => " "
  | debug => "🔍 "
  | trace => "📋 "

end Log.Level

def Log.Entry.line (time : String) (e : Log.Entry) : String :=
  s!"\x1b[{e.level.colour}m{time} {e.level.sign} {e.text}\x1b[0m\n"

namespace Failure

/-- A text of which all lines but the first are indented. -/
def indented (margin text : String) : String := text.replace "\n" ("\n" ++ margin)

def padLeft (width : Nat) (s : String) : String :=
  String.ofList (List.replicate (width - s.length) ' ') ++ s

/-- The lines for the causes, numbered where there are several. -/
def causeLines (causes : List String) : List String :=
  match causes with
  | [] => []
  | [cause] => ["    " ++ indented "    " cause]
  | _ => causes.mapIdx fun n cause => padLeft 5 (toString n) ++ ": " ++ indented "       " cause

def report (f : Failure) : String :=
  let causes := match causeLines f.causes with
    | [] => ""
    | lines => "\n\nCaused by:\n" ++ "\n".intercalate lines
  s!"Error: {f.message}{causes}\n"

end Failure

namespace Command

structure Report where
  exitCode : Nat := 0
  stdout : String := ""
  log : List Log.Entry := []
  failure : Option Failure := none

def Report.stderr (time : String) (r : Report) : String :=
  String.join (r.log.map (·.line time)) ++ (r.failure.map Failure.report).getD ""

end Command

end Harvest
