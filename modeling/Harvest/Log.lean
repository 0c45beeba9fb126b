/-!
Log entries, in the order in which they are written.
-/

namespace Harvest

namespace Log

/-- How much an entry matters, the most important first. -/
inductive Level
  | error | warn | info | debug | trace
deriving DecidableEq, Repr

namespace Level

def name : Level → String
  | error => "error"
  | warn => "warn"
  | info => "info"
  | debug => "debug"
  | trace => "trace"

def rank : Level → Nat
  | error => 0
  | warn => 1
  | info => 2
  | debug => 3
  | trace => 4

def all : List Level := [error, warn, info, debug, trace]

/-- Whether entries of level `l` are shown when `bound` is the most detailed level shown. -/
def within (l bound : Level) : Bool := l.rank ≤ bound.rank

end Level

structure Entry where
  level : Level
  text : String
deriving DecidableEq, Repr

def error (text : String) : Entry := ⟨.error, text⟩
def warn (text : String) : Entry := ⟨.warn, text⟩
def info (text : String) : Entry := ⟨.info, text⟩
def debug (text : String) : Entry := ⟨.debug, text⟩

end Log

end Harvest
