import Harvest.Text.Split
import Harvest.Translation.Translator

/-!
Translators that never leave the program, for dry runs and rehearsals. Their memory is the number of the
calls so far.
-/

namespace Harvest.Translation

inductive Rehearsal
  /-- Every text is its own translation. -/
  | echo
  /-- The text after its target language in brackets. -/
  | tagged
  /-- Never a usable translation. -/
  | empty
  | failing
  /-- Fails at every multiple of `every` and echoes otherwise. -/
  | intermittent (every : Nat)
  /-- Echoes after a wait. -/
  | slow (milliseconds : Nat)
  /-- Echoes the text without a pattern. -/
  | strip (pattern : String)
  /-- Gives the answers of a list in turn, and none after its end. -/
  | script (answers : List Answer)

namespace Rehearsal

def name : Rehearsal → String
  | script _ => "scripted"
  | _ => "mock"

/-- The answer to the call with number `n`, counted from one. -/
def answer (call : Call) (n : Nat) : Rehearsal → Answer
  | echo | slow _ => .ok call.text
  | tagged => .ok s!"[{call.target}] {call.text}"
  | empty => .ok none
  | failing => .error (.disconnected "mock translator is offline")
  | intermittent every =>
    if every > 0 ∧ n % every = 0 then .error (.requestFailed s!"mock failure on call {n}")
    else .ok call.text
  | strip pattern => .ok (Text.without call.text pattern)
  | script answers => answers.getD (n - 1) (.ok none)

def wait : Rehearsal → Nat
  | slow milliseconds => min milliseconds longestWait
  | _ => 0

def translator (r : Rehearsal) : Translator Nat where
  name := r.name
  translate call n := (⟨r.answer call (n + 1), r.wait, []⟩, n + 1)

end Rehearsal

end Harvest.Translation
