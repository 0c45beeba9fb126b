import Harvest.Log
import Harvest.Translation.Failure

/-!
Translators. A translator answers calls one at a time and may remember what it was asked; an answer is a
text, nothing usable, or a failure, and it may keep the caller waiting.
-/

namespace Harvest.Translation

/-- A text to translate and the language to translate it into. -/
structure Call where
  text : String
  target : String
deriving DecidableEq, Repr

/-- The outcome of a call: `none` when the service has no usable translation. -/
abbrev Answer := Except Failure (Option String)

/-- An answer, the milliseconds until it arrives and what is logged on the way. -/
structure Reply where
  answer : Answer
  wait : Nat := 0
  notes : List Log.Entry := []

/-- No wait is longer than thirty years, in milliseconds. -/
def longestWait : Nat := 946080000000

/-- A translator whose memory has type `σ`. -/
structure Translator (σ : Type) where
  name : String
  translate : Call → σ → Reply × σ

/-- The language of calls that name none. -/
def defaultTarget : String := "en"

/-- A translator's memory together with the calls it has received. -/
structure Session (σ : Type) where
  memory : σ
  calls : List Call := []

def Session.ask {σ : Type} (t : Translator σ) (call : Call) (s : Session σ) : Reply × Session σ :=
  let (reply, memory) := t.translate call s.memory
  (reply, ⟨memory, s.calls ++ [call]⟩)

@[simp] theorem Session.ask_calls {σ : Type} (t : Translator σ) (call : Call) (s : Session σ) :
    (s.ask t call).2.calls = s.calls ++ [call] := rfl

end Harvest.Translation
