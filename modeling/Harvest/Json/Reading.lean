import Harvest.Json.Decode

/-!
A value that may be taken as a text, as an optional text or as it is. It comes from a document, or from a
value that has been read before.
-/

namespace Harvest.Json

/-- What a value, read once, amounts to in each of the ways in which it may be taken. -/
structure Reading where
  text : Except Error String
  optionalText : Except Error (Option String)
  value : Except Error Json

def Doc.reading (room : Nat) (d : Doc) : Reading :=
  ⟨d.text "a string", d.optional (Doc.text "a string"), d.value room⟩

/-- What a value is, where something else is expected. -/
def kind : Json → Kind
  | null => .null
  | bool b => .bool b
  | number n => .number n
  | string s => .string s
  | array _ => .sequence
  | object _ => .map

def text (expected : String) : Json → Except Error String
  | string s => .ok s
  | v => .error (.wrongType v.kind expected)

def optionalText (expected : String) : Json → Except Error (Option String)
  | null => .ok none
  | v => (v.text expected).map some

def reading (v : Json) : Reading := ⟨v.text "a string", v.optionalText "a string", .ok v.merged⟩

end Harvest.Json
