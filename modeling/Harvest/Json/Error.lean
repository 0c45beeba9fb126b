import Harvest.Json.Writer
import Harvest.Text.Quoted

/-!
Why a text is not the JSON that is asked for: it breaks the grammar, or it says something else.
-/

namespace Harvest.Json

/-- A breach of the grammar. -/
inductive Flaw
  | valueEnds | objectEnds | listEnds | stringEnds
  | expectedValue | expectedIdent | expectedColon | expectedCommaOrBrace | expectedCommaOrBracket
  | keyMustBeString | trailingComma | trailingCharacters
  | invalidNumber | numberOutOfRange
  | invalidEscape | loneSurrogate | unpairedEscape | controlCharacter
  | tooDeep
deriving DecidableEq, Repr

def Flaw.message : Flaw → String
  | valueEnds => "EOF while parsing a value"
  | objectEnds => "EOF while parsing an object"
  | listEnds => "EOF while parsing a list"
  | stringEnds => "EOF while parsing a string"
  | expectedValue => "expected value"
  | expectedIdent => "expected ident"
  | expectedColon => "expected `:`"
  | expectedCommaOrBrace => "expected `,` or `\x7d`"
  | expectedCommaOrBracket => "expected `,` or `]`"
  | keyMustBeString => "key must be a string"
  | trailingComma => "trailing comma"
  | trailingCharacters => "trailing characters"
  | invalidNumber => "invalid number"
  | numberOutOfRange => "number out of range"
  | invalidEscape => "invalid escape"
  | loneSurrogate => "lone leading surrogate in hex escape"
  | unpairedEscape => "unexpected end of hex escape"
  | controlCharacter => "control character (\\u0000-\\u001F) found while parsing a string"
  | tooDeep => "recursion limit exceeded"

/-- What is found where something else is expected. -/
inductive Kind
  | null | map | sequence
  | bool (value : Bool)
  | number (value : Number)
  | string (value : String)
deriving DecidableEq, Repr

def Kind.text : Kind → String
  | null => "null"
  | map => "map"
  | sequence => "sequence"
  | bool b => s!"boolean `{b}`"
  | number (.integer n) => s!"integer `{n}`"
  | number (.float x) => s!"floating point `{floatFormat.write x}`"
  | string s => "string " ++ Text.quoted s

inductive Error
  | flaw (flaw : Flaw)
  | missingField (name : String)
  | duplicateField (name : String)
  | unknownVariant (found : String) (known : List String)
  | wrongType (found : Kind) (expected : String)
  | outOfRange (found : Int) (expected : String)
deriving DecidableEq, Repr

/-- The names of an enumeration, as a reader is told them. -/
def alternatives (names : List String) : String :=
  match names with
  | [a] => s!"`{a}`"
  | [a, b] => s!"`{a}` or `{b}`"
  | _ => "one of " ++ ", ".intercalate (names.map fun a => s!"`{a}`")

def Error.message : Error → String
  | flaw f => f.message
  | missingField name => s!"missing field `{name}`"
  | duplicateField name => s!"duplicate field `{name}`"
  | unknownVariant found known => s!"unknown variant `{found}`, expected {alternatives known}"
  | wrongType found expected => s!"invalid type: {found.text}, expected {expected}"
  | outOfRange found expected => s!"invalid value: integer `{found}`, expected {expected}"

end Harvest.Json
