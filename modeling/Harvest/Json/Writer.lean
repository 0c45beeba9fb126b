import Harvest.Decimal.Format
import Harvest.Json.Basic

/-!
JSON values as text, on one line or indented. Only quotes, backslashes and the control characters below
the space are escaped.
-/

namespace Harvest.Json

/-- Floating-point numbers are positional from `0.00001` up to sixteen digits before the point. -/
def floatFormat : Decimal.Format := ⟨some (-5), some 15⟩

def writeNumber : Number → List Char
  | .integer n => (toString n).toList
  | .float x => (floatFormat.write x).toList

def hexDigit (n : Nat) : Char := Char.ofNat (if n < 10 then 48 + n else 87 + n)

def escape (c : Char) : List Char :=
  if c = '"' then ['\\', '"']
  else if c = '\\' then ['\\', '\\']
  else if c = '\n' then ['\\', 'n']
  else if c = '\r' then ['\\', 'r']
  else if c = '\t' then ['\\', 't']
  else if c = '\x08' then ['\\', 'b']
  else if c = '\x0c' then ['\\', 'f']
  else if c.toNat < 0x20 then ['\\', 'u', '0', '0', hexDigit (c.toNat / 16), hexDigit (c.toNat % 16)]
  else [c]

def quote (s : String) : List Char := '"' :: s.toList.flatMap escape ++ ['"']

mutual
/-- A value on one line, without any space. -/
def write : Json → List Char
  | null => ['n', 'u', 'l', 'l']
  | bool true => ['t', 'r', 'u', 'e']
  | bool false => ['f', 'a', 'l', 's', 'e']
  | number n => writeNumber n
  | string s => quote s
  | array [] => ['[', ']']
  | array (v :: vs) => '[' :: write v ++ writeItems vs
  | object [] => ['{', '}']
  | object (m :: ms) => '{' :: quote m.1 ++ ':' :: write m.2 ++ writeMembers ms

def writeItems : List Json → List Char
  | [] => [']']
  | v :: vs => ',' :: write v ++ writeItems vs

def writeMembers : List (String × Json) → List Char
  | [] => ['}']
  | (k, v) :: ms => ',' :: quote k ++ ':' :: write v ++ writeMembers ms
end

def compact (v : Json) : String := String.ofList (write v)

def newline (level : Nat) : List Char := '\n' :: List.replicate (2 * level) ' '

mutual
/-- A value with a line for every item and member, indented by two spaces a level. -/
def layout (level : Nat) : Json → List Char
  | null => ['n', 'u', 'l', 'l']
  | bool true => ['t', 'r', 'u', 'e']
  | bool false => ['f', 'a', 'l', 's', 'e']
  | number n => writeNumber n
  | string s => quote s
  | array [] => ['[', ']']
  | array (v :: vs) => '[' :: newline (level + 1) ++ layout (level + 1) v ++ layoutItems level vs
  | object [] => ['{', '}']
  | object (m :: ms) =>
    '{' :: newline (level + 1) ++ quote m.1 ++ ':' :: ' ' :: layout (level + 1) m.2 ++
      layoutMembers level ms

def layoutItems (level : Nat) : List Json → List Char
  | [] => newline level ++ [']']
  | v :: vs => ',' :: newline (level + 1) ++ layout (level + 1) v ++ layoutItems level vs

def layoutMembers (level : Nat) : List (String × Json) → List Char
  | [] => newline level ++ ['}']
  | (k, v) :: ms =>
    ',' :: newline (level + 1) ++ quote k ++ ':' :: ' ' :: layout (level + 1) v ++
      layoutMembers level ms
end

def pretty (v : Json) : String := String.ofList (layout 0 v)

end Harvest.Json
